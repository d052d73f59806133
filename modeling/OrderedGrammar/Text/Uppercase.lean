import OrderedGrammar.Text.Lowercase

/-!
# Capitals

`capitalChar` is the capital of a character.  Where the capital form is made of several characters,
as that of the sharp s is, it is the first of them.
-/

namespace OrderedGrammar.Text

/-- The capitals whose lower case is `n`, in ascending order of the runs. -/
def capitals (n : Nat) : List Nat := caseRuns.filterMap (·.capital? n)

/-- The characters whose capital is not the first that has them as its lower case, each with its
capital. -/
def irregularCapitals : List (Nat × Nat) :=
  [(0xB5, 0x39C), (0xDF, 0x53), (0x131, 0x49), (0x149, 0x2BC), (0x17F, 0x53), (0x1C5, 0x1C4),
   (0x1C8, 0x1C7), (0x1CB, 0x1CA), (0x1F0, 0x4A), (0x1F2, 0x1F1), (0x345, 0x399), (0x390, 0x399),
   (0x3B0, 0x3A5), (0x3C2, 0x3A3), (0x3D0, 0x392), (0x3D1, 0x398), (0x3D5, 0x3A6), (0x3D6, 0x3A0),
   (0x3F0, 0x39A), (0x3F1, 0x3A1), (0x3F5, 0x395), (0x587, 0x535), (0x1C80, 0x412),
   (0x1C81, 0x414), (0x1C82, 0x41E), (0x1C83, 0x421), (0x1C84, 0x422), (0x1C85, 0x422),
   (0x1C86, 0x42A), (0x1C87, 0x462), (0x1C88, 0xA64A), (0x1E96, 0x48), (0x1E97, 0x54),
   (0x1E98, 0x57), (0x1E99, 0x59), (0x1E9A, 0x41), (0x1E9B, 0x1E60), (0x1F50, 0x3A5),
   (0x1F52, 0x3A5), (0x1F54, 0x3A5), (0x1F56, 0x3A5), (0x1F80, 0x1F08), (0x1F81, 0x1F09),
   (0x1F82, 0x1F0A), (0x1F83, 0x1F0B), (0x1F84, 0x1F0C), (0x1F85, 0x1F0D), (0x1F86, 0x1F0E),
   (0x1F87, 0x1F0F), (0x1F88, 0x1F08), (0x1F89, 0x1F09), (0x1F8A, 0x1F0A), (0x1F8B, 0x1F0B),
   (0x1F8C, 0x1F0C), (0x1F8D, 0x1F0D), (0x1F8E, 0x1F0E), (0x1F8F, 0x1F0F), (0x1F90, 0x1F28),
   (0x1F91, 0x1F29), (0x1F92, 0x1F2A), (0x1F93, 0x1F2B), (0x1F94, 0x1F2C), (0x1F95, 0x1F2D),
   (0x1F96, 0x1F2E), (0x1F97, 0x1F2F), (0x1F98, 0x1F28), (0x1F99, 0x1F29), (0x1F9A, 0x1F2A),
   (0x1F9B, 0x1F2B), (0x1F9C, 0x1F2C), (0x1F9D, 0x1F2D), (0x1F9E, 0x1F2E), (0x1F9F, 0x1F2F),
   (0x1FA0, 0x1F68), (0x1FA1, 0x1F69), (0x1FA2, 0x1F6A), (0x1FA3, 0x1F6B), (0x1FA4, 0x1F6C),
   (0x1FA5, 0x1F6D), (0x1FA6, 0x1F6E), (0x1FA7, 0x1F6F), (0x1FA8, 0x1F68), (0x1FA9, 0x1F69),
   (0x1FAA, 0x1F6A), (0x1FAB, 0x1F6B), (0x1FAC, 0x1F6C), (0x1FAD, 0x1F6D), (0x1FAE, 0x1F6E),
   (0x1FAF, 0x1F6F), (0x1FB2, 0x1FBA), (0x1FB3, 0x391), (0x1FB4, 0x386), (0x1FB6, 0x391),
   (0x1FB7, 0x391), (0x1FBC, 0x391), (0x1FBE, 0x399), (0x1FC2, 0x1FCA), (0x1FC3, 0x397),
   (0x1FC4, 0x389), (0x1FC6, 0x397), (0x1FC7, 0x397), (0x1FCC, 0x397), (0x1FD2, 0x399),
   (0x1FD3, 0x399), (0x1FD6, 0x399), (0x1FD7, 0x399), (0x1FE2, 0x3A5), (0x1FE3, 0x3A5),
   (0x1FE4, 0x3A1), (0x1FE6, 0x3A5), (0x1FE7, 0x3A5), (0x1FF2, 0x1FFA), (0x1FF3, 0x3A9),
   (0x1FF4, 0x38F), (0x1FF6, 0x3A9), (0x1FF7, 0x3A9), (0x1FFC, 0x3A9), (0xFB00, 0x46),
   (0xFB01, 0x46), (0xFB02, 0x46), (0xFB03, 0x46), (0xFB04, 0x46), (0xFB05, 0x53), (0xFB06, 0x53),
   (0xFB13, 0x544), (0xFB14, 0x544), (0xFB15, 0x544), (0xFB16, 0x54E), (0xFB17, 0x544)]

/-- The capital of a code point, or the first character of its capital form. -/
def capitalCode (n : Nat) : Nat :=
  match irregularCapitals.find? (·.1 == n) with
  | some (_, capital) => capital
  | none => (capitals n).headD n

/-- The capital of a character, or the first character of its capital form. -/
def capitalChar (c : Char) : Char := Char.ofNat (capitalCode c.toNat)

end OrderedGrammar.Text
