import OrderedGrammar.Text.Uppercase

/-!
# Characters that differ in case only

Two characters are variants of each other when their lower cases are equal or stand in one class
of small letters with a common capital, such as the dotted and the dotless i.  `variants c` lists
every variant of `c`; a set of characters holds `c` caselessly when it holds one of them.
-/

namespace OrderedGrammar.Text

/-- The classes of different small letters with a common capital. -/
def siblingClasses : List (List Nat) :=
  [[0x69, 0x131], [0x73, 0x17F], [0xB5, 0x3BC], [0x345, 0x3B9, 0x1FBE], [0x390, 0x1FD3],
   [0x3B0, 0x1FE3], [0x3B2, 0x3D0], [0x3B5, 0x3F5], [0x3B8, 0x3D1], [0x3BA, 0x3F0], [0x3C0, 0x3D6],
   [0x3C1, 0x3F1], [0x3C2, 0x3C3], [0x3C6, 0x3D5], [0x432, 0x1C80], [0x434, 0x1C81],
   [0x43E, 0x1C82], [0x441, 0x1C83], [0x442, 0x1C84, 0x1C85], [0x44A, 0x1C86], [0x463, 0x1C87],
   [0x1C88, 0xA64B], [0x1E61, 0x1E9B], [0xFB05, 0xFB06]]

/-- The small letters that count as the small letter `n`. -/
def siblings (n : Nat) : List Nat := (siblingClasses.find? (·.contains n)).getD [n]

/-- The variants of an ASCII character. -/
def asciiVariants (c : Char) : List Char :=
  if c.isAlpha then
    let small := c.toLower
    let extra : List Nat := match small with
      | 'i' => [0x130, 0x131]
      | 'k' => [0x212A]
      | 's' => [0x17F]
      | _ => []
    small :: c.toUpper :: extra.map Char.ofNat
  else [c]

/-- All characters, `c` itself included, that differ from `c` in case only. -/
def variants (c : Char) : List Char :=
  if c.toNat < 0x80 then asciiVariants c
  else ((siblings (lowerChar c).toNat).flatMap fun n => n :: capitals n).map Char.ofNat

end OrderedGrammar.Text
