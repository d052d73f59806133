import OrderedGrammar.Text.Ranges

/-!
# Formed names

Some characters have no name in a table, but one that a rule forms: from the sounds of a Hangul
syllable, or from the number of a character in base sixteen.
-/

namespace OrderedGrammar.Text.CharName

/-- What is left of a text after the part that it begins with. -/
def afterPart? : List Char → List Char → Option (List Char)
  | [], cs => some cs
  | _ :: _, [] => none
  | p :: ps, c :: cs => if p == c then afterPart? ps cs else none

/-! ### Hangul syllables -/

/-- The consonants that begin a syllable. -/
def leadingSounds : List String :=
  ["G", "GG", "N", "D", "DD", "R", "M", "B", "BB", "S", "SS", "", "J", "JJ", "C", "K", "T", "P",
   "H"]

/-- The vowels. -/
def vowelSounds : List String :=
  ["A", "AE", "YA", "YAE", "EO", "E", "YEO", "YE", "O", "WA", "WAE", "OE", "YO", "U", "WEO", "WE",
   "WI", "YU", "EU", "YI", "I"]

/-- The consonants that end a syllable. -/
def trailingSounds : List String :=
  ["", "G", "GG", "GS", "N", "NJ", "NH", "D", "L", "LG", "LM", "LB", "LS", "LT", "LP", "LH", "M",
   "B", "BS", "S", "SS", "NG", "J", "C", "K", "T", "P", "H"]

/-- The code point of the syllable that is made of the sounds.  The syllables stand in the order of
their leading sound, then of their vowel, then of their trailing sound. -/
def syllable? (sounds : List Char) : Option Nat :=
  leadingSounds.zipIdx.findSome? fun (leading, i) =>
    (afterPart? leading.toList sounds).bind fun sounds =>
      vowelSounds.zipIdx.findSome? fun (vowel, j) =>
        (afterPart? vowel.toList sounds).bind fun sounds =>
          (trailingSounds.findIdx? (·.toList == sounds)).map fun k =>
            0xAC00 + (i * vowelSounds.length + j) * trailingSounds.length + k

/-! ### Characters named by their number -/

/-- The value of a digit in base sixteen that is no small letter. -/
def hexValue? (c : Char) : Option Nat :=
  if c.isDigit then some (c.toNat - 0x30)
  else if 'A' ≤ c ∧ c ≤ 'F' then some (c.toNat - 0x37)
  else none

/-- The number that four or five digits in base sixteen write. -/
def hexNumber? (cs : List Char) : Option Nat :=
  if cs.length == 4 || cs.length == 5 then
    cs.foldlM (fun n c => (hexValue? c).map (16 * n + ·)) 0
  else none

/-- The unified ideographs. -/
def unifiedIdeographs : List (Nat × Nat) :=
  [(0x3400, 0x4DBF), (0x4E00, 0x9FFF), (0x20000, 0x2A6DF), (0x2A700, 0x2B738), (0x2B740, 0x2B81D),
   (0x2B820, 0x2CEA1), (0x2CEB0, 0x2EBE0), (0x30000, 0x3134A)]

/-- The other characters that are named by their number, under the title of each group. -/
def numberedGroups : List (String × List (Nat × Nat)) :=
  [("CJK COMPATIBILITY IDEOGRAPH-", [(0xF900, 0xFA6D), (0xFA70, 0xFAD9), (0x2F800, 0x2FA1D)]),
   ("KHITAN SMALL SCRIPT CHARACTER-", [(0x18B00, 0x18CD5)]),
   ("NUSHU CHARACTER-", [(0x1B170, 0x1B2FB)])]

/-- The character of one of the ranges that has the number as its code point. -/
def numbered? (ranges : List (Nat × Nat)) (number : List Char) : Option Nat :=
  (hexNumber? number).filter (inRanges ranges)

/-! ### All formed names -/

/-- The code point of the syllable or the unified ideograph of a name.  Its number may begin with
a zero. -/
def syllableOrIdeograph? (name : List Char) : Option Nat :=
  match afterPart? "HANGUL SYLLABLE ".toList name with
  | some sounds => syllable? sounds
  | none => (afterPart? "CJK UNIFIED IDEOGRAPH-".toList name).bind (numbered? unifiedIdeographs)

/-- The code point of a character of the numbered groups.  Its number does not begin with a
zero. -/
def groupMember? (name : List Char) : Option Nat :=
  numberedGroups.findSome? fun (title, ranges) =>
    ((afterPart? title.toList name).filter (·.head? != some '0')).bind (numbered? ranges)

end OrderedGrammar.Text.CharName
