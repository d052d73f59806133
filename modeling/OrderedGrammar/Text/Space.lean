import OrderedGrammar.Text.Ranges

/-!
# Whitespace

The whitespace characters, and texts without the whitespace around them.
-/

namespace OrderedGrammar.Text

/-- The whitespace characters, as ascending ranges. -/
def spaceRanges : List (Nat × Nat) :=
  [(0x9, 0xD), (0x1C, 0x20), (0x85, 0x85), (0xA0, 0xA0), (0x1680, 0x1680), (0x2000, 0x200A),
   (0x2028, 0x2029), (0x202F, 0x202F), (0x205F, 0x205F), (0x3000, 0x3000)]

/-- Whether `c` is whitespace. -/
def isSpace (c : Char) : Bool := inRanges spaceRanges c.toNat

/-- A text without the whitespace at its start. -/
def trimStart (cs : List Char) : List Char := cs.dropWhile isSpace

/-- A text without the whitespace at its end. -/
def trimEnd (cs : List Char) : List Char := (cs.reverse.dropWhile isSpace).reverse

/-- A text without the whitespace around it. -/
def trim (cs : List Char) : List Char := trimEnd (trimStart cs)

end OrderedGrammar.Text
