/-!
# Rows of names

Characters that follow each other have names that begin alike, so a table writes a name as what it
adds to the name before.  `NameRun.names` gives the names in full, and `NameRun.find?` the character
of a name.
-/

namespace OrderedGrammar.Text.CharName

/-- The names of a row of characters, the first of which is `first`.  A small letter opens each name
and tells how many pieces it has in common with the name before: none for `a`, one for `b`, and so
on.  A piece ends with a space or a hyphen.  What follows the letter is the rest of the name. -/
structure NameRun where
  first : Nat
  lines : List String

/-- The first `count` pieces of a name. -/
def firstPieces : Nat → List Char → List Char
  | 0, _ => []
  | _, [] => []
  | count + 1, c :: cs =>
    c :: if c == ' ' || c == '-' then firstPieces count cs else firstPieces (count + 1) cs

/-- The full names that a row's text writes after the name `before`. -/
def namesAfter (before : List Char) : List Char → List (List Char)
  | [] => []
  | letter :: cs =>
    let name := firstPieces (letter.toNat - 0x61) before ++ cs.takeWhile (!·.isLower)
    name :: namesAfter name (cs.dropWhile (!·.isLower))
termination_by cs => cs.length
decreasing_by
  simp only [List.length_cons]
  exact Nat.lt_succ_of_le (List.dropWhile_suffix _).length_le

/-- The names of a row's characters, in their order. -/
def NameRun.names (r : NameRun) : List (List Char) := namesAfter [] (r.lines.flatMap String.toList)

/-- The code point of the row's character that has the name. -/
def NameRun.find? (r : NameRun) (name : List Char) : Option Nat :=
  (r.names.idxOf? name).map (r.first + ·)

/-- The code point of the character that has the name in one of the rows. -/
def find? (runs : List NameRun) (name : List Char) : Option Nat :=
  runs.findSome? (·.find? name)

end OrderedGrammar.Text.CharName
