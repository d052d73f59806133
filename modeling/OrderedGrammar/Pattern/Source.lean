import OrderedGrammar.Pattern.Refusal

/-!
# The text of a pattern

What is still to be read of a pattern's text, with the position of it, and the steps that take
characters, names and numbers from its front.  A backslash and the character behind it are one
unit, so that neither a name nor a comment ends within.

## Main definitions

* `Source` : the text that is still to be read.
* `Reading` : a reading step, which can fail.
-/

namespace OrderedGrammar.Pattern

/-- A reading step: its result, or the fault and the place of it. -/
abbrev Reading := Except (Fault × Option Nat)

/-- Reading fails at `position`. -/
def refuse {α : Type} (fault : Fault) (position : Nat) : Reading α :=
  .error (fault, some position)

/-- The text that is still to be read, and its position in the pattern. -/
structure Source where
  rest : List Char
  position : Nat

namespace Source

/-- Leaves out the next `n` characters. -/
def drop (s : Source) (n : Nat) : Source := ⟨s.rest.drop n, s.position + n⟩

/-- One character, or a backslash together with the character behind it. -/
def unit? (s : Source) : Option (List Char × Source) :=
  match s.rest with
  | [] => none
  | ['\\'] => some (['\\'], s.drop 1)
  | '\\' :: c :: _ => some (['\\', c], s.drop 2)
  | c :: _ => some ([c], s.drop 1)

/-- The characters up to the first that is not `allowed`, and at most `limit` of them. -/
def takeUpTo (s : Source) (limit : Nat) (allowed : Char → Bool) : List Char × Source :=
  let taken := (s.rest.take limit).takeWhile allowed
  (taken, s.drop taken.length)

/-- All characters up to the first that is not `allowed`. -/
def takeWhile (s : Source) (allowed : Char → Bool) : List Char × Source :=
  let taken := s.rest.takeWhile allowed
  (taken, s.drop taken.length)

/-- The text up to the first unit that is the terminator, and what follows that. -/
def splitAt? (terminator : Char) : List Char → Option (List Char × List Char)
  | [] => none
  | '\\' :: c :: rest =>
    (splitAt? terminator rest).map fun (text, rest) => ('\\' :: c :: text, rest)
  | c :: rest =>
    if c == terminator then some ([], rest)
    else (splitAt? terminator rest).map fun (text, rest) => (c :: text, rest)

/-- Reads the text up to the terminator, which is left out. -/
def takeUntil? (s : Source) (terminator : Char) : Option (List Char × Source) :=
  (splitAt? terminator s.rest).map fun (text, rest) =>
    (text, ⟨rest, s.position + text.length + 1⟩)

/-- Reads a name of what `noun` tells, up to the terminator. -/
def readName (s : Source) (terminator : Char) (noun : String) : Reading (List Char × Source) :=
  match s.takeUntil? terminator with
  | none =>
    refuse (if s.rest.isEmpty then .missingName noun else .unclosedName terminator) s.position
  | some ([], _) => refuse (.missingName noun) s.position
  | some (name, s') => .ok (name, s')

end Source

/-! ### Numbers -/

/-- Whether `c` is a digit of an octal number. -/
def isOctal (c : Char) : Bool := '0' ≤ c && c ≤ '7'

/-- Whether `c` is a digit of a hexadecimal number. -/
def isHex (c : Char) : Bool := c.isDigit || ('a' ≤ c && c ≤ 'f') || ('A' ≤ c && c ≤ 'F')

/-- The value of a digit up to `f`. -/
def digitValue (c : Char) : Nat :=
  if c.isDigit then c.toNat - 0x30 else c.toLower.toNat - 0x57

/-- The number that the digits `cs` write. -/
def numeral (base : Nat) (cs : List Char) : Nat := cs.foldl (fun n c => base * n + digitValue c) 0

end OrderedGrammar.Pattern
