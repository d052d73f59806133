import OrderedGrammar.Text.Caseless
import OrderedGrammar.Text.Digit
import OrderedGrammar.Text.Space
import OrderedGrammar.Text.Word

/-!
# Sets of characters

What one character of a text is compared with: a single character, or the union of single
characters, ranges of code points and the classes of digits, whitespace and word characters, or
what lies outside of it.

When case does not count, a character stands for all its variants.  Characters beyond the basic
plane, those from `0x10000` on, are exceptions inside a union: a single one is compared with the
small letter only, so that a capital there is never met, and a range that reaches beyond the plane
takes in what has its capital in the range.

## Main definitions

* `CaseRule` : how far the case of letters counts.
* `CharSet.holds` : whether a set holds a character.
-/

namespace OrderedGrammar.Pattern

/-- How far the case of letters counts. -/
inductive CaseRule where
  /-- Letters of different case are different. -/
  | strict
  /-- The case of ASCII letters does not count. -/
  | ascii
  /-- The case of no letter counts. -/
  | full
  deriving DecidableEq, Repr

namespace CaseRule

/-- The character that all variants of `c` are compared by. -/
def lower : CaseRule → Char → Char
  | strict, c => c
  | ascii, c => c.toLower
  | full, c => Text.lowerChar c

/-- The characters that differ from `c`, if at all, in a way that does not count. -/
def variants : CaseRule → Char → List Char
  | strict, c => [c]
  | ascii, c => if c.isAlpha then [c.toLower, c.toUpper] else [c]
  | full, c => Text.variants c

end CaseRule

/-- A class of characters that has a name. -/
inductive CharClass where
  | digit
  | space
  | word
  deriving DecidableEq, Repr

namespace CharClass

/-- Whether the class holds `c`. -/
def holds : CharClass → Char → Bool
  | digit, c => Text.isDecimal c
  | space, c => Text.isSpace c
  | word, c => Text.isWord c

/-- Whether the class holds `c` when it is confined to ASCII.  The separators from `0x1C` to `0x1F`
are no whitespace then. -/
def holdsAscii : CharClass → Char → Bool
  | digit, c => c.isDigit
  | space, c => c == ' ' || (0x9 ≤ c.toNat && c.toNat ≤ 0xD)
  | word, c => c.isAlphanum || c == '_'

end CharClass

/-- A part of a union. -/
inductive CharItem where
  /-- A code point. -/
  | one (n : Nat)
  /-- A closed range of code points. -/
  | range (first last : Nat)
  /-- A class, or all that is not in it. -/
  | named (cls : CharClass) (ascii negated : Bool)
  deriving DecidableEq, Repr

/-- The first code point beyond the basic plane. -/
def planeEnd : Nat := 0x10000

/-- Whether the part holds `c`, whose variants are `variants`. -/
def CharItem.holds (rule : CaseRule) (variants : List Char) (c : Char) : CharItem → Bool
  | .one n =>
    if n < planeEnd then variants.any fun x => x.toNat == n else (rule.lower c).toNat == n
  | .range first last =>
    let inside (x : Char) : Bool := first ≤ x.toNat && x.toNat ≤ last
    variants.any inside ||
      (rule != .strict && planeEnd ≤ last && inside (Text.capitalChar (rule.lower c)))
  | .named cls ascii negated => (if ascii then cls.holdsAscii c else cls.holds c) != negated

/-- A set of characters. -/
inductive CharSet where
  /-- All characters. -/
  | all
  /-- All characters but the newline. -/
  | notNewline
  /-- The variants of one character, or all characters but these. -/
  | single (n : Nat) (negated : Bool) (rule : CaseRule)
  /-- The characters in one of the parts, or all that are in none. -/
  | union (items : List CharItem) (negated : Bool) (rule : CaseRule)
  deriving DecidableEq, Repr

namespace CharSet

/-- Whether the set holds `c`. -/
def holds : CharSet → Char → Bool
  | all, _ => true
  | notNewline, c => c != '\n'
  | single n negated rule, c => ((rule.variants c).any fun x => x.toNat == n) != negated
  | union items negated rule, c => items.any (CharItem.holds rule (rule.variants c) c) != negated

/-- The set of the given parts.  A single character is no union. -/
def ofItems (items : List CharItem) (negated : Bool) (rule : CaseRule) : CharSet :=
  match items.eraseDups with
  | [.one n] => single n negated rule
  | items => union items negated rule

/-- The parts of which the set holds the union. -/
def items? : CharSet → Option (List CharItem)
  | single n false _ => some [.one n]
  | union items false _ => some items
  | _ => none

end CharSet

end OrderedGrammar.Pattern
