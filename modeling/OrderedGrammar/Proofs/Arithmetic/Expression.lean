import Mathlib.Data.Int.Notation
import Mathlib.Order.Lattice
import OrderedGrammar.Examples.Arithmetic
import OrderedGrammar.Proofs.Notation.Syntax

/-!
# The abstract syntax of arithmetic

Expressions without a word on how they are matched:

    expression = term (('+' | '-') term)*
    term       = factor (('*' | '/') factor)*
    factor     = ['+' | '-'] primary
    primary    = digits | '(' expression ')'

Sums and products are rows of operands, and only in their operators and operands do they differ, so
that they are one construction over two levels.

## Main definitions

* `Phrase`, `Rest` : the trees, by what they stand for.
* `Phrase.value` : the value, with operations carried out from left to right.
* `Phrase.lexemes` : what is written.
* `Renders` : how lexemes are written in a text.
* `Phrase.frames` : how many alternatives are nested when an expression is matched.
-/

namespace OrderedGrammar.Arithmetic

open Notation (Lexeme)

/-! ### Trees -/

/-- Sums and differences, or products and quotients. -/
inductive Level where
  | sum
  | product
  deriving DecidableEq

/-- The operators of a level. -/
inductive Operator : Level → Type where
  | plus : Operator .sum
  | minus : Operator .sum
  | times : Operator .product
  | divide : Operator .product
  deriving DecidableEq

/-- What a phrase is. -/
inductive Category where
  /-- A row of operands with the operators of a level between them. -/
  | row (l : Level)
  | factor
  | primary

/-- The operands of a level. -/
def Level.operand : Level → Category
  | .sum => .row .product
  | .product => .factor

/-- Decimal digits of any script, one at least. -/
structure Numeral where
  digits : List Char
  ne_nil : digits ≠ []
  isDecimal : ∀ c ∈ digits, Text.isDecimal c

mutual

/-- A phrase of a category. -/
inductive Phrase : Category → Type where
  | number (n : Numeral) : Phrase .primary
  | group (body : Phrase (.row .sum)) : Phrase .primary
  | factor (sign : Option (Operator .sum)) (operand : Phrase .primary) : Phrase .factor
  | row {l : Level} (first : Phrase l.operand) (rest : Rest l) : Phrase (.row l)

/-- The operands of a row behind the first one, each with the operator in front of it. -/
inductive Rest : Level → Type where
  | nil {l : Level} : Rest l
  | cons {l : Level} (op : Operator l) (operand : Phrase l.operand) (rest : Rest l) : Rest l

end

/-- A whole expression. -/
abbrev Expression := Phrase (.row .sum)

/-! ### Values -/

/-- The number that digits write. -/
def Numeral.value (n : Numeral) : ℕ :=
  n.digits.foldl (fun value c => 10 * value + (Text.digitValue? c).getD 0) 0

/-- The value of an operation, if it does not divide by zero.  Quotients are rounded down. -/
def Operator.apply {l : Level} : Operator l → ℤ → ℤ → Option ℤ
  | .plus, a, b => some (a + b)
  | .minus, a, b => some (a - b)
  | .times, a, b => some (a * b)
  | .divide, a, b => if b = 0 then none else some (a.fdiv b)

mutual

/-- The value of a phrase, if its evaluation does not divide by zero. -/
def Phrase.value {c : Category} : Phrase c → Option ℤ
  | .number n => some n.value
  | .group body => body.value
  | .factor (some .minus) operand => operand.value.map (- ·)
  | .factor (some .plus) operand => operand.value
  | .factor none operand => operand.value
  | .row first rest => first.value.bind rest.value

/-- The value of a row that has come to `total`, the operations being carried out from left to
right. -/
def Rest.value {l : Level} : Rest l → ℤ → Option ℤ
  | .nil, total => some total
  | .cons op operand rest, total =>
    (operand.value.bind fun value => op.apply total value).bind rest.value

end

/-! ### Lexemes -/

/-- An operator as it is written. -/
def Operator.lexeme {l : Level} : Operator l → Lexeme
  | .plus => ("PLUS_OP", "+")
  | .minus => ("MINUS_OP", "-")
  | .times => ("MUL_OP", "*")
  | .divide => ("DIV_OP", "/")

mutual

/-- The lexemes of a phrase. -/
def Phrase.lexemes {c : Category} : Phrase c → List Lexeme
  | .number n => [("NUMBER_LITERAL", String.ofList n.digits)]
  | .group body => ("LPAREN", "(") :: (body.lexemes ++ [("RPAREN", ")")])
  | .factor sign operand => sign.toList.map (·.lexeme) ++ operand.lexemes
  | .row first rest => first.lexemes ++ rest.lexemes

/-- The lexemes of the operands behind the first one. -/
def Rest.lexemes {l : Level} : Rest l → List Lexeme
  | .nil => []
  | .cons op operand rest => op.lexeme :: (operand.lexemes ++ rest.lexemes)

end

/-- Whether lexemes are written in a text: one behind the other, with any whitespace in front of
each of them and at the end. -/
inductive Renders : List Lexeme → List Char → Prop
  | done {gap : List Char} : gap.all Text.isSpace → Renders [] gap
  | lexeme {gap cs : List Char} {x : Lexeme} {lexemes : List Lexeme} : gap.all Text.isSpace →
      Renders lexemes cs → Renders (x :: lexemes) (gap ++ x.2.toList ++ cs)

/-! ### Nesting -/

mutual

/-- How many alternatives are nested when a phrase is matched.  A row has an alternative for its
operands inside its own. -/
def Phrase.frames {c : Category} : Phrase c → ℕ
  | .number _ => 1
  | .group body => body.frames + 1
  | .factor _ operand => operand.frames + 1
  | .row first rest => max first.frames rest.frames + 2

/-- How many are nested inside of the alternative for the operands. -/
def Rest.frames {l : Level} : Rest l → ℕ
  | .nil => 0
  | .cons _ operand rest => max (operand.frames + 1) rest.frames

end

end OrderedGrammar.Arithmetic
