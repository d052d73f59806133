import Mathlib.Data.List.DropRight
import Mathlib.Data.List.Infix
import Mathlib.Data.String.Basic
import OrderedGrammar.Examples.Filter
import OrderedGrammar.Proofs.Notation.Syntax

/-!
# The abstract syntax of filters

Conditions without a word on how they are matched:

    condition = term ('OR' term)*
    term      = primary ('AND' primary)*
    primary   = test | '(' condition ')'
    test      = operand operator operand
              | operand ['NOT'] relation
    relation  = 'IN' '(' operand (',' operand)* ')' | 'BETWEEN' operand 'AND' operand
              | 'CONTAINS' operand | 'ISBLANK'

Disjunctions and conjunctions are rows of operands, and differ in the answer that decides them
only, so that they are one construction over two levels.

What a condition says of a record is given by recursion on the tree (`Phrase.eval`).  A row is
evaluated from left to right up to the first operand that decides it or fails.

## Main definitions

* `Operand`, `Relation`, `Test`, `Phrase`, `Rest` : the trees, by what they stand for.
* `Phrase.eval` : the answer of a condition, or the error that is met first.
* `Phrase.compared` : the operands that columns are compared with.
* `Phrase.lexemes` : the kinds of tokens, with the texts of operands.
-/

namespace OrderedGrammar.Filter

open Notation (Lexeme)

/-! ### Operands -/

/-- What an operand is written as. -/
inductive OperandKind where
  | string
  | number
  | identifier
  deriving DecidableEq

/-- The kind of an operand's token. -/
def OperandKind.name : OperandKind → String
  | .string => "LITERAL_STRING"
  | .number => "LITERAL_NUMBER"
  | .identifier => "IDENTIFIER"

/-- The integer that the text of a number literal writes, if it writes one. -/
def integerOf? (text : String) : Option ℤ := Text.groupedInteger? (Text.trim text.toList)

/-- An operand.  A number can be read. -/
structure Operand where
  kind : OperandKind
  text : String
  readable : kind = .number → (integerOf? text).isSome

namespace Operand

/-- The column that an operand names. -/
def name (o : Operand) : String := Text.lowercase o.text

/-- The value of an operand as a literal: a number, or a text without the quotes around it. -/
def value (o : Operand) : Value :=
  if h : o.kind = .number then .int ((integerOf? o.text).get (o.readable h))
  else .text (String.ofList ((o.text.toList.dropWhile (· = '\'')).rdropWhile (· = '\'')))

/-- An operand as it is written. -/
def lexeme (o : Operand) : Lexeme := (o.kind.name, o.text)

end Operand

/-! ### Comparisons of values -/

/-- What a comparison by order says of two elements. -/
def Order.Holds {α : Type} [LinearOrder α] : Order → α → α → Prop
  | .less, a, b => a < b
  | .lessOrEqual, a, b => a ≤ b
  | .greater, a, b => b < a
  | .greaterOrEqual, a, b => b ≤ a

instance {α : Type} [LinearOrder α] : (order : Order) → (a b : α) → Decidable (order.Holds a b)
  | .less, a, b => inferInstanceAs (Decidable (a < b))
  | .lessOrEqual, a, b => inferInstanceAs (Decidable (a ≤ b))
  | .greater, a, b => inferInstanceAs (Decidable (b < a))
  | .greaterOrEqual, a, b => inferInstanceAs (Decidable (b ≤ a))

/-- What a comparison says of two values.  Texts and numbers are in no order. -/
def Comparison.eval : Comparison → Value → Value → Except Error Bool
  | .equal, a, b => .ok (a = b)
  | .notEqual, a, b => .ok (a ≠ b)
  | .order o, .int a, .int b => .ok (o.Holds a b)
  | .order o, .text a, .text b => .ok (o.Holds a b)
  | .order o, a, b => .error (.notOrdered o a b)

/-- Whether a value contains another one.  This is asked of two texts only. -/
def Value.includes : Value → Value → Except Error Bool
  | .int _, _ => .error .notContainer
  | .text _, .int _ => .error .numberInText
  | .text whole, .text part => .ok (part.toList <:+: whole.toList)

/-! ### Tests -/

/-- What is asked of the value of a column. -/
inductive Relation where
  | among (first : Operand) (others : List Operand)
  | between (low high : Operand)
  | containing (part : Operand)
  | blank

/-- What a relation says of a value.  The upper bound is left alone if the lower one excludes the
value. -/
def Relation.eval : Relation → Value → Except Error Bool
  | .among first others, v => .ok (v ∈ (first :: others).map Operand.value)
  | .between low high, v => do
    if ← (Comparison.order .lessOrEqual).eval low.value v then
      (Comparison.order .lessOrEqual).eval v high.value
    else return false
  | .containing part, v => v.includes part.value
  | .blank, v => .ok (v = .int 0 ∨ v = .text "")

/-- A test of a column. -/
inductive Test where
  | comparison (left : Operand) (operator : Comparison) (right : Operand)
  | relation (left : Operand) (negated : Bool) (asked : Relation)

/-- The operand that names the column. -/
def Test.left : Test → Operand
  | .comparison left _ _ => left
  | .relation left _ _ => left

/-- What a test says of the value of its column. -/
def Test.holds : Test → Value → Except Error Bool
  | .comparison _ operator right, v => operator.eval v right.value
  | .relation _ false asked, v => asked.eval v
  | .relation _ true asked, v => (asked.eval v).map (!·)

/-- What a test says of a record. -/
def Test.eval (t : Test) (record : Record) : Except Error Bool :=
  match record.lookup t.left.name with
  | some v => t.holds v
  | none => .error (.unknownColumn t.left.name)

/-! ### Conditions -/

/-- Rows of operands with `OR` or with `AND` between them. -/
inductive Level where
  | disjunction
  | conjunction

/-- What a phrase is. -/
inductive Category where
  | row (l : Level)
  | primary

/-- The operands of a level. -/
def Level.operand : Level → Category
  | .disjunction => .row .conjunction
  | .conjunction => .primary

mutual

/-- A phrase of a category. -/
inductive Phrase : Category → Type where
  | test (t : Test) : Phrase .primary
  | group (body : Phrase (.row .disjunction)) : Phrase .primary
  | row {l : Level} (first : Phrase l.operand) (rest : Rest l) : Phrase (.row l)

/-- The operands of a row behind the first one. -/
inductive Rest : Level → Type where
  | nil {l : Level} : Rest l
  | cons {l : Level} (operand : Phrase l.operand) (rest : Rest l) : Rest l

end

/-- A whole condition. -/
abbrev Condition := Phrase (.row .disjunction)

/-- The answer of an operand that decides a row, so that the operands behind it do not count. -/
def Level.decisive : Level → Bool
  | .disjunction => true
  | .conjunction => false

/-- The answer of a row that begins with an operand.  What is behind an operand counts if the
operand neither decides the row nor fails. -/
def Level.join (l : Level) (first rest : Except Error Bool) : Except Error Bool :=
  match first with
  | .ok answer => if answer = l.decisive then .ok answer else rest
  | .error e => .error e

mutual

/-- **The answer of a phrase for a record**, or the error that is met first. -/
def Phrase.eval {c : Category} : Phrase c → Record → Except Error Bool
  | .test t, record => t.eval record
  | .group body, record => body.eval record
  | .row (l := l) first rest, record => l.join (first.eval record) (rest.eval record)

/-- The answer of the operands behind the first one. -/
def Rest.eval {l : Level} : Rest l → Record → Except Error Bool
  | .nil, _ => .ok !l.decisive
  | .cons operand rest, record => l.join (operand.eval record) (rest.eval record)

end

/-! ### Compared operands -/

/-- How many digits an operand has if it is a number. -/
def Operand.digits (o : Operand) : ℕ :=
  if o.kind = .number then o.text.toList.countP Text.isDecimal else 0

/-- Whether an operand has no more digits than are read. -/
def Operand.IsShort (digits : Option ℕ) (o : Operand) : Prop := ∀ most ∈ digits, o.digits ≤ most

/-- The operands that a relation compares with. -/
def Relation.compared : Relation → List Operand
  | .among first others => first :: others
  | .between low high => [low, high]
  | .containing part => [part]
  | .blank => []

/-- The operands of a test but for the column. -/
def Test.compared : Test → List Operand
  | .comparison _ _ right => [right]
  | .relation _ _ asked => asked.compared

mutual

/-- The operands of a phrase but for the columns. -/
def Phrase.compared {c : Category} : Phrase c → List Operand
  | .test t => t.compared
  | .group body => body.compared
  | .row first rest => first.compared ++ rest.compared

/-- The operands of those behind the first one, but for the columns. -/
def Rest.compared {l : Level} : Rest l → List Operand
  | .nil => []
  | .cons operand rest => operand.compared ++ rest.compared

end

/-! ### Lexemes -/

/-- The kinds of tokens of which the text counts. -/
def operandKinds : List String := ["LITERAL_STRING", "LITERAL_NUMBER", "IDENTIFIER"]

/-- A word or a sign, of which only the kind counts. -/
def sign (kind : String) : Lexeme := (kind, "")

/-- What counts of a token. -/
def lexemeOf (t : Token) : Lexeme := (t.kind, if t.kind ∈ operandKinds then t.text else "")

/-- The kinds of tokens that compare, in the order in which they are tried. -/
def comparisonKinds : List String := ["EQ_OP", "NE_OP", "LT_OP", "LE_OP", "GT_OP", "GE_OP"]

/-- The kind of a comparison's token. -/
def Comparison.kind : Comparison → String
  | .equal => "EQ_OP"
  | .notEqual => "NE_OP"
  | .order .less => "LT_OP"
  | .order .lessOrEqual => "LE_OP"
  | .order .greater => "GT_OP"
  | .order .greaterOrEqual => "GE_OP"

/-- The lexemes of a relation. -/
def Relation.lexemes : Relation → List Lexeme
  | .among first others => sign "IN" :: sign "LEFT_PAREN" :: first.lexeme ::
      ((others.flatMap fun o => [sign "COMMA", o.lexeme]) ++ [sign "RIGHT_PAREN"])
  | .between low high => [sign "BETWEEN", low.lexeme, sign "AND", high.lexeme]
  | .containing part => [sign "CONTAINS", part.lexeme]
  | .blank => [sign "ISBLANK"]

/-- The lexemes of a negation, if there is one. -/
def negation (negated : Bool) : List Lexeme := if negated then [sign "NOT"] else []

/-- The lexemes of a test. -/
def Test.lexemes : Test → List Lexeme
  | .comparison left operator right => [left.lexeme, sign operator.kind, right.lexeme]
  | .relation left negated asked => left.lexeme :: (negation negated ++ asked.lexemes)

/-- The word between the operands of a row. -/
def Level.connective : Level → String
  | .disjunction => "OR"
  | .conjunction => "AND"

mutual

/-- The lexemes of a phrase. -/
def Phrase.lexemes {c : Category} : Phrase c → List Lexeme
  | .test t => t.lexemes
  | .group body => sign "LEFT_PAREN" :: (body.lexemes ++ [sign "RIGHT_PAREN"])
  | .row first rest => first.lexemes ++ rest.lexemes

/-- The lexemes of the operands behind the first one. -/
def Rest.lexemes {l : Level} : Rest l → List Lexeme
  | .nil => []
  | .cons operand rest => sign l.connective :: (operand.lexemes ++ rest.lexemes)

end

end OrderedGrammar.Filter
