import OrderedGrammar.Examples.Limits
import OrderedGrammar.Notation.Compile
import OrderedGrammar.Walker.Basic

/-!
# Arithmetic

Expressions over the integers, with precedence expressed by rules of their own.  There are two
grammars for them: one names the tails of sums and products, the other writes them as groups.  A
tree is evaluated by a walker whose state is a stack of integers, within limits to the calls inside
of calls and to the digits of a number.
-/

namespace OrderedGrammar.Arithmetic

/-- The grammar with rules for the tails. -/
def namedText : String := "
NUMBER_LITERAL  = \"\\d+\";
PLUS_OP         = \"\\+\";
MINUS_OP        = \"\\-\";
MUL_OP          = \"\\*\";
DIV_OP          = \"\\/\";
LPAREN          = \"\\(\";
RPAREN          = \"\\)\";

expression      = minus_plus_expr | term;
minus_plus_expr = TERMS:term, TERMS:minus_plus_expr_*;
minus_plus_expr_
                = OP:MINUS_OP, term | OP:PLUS_OP, term;

term            = mul_div_term | factor;
mul_div_term    = FACTORS:factor, FACTORS:mul_div_term_*;
mul_div_term_   = OP:DIV_OP, factor | OP:MUL_OP, factor;

factor          = primary | PLUS_OP, primary | MINUS_OP, primary;
primary         = NUMBER_LITERAL | LPAREN!, expression, RPAREN!;
"

/-- The grammar with groups for the tails. -/
def groupedText : String := "
NUMBER_LITERAL  = \"\\d+\";
PLUS_OP         = \"\\+\";
MINUS_OP        = \"\\-\";
MUL_OP          = \"\\*\";
DIV_OP          = \"\\/\";
LPAREN          = \"\\(\";
RPAREN          = \"\\)\";

expression      = TERMS:(:term, :(OP:MINUS_OP, term | OP:PLUS_OP, term)*);
term            = FACTORS:(:factor, :(OP:DIV_OP, factor | OP:MUL_OP, factor)*);
factor          = primary | PLUS_OP, primary | MINUS_OP, primary;
primary         = NUMBER_LITERAL | LPAREN!, expression, RPAREN!;
"

/-- The grammar with rules for the tails, compiled. -/
def namedGrammar : Except Notation.CompileError Grammar := Notation.compile namedText [] true

/-- The grammar with groups for the tails, compiled. -/
def groupedGrammar : Except Notation.CompileError Grammar := Notation.compile groupedText [] true

/-- Why an expression has no value. -/
inductive Error where
  | divisionByZero
  /-- A number has more digits than are read. -/
  | tooManyDigits (most count : Nat)
  /-- There is no room for another call. -/
  | overflow
  | access (error : AccessError)
  | invalidNumber (text : String)
  | unknownOperator (text : String)
  | emptyStack

/-- The words for an error. -/
def Error.message : Error → String
  | .divisionByZero => "integer division or modulo by zero"
  | .tooManyDigits most count => excessMessage most count
  | .overflow => overflowMessage
  | .access e => e.message
  | .invalidNumber text => "invalid literal for int() with base 10: " ++ Text.quoted text
  | .unknownOperator text => Text.quoted text
  | .emptyStack => "pop from empty list"

/-- The handlers of the nodes that have a part in the value. -/
inductive Handler where
  /-- A row of operands, all but the first with an operator, in the given field. -/
  | chain (label : String)
  /-- An operand with a sign or without. -/
  | factor
  /-- A number or an expression in parentheses. -/
  | primary

/-- The calls of a handler.  An operand is visited from within the function that the rows share. -/
def Handler.calls : Handler → Walk.Calls
  | .chain _ => ⟨4, 3⟩
  | .factor => ⟨3, 2⟩
  | .primary => ⟨4, 2⟩

/-- A step of the evaluation.  The top of the stack comes first. -/
abbrev Eval := Walk Handler Error (List Int)

/-- A step that reads a node. -/
def access {α : Type} : Except AccessError α → Eval α
  | .ok a => pure a
  | .error e => throw (.access e)

/-- Puts a value on the stack. -/
def push (value : Int) : Eval Unit := Walk.update (value :: ·)

/-- Takes the value from the top of the stack. -/
def pop : Eval Int := do
  match (← get).state with
  | [] => throw .emptyStack
  | value :: rest =>
    Walk.update fun _ => rest
    return value

/-- The value of an operation; a quotient is rounded down. -/
def operate (operator : String) (a b : Int) : Except Error Int :=
  match operator with
  | "+" => .ok (a + b)
  | "-" => .ok (a - b)
  | "*" => .ok (a * b)
  | "/" => if b = 0 then .error .divisionByZero else .ok (a.fdiv b)
  | other => .error (.unknownOperator other)

/-- Evaluates a row of operands from left to right, `total` being the value of those before. -/
def chain (visit : Tree → Eval Unit) (total : Int) : List Node → Eval Unit
  | [] => push total
  | n :: rest => do
    visit n.toTree
    let value ← pop
    if n.has "OP" then
      match operate (← access (n.getText "OP")) total value with
      | .ok total => chain visit total rest
      | .error e => throw e
    else chain visit value rest

/-- The number that a text writes, if it is written in no more digits than are read. -/
def number (digits : Option Nat) (text : String) : Eval Int :=
  match Text.integer? text.toList with
  | some value =>
    match excess? digits text.toList with
    | some (most, count) => throw (.tooManyDigits most count)
    | none => pure value
  | none => throw (.invalidNumber text)

/-- What the handlers do. -/
def act (digits : Option Nat) : Handler → (Tree → Eval Unit) → Node → Eval Unit
  | .chain label, visit, n => do chain visit 0 (← access (n.getNodes label))
  | .factor, visit, n => do
    visit (← access (n.getNode "primary")).toTree
    if n.has "MINUS_OP" then push (-(← pop))
  | .primary, visit, n => do
    if n.has "NUMBER_LITERAL" then push (← number digits (← access (n.getText "NUMBER_LITERAL")))
    else visit (← access (n.getNode "expression")).toTree

/-- A walker with an empty stack for trees of the grammar with named tails. -/
def namedWalker : Walker Handler (List Int) where
  handlers :=
    [("minus_plus_expr", .chain "TERMS"), ("mul_div_term", .chain "FACTORS"),
     ("factor", .factor), ("primary", .primary)]
  state := []

/-- A walker with an empty stack for trees of the grammar with groups. -/
def groupedWalker : Walker Handler (List Int) where
  handlers :=
    [("expression", .chain "TERMS"), ("term", .chain "FACTORS"), ("factor", .factor),
     ("primary", .primary)]
  state := []

/-- The stack of calls on which a tree is walked through. -/
abbrev callStack : Option Nat → Option (Walk.Stack Handler Error) :=
  Walk.Stack.within Handler.calls .overflow

/-- The stack of integers after a walk through a tree. -/
def evaluate (limits : Limits) (walker : Walker Handler (List Int)) (t : Tree) :
    Except Error (List Int) :=
  match (Walk.walkWithin (callStack limits.calls) (act limits.digits) t).run walker with
  | .ok stack _ => .ok stack
  | .error e _ => .error e

end OrderedGrammar.Arithmetic
