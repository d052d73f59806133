import OrderedGrammar.Examples.Limits
import OrderedGrammar.Notation.Compile
import OrderedGrammar.Text.Lowercase
import OrderedGrammar.Walker.Basic

/-!
# Filters

A small language of conditions on records, such as

    (country EQ 'UK' OR country EQ 'USA') AND age LT 40

The walker's state is a stack of predicates.  Literals are read when the tree is walked through;
columns are looked up and compared when a record is tested, from left to right, and no further
than the answer needs.  The walk has limits to the calls inside of calls and to the digits of a
number.
-/

namespace OrderedGrammar.Filter

/-- The grammar of conditions. -/
def text : String := "
/* Lexer Rules */

AND             = \"\\bAND\\b\";
OR              = \"\\bOR\\b\";
EQ_OP           = \"\\bEQ\\b\";
NE_OP           = \"\\bNE\\b\";
LT_OP           = \"\\bLT\\b\";
LE_OP           = \"\\bLE\\b\";
GT_OP           = \"\\bGT\\b\";
GE_OP           = \"\\bGE\\b\";
LEFT_PAREN      = \"[(]\";
RIGHT_PAREN     = \"[)]\";
COMMA           = \",\";
IN              = \"\\b(IN)\\b\";
CONTAINS        = \"\\bCONTAINS\\b\";
BETWEEN         = \"\\bBETWEEN\\b\";
ISBLANK         = \"\\bISBLANK\\b\";
NOT             = \"\\bNOT\\b\";
LITERAL_STRING  = \"['][^']*[']\";
LITERAL_NUMBER  = \"[+-]? ((\\d+(\\.\\d*)?)|(\\.\\d+))\";
IDENTIFIER      = \"[A-Z_][A-Z_0-9]*\";
WHITESPACE      = \"\\s+\";

/* Parser Rules */

comparison_operator =   :EQ_OP | :NE_OP | :LT_OP | :LE_OP | :GT_OP | :GE_OP;
comparison_operand  =   :LITERAL_STRING | :LITERAL_NUMBER | :IDENTIFIER;
comparison_predicate=   LHV:comparison_operand,
                        OPERATOR:comparison_operator,
                        RHV:comparison_operand;
in_factor           =   COMMA!, :comparison_operand;
in_predicate        =   LHV:comparison_operand, NOT:NOT?, IN!, LEFT_PAREN!,
                        RHV:comparison_operand, RHV:in_factor*,
                        RIGHT_PAREN!;
between_predicate   =   LHV:comparison_operand, NOT:NOT?, BETWEEN!,
                        OP1:comparison_operand, AND!,
                        OP2:comparison_operand;
contains_predicate  =   LHV:comparison_operand, NOT:NOT?, CONTAINS!,
                        RHV:comparison_operand;
blank_predicate     =   LHV:comparison_operand, NOT:NOT?, ISBLANK;
predicate           =   :comparison_predicate | :in_predicate
                    |   :between_predicate | :contains_predicate
                    |   :blank_predicate;
boolean_primary     =   :predicate;
boolean_primary     =   LEFT_PAREN!, CONDITION:search_condition,
                        RIGHT_PAREN!;
boolean_factor      =   AND!, :boolean_primary;
boolean_term        =   AND:boolean_primary, AND:boolean_factor*;
search_factor       =   OR!, :boolean_term;
search_condition    =   OR:boolean_term, OR:search_factor*;
"

/-- The grammar, compiled. -/
def grammar : Except Notation.CompileError Grammar := Notation.compile text [] true

/-! ### Records -/

/-- What a column of a record holds. -/
inductive Value where
  | int (n : Int)
  | text (s : String)
  deriving DecidableEq, Repr

/-- A record: the values of its columns by their names. -/
abbrev Record := List (String × Value)

/-- A customer's record. -/
def customer (name : String) (age : Int) (country sex rating : String) : Record :=
  [("name", .text name), ("age", .int age), ("country", .text country), ("sex", .text sex),
   ("rating", .text rating)]

/-- The records that filters are tried on. -/
def customers : List Record :=
  [customer "john" 40 "Australia" "M" "A",
   customer "peter" 23 "UK" "M" "C",
   customer "fred" 42 "USA" "M" "A",
   customer "ian" 71 "France" "M" "B",
   customer "tony" 18 "Canada" "M" "B",
   customer "mark" 35 "Germany" "M" "C",
   customer "david" 37 "Italy" "M" "C",
   customer "jane" 52 "USA" "F" "",
   customer "sarah" 55 "UK" "F" "A",
   customer "sue" 61 "Italy" "F" "C",
   customer "alice" 76 "France" "F" "B",
   customer "karen" 39 "Australia" "F" "C",
   customer "kate" 26 "Germany" "F" "A",
   customer "lucy" 46 "Australia" "F" "A",
   customer "brian" 30 "UK" "M" "C",
   customer "paul" 49 "USA" "M" "C"]

/-! ### Predicates -/

/-- A comparison by order. -/
inductive Order where
  | less
  | lessOrEqual
  | greater
  | greaterOrEqual
  deriving DecidableEq, Repr

/-- A comparison of a column with a literal. -/
inductive Comparison where
  | equal
  | notEqual
  | order (order : Order)
  deriving DecidableEq, Repr

/-- Why a filter has no answer. -/
inductive Error where
  /-- The text of a number literal is no integer. -/
  | invalidNumber (text : String)
  /-- A number literal has more digits than are read. -/
  | tooManyDigits (most count : Nat)
  /-- There is no room for another call. -/
  | overflow
  | unknownColumn (name : String)
  /-- A text and a number cannot be put in order. -/
  | notOrdered (order : Order) (left right : Value)
  /-- A number contains nothing. -/
  | notContainer
  /-- A text contains no number. -/
  | numberInText
  | access (error : AccessError)
  /-- A comparison's token is of no kind that compares. -/
  | unknownComparison (kind : String)
  | emptyStack

/-- The sign of a comparison by order. -/
def Order.sign : Order → String
  | .less => "<"
  | .lessOrEqual => "<="
  | .greater => ">"
  | .greaterOrEqual => ">="

/-- The word for the type of a value. -/
def Value.type : Value → String
  | .int _ => "int"
  | .text _ => "str"

/-- The words for an error. -/
def Error.message : Error → String
  | .invalidNumber text => "invalid literal for int() with base 10: " ++ Text.quoted text
  | .tooManyDigits most count => excessMessage most count
  | .overflow => overflowMessage
  | .unknownColumn name => Text.quoted name
  | .notOrdered order left right =>
    "'" ++ order.sign ++ "' not supported between instances of '" ++ left.type ++ "' and '" ++
      right.type ++ "'"
  | .notContainer => "argument of type 'int' is not iterable"
  | .numberInText => "'in <string>' requires string as left operand, not int"
  | .access e => e.message
  | .unknownComparison kind => Text.quoted kind
  | .emptyStack => "pop from empty list"

/-- What a filter makes of a record. -/
abbrev Predicate := Record → Except Error Bool

/-- The value of a column. -/
def column (record : Record) (name : String) : Except Error Value :=
  match record.lookup name with
  | some value => .ok value
  | none => .error (.unknownColumn name)

/-- Whether a comparison by order holds, given whether it is less and whether it is equal. -/
def Order.decide (order : Order) (less equal : Bool) : Bool :=
  match order with
  | .less => less
  | .lessOrEqual => less || equal
  | .greater => !less && !equal
  | .greaterOrEqual => !less

/-- Compares two values by order.  Texts are in the order of their code points. -/
def Order.compare (order : Order) : Value → Value → Except Error Bool
  | .int a, .int b => .ok (order.decide (a < b) (a = b))
  | .text a, .text b => .ok (order.decide (a < b) (a = b))
  | a, b => .error (.notOrdered order a b)

/-- Compares two values.  Values of different types differ. -/
def Comparison.compare : Comparison → Value → Value → Except Error Bool
  | .equal, a, b => .ok (a = b)
  | .notEqual, a, b => .ok (a ≠ b)
  | .order o, a, b => o.compare a b

/-- Whether `part` stands somewhere in a text. -/
def occursIn (part : List Char) : List Char → Bool
  | [] => part.isEmpty
  | c :: cs => part.isPrefixOf (c :: cs) || occursIn part cs

/-- Whether a value contains another one. -/
def contains (whole part : Value) : Except Error Bool :=
  match whole, part with
  | .int _, _ => .error .notContainer
  | .text _, .int _ => .error .numberInText
  | .text whole, .text part => .ok (occursIn part.toList whole.toList)

/-- Whether a value is nothing: the empty text, or zero. -/
def Value.isBlank : Value → Bool
  | .int n => n = 0
  | .text s => s = ""

/-- Whether any of the predicates holds, tried in order up to the first that does. -/
def anyOf : List Predicate → Predicate
  | [], _ => .ok false
  | p :: ps, record => do if ← p record then return true else anyOf ps record

/-- Whether all of the predicates hold, tried in order up to the first that does not. -/
def allOf : List Predicate → Predicate
  | [], _ => .ok true
  | p :: ps, record => do if ← p record then allOf ps record else return false

/-- The opposite of a predicate if `negated`. -/
def negateIf (negated : Bool) (p : Predicate) : Predicate := fun record => do
  return (← p record) != negated

/-! ### Walking -/

/-- The handlers of the nodes that make predicates. -/
inductive Handler where
  | condition
  | term
  | parentheses
  | comparison
  | membership
  | between
  | containment
  | blank

/-- The calls of a handler.  Rows of operands and of literals are read in one call more than single
ones. -/
def Handler.calls : Handler → Walk.Calls
  | .condition | .term | .membership => ⟨4, 2⟩
  | .parentheses | .comparison | .between | .containment | .blank => ⟨3, 2⟩

/-- A step of a walk.  The top of the stack comes first. -/
abbrev Build := Walk Handler Error (List Predicate)

/-- A step that reads a node. -/
def access {α : Type} : Except AccessError α → Build α
  | .ok a => pure a
  | .error e => throw (.access e)

/-- Puts a predicate on the stack. -/
def push (p : Predicate) : Build Unit := Walk.update (p :: ·)

/-- Takes the predicate from the top of the stack. -/
def pop : Build Predicate := do
  match (← get).state with
  | [] => throw .emptyStack
  | p :: rest =>
    Walk.update fun _ => rest
    return p

/-- The column that a token names. -/
def columnName (t : Token) : String := Text.lowercase t.text

/-- A text without the single quotes around it. -/
def unquoted (cs : List Char) : List Char :=
  ((cs.dropWhile (· == '\'')).reverse.dropWhile (· == '\'')).reverse

/-- The value of a literal's token, if it has no more digits than are read. -/
def literal (digits : Option Nat) (t : Token) : Build Value :=
  if t.kind = "LITERAL_NUMBER" then
    match Text.groupedInteger? (Text.trim t.text.toList) with
    | some n =>
      match excess? digits t.text.toList with
      | some (most, count) => throw (.tooManyDigits most count)
      | none => pure (.int n)
    | none => throw (.invalidNumber t.text)
  else pure (.text (String.ofList (unquoted t.text.toList)))

/-- The comparison that a token stands for. -/
def comparison (t : Token) : Build Comparison :=
  match t.kind with
  | "EQ_OP" => pure .equal
  | "NE_OP" => pure .notEqual
  | "LT_OP" => pure (.order .less)
  | "LE_OP" => pure (.order .lessOrEqual)
  | "GT_OP" => pure (.order .greater)
  | "GE_OP" => pure (.order .greaterOrEqual)
  | kind => throw (.unknownComparison kind)

/-- The predicates that nodes leave on the stack. -/
def predicates (visit : Tree → Build Unit) (nodes : List Node) : Build (List Predicate) :=
  nodes.mapM fun n => do
    visit n.toTree
    pop

/-- What the handlers do. -/
def act (digits : Option Nat) : Handler → (Tree → Build Unit) → Node → Build Unit
  | .condition, visit, n => do
    push (anyOf (← predicates visit (← access (n.getNodes "OR"))))
  | .term, visit, n => do
    push (allOf (← predicates visit (← access (n.getNodes "AND"))))
  | .parentheses, visit, n => do visit (← access (n.getNode "CONDITION")).toTree
  | .comparison, _, n => do
    let name := columnName (← access (n.getToken "LHV"))
    let compare ← comparison (← access (n.getToken "OPERATOR"))
    let value ← literal digits (← access (n.getToken "RHV"))
    push fun record => do compare.compare (← column record name) value
  | .membership, _, n => do
    let name := columnName (← access (n.getToken "LHV"))
    let values ← (← access (n.getTokens "RHV")).mapM (literal digits)
    push (negateIf (n.has "NOT") fun record => do return values.contains (← column record name))
  | .between, _, n => do
    let name := columnName (← access (n.getToken "LHV"))
    let low ← literal digits (← access (n.getToken "OP1"))
    let high ← literal digits (← access (n.getToken "OP2"))
    push (negateIf (n.has "NOT") fun record => do
      let value ← column record name
      if ← Order.lessOrEqual.compare low value then Order.lessOrEqual.compare value high
      else return false)
  | .containment, _, n => do
    let name := columnName (← access (n.getToken "LHV"))
    let value ← literal digits (← access (n.getToken "RHV"))
    push (negateIf (n.has "NOT") fun record => do contains (← column record name) value)
  | .blank, _, n => do
    let name := columnName (← access (n.getToken "LHV"))
    push (negateIf (n.has "NOT") fun record => do return (← column record name).isBlank)

/-- A walker with an empty stack. -/
def walker : Walker Handler (List Predicate) where
  handlers :=
    [("search_condition", .condition), ("boolean_term", .term),
     ("boolean_primary", .parentheses), ("comparison_predicate", .comparison),
     ("in_predicate", .membership), ("between_predicate", .between),
     ("contains_predicate", .containment), ("blank_predicate", .blank)]
  state := []

/-- The stack of calls on which a tree is walked through. -/
abbrev callStack : Option Nat → Option (Walk.Stack Handler Error) :=
  Walk.Stack.within Handler.calls .overflow

/-- The predicates after a walk through a tree within limits. -/
def buildWithin (limits : Limits) (t : Tree) : Except Error (List Predicate) :=
  match (Walk.walkWithin (callStack limits.calls) (act limits.digits) t).run walker with
  | .ok stack _ => .ok stack
  | .error e _ => .error e

/-- The predicates after a walk through a tree. -/
def build (t : Tree) : Except Error (List Predicate) := buildWithin {} t

/-- The records that a predicate holds of, or the first error that it meets. -/
def select (p : Predicate) (records : List Record) : Except Error (List Record) :=
  records.filterM p

/-- The values that records have in a column. -/
def project (name : String) (records : List Record) : List Value :=
  records.filterMap fun record => record.lookup name

/-- The names of the customers that the filter of a tree selects, if it is built within limits. -/
def queryWithin (limits : Limits) (t : Tree) : Except Error (List Value) := do
  match ← buildWithin limits t with
  | [] => throw .emptyStack
  | p :: _ => return project "name" (← select p customers)

end OrderedGrammar.Filter
