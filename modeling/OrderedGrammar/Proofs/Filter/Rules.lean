import OrderedGrammar.Proofs.Filter.Condition
import OrderedGrammar.Proofs.Notation.Writing

/-!
# The grammar of filters

The rules that the grammar's text compiles to.  Most of them are of a few forms: alternatives that
hand on what another name matches, operands behind a word or a comma, rows of operands, and
relations of a column.

The text is read as declarations, so that the rules that come out are known without running the
compiler (`exists_grammar`).

## Main definitions

* `passRule`, `behindRule`, `rowRule`, `relationRule` : the forms of rules.
* `rules` : the rules of the grammar.
-/

namespace OrderedGrammar.Filter

open Notation

/-! ### Names -/

namespace Level

/-- The name of a row. -/
def name : Level → String
  | disjunction => "search_condition"
  | conjunction => "boolean_term"

/-- The name of an operand. -/
def operandName : Level → String
  | disjunction => "boolean_term"
  | conjunction => "boolean_primary"

/-- The name of an operand behind the connective. -/
def tail : Level → String
  | disjunction => "search_factor"
  | conjunction => "boolean_factor"

end Level

/-- What can be asked of a column. -/
inductive Form where
  | membership
  | between
  | containment
  | blank

/-- The name of a relation. -/
def Form.name : Form → String
  | membership => "in_predicate"
  | between => "between_predicate"
  | containment => "contains_predicate"
  | blank => "blank_predicate"

/-! ### Rules -/

/-- A symbol that matches once and is kept under a label. -/
def kept (label name : String) : Symbol := ⟨name, label, false, false, false⟩

/-- A symbol that matches once and is not kept. -/
def skipped (name : String) : Symbol := ⟨name, name, false, false, true⟩

/-- A symbol that matches any number of times. -/
def repeated (label name : String) : Symbol := ⟨name, label, true, true, false⟩

/-- An alternative that hands on what another name matches. -/
def passRule (name symbol : String) : Rule where
  name := name
  kind := .parser
  symbols := [kept "" symbol]
  enumerated := []
  enumerated_eq := rfl
  symbols_ne_nil := by simp
  length_of_lexer := by simp
  mixesLabels_eq_false := rfl

/-- An operand behind a connective, which is handed on alone. -/
def behindRule (name connective operand : String) : Rule where
  name := name
  kind := .parser
  symbols := [skipped connective, kept "" operand]
  enumerated := []
  enumerated_eq := rfl
  symbols_ne_nil := by simp
  length_of_lexer := by simp
  mixesLabels_eq_false := rfl

/-- A row of operands, which are all kept under the connective. -/
def rowRule (l : Level) : Rule where
  name := l.name
  kind := .parser
  symbols := [kept l.connective l.operandName, repeated l.connective l.tail]
  enumerated := [l.connective]
  enumerated_eq := by cases l <;> decide
  symbols_ne_nil := by simp
  length_of_lexer := by simp
  mixesLabels_eq_false := by cases l <;> decide

/-- A condition in parentheses. -/
def groupRule : Rule where
  name := "boolean_primary"
  kind := .parser
  symbols := [skipped "LEFT_PAREN", kept "CONDITION" "search_condition", skipped "RIGHT_PAREN"]
  enumerated := []
  enumerated_eq := by decide
  symbols_ne_nil := by simp
  length_of_lexer := by simp
  mixesLabels_eq_false := by decide

/-- A comparison. -/
def comparisonRule : Rule where
  name := "comparison_predicate"
  kind := .parser
  symbols := [kept "LHV" "comparison_operand", kept "OPERATOR" "comparison_operator",
    kept "RHV" "comparison_operand"]
  enumerated := []
  enumerated_eq := by decide
  symbols_ne_nil := by simp
  length_of_lexer := by simp
  mixesLabels_eq_false := by decide

/-- The symbols of a relation behind the column and the negation. -/
def Form.symbols : Form → List Symbol
  | membership => [skipped "IN", skipped "LEFT_PAREN", kept "RHV" "comparison_operand",
      repeated "RHV" "in_factor", skipped "RIGHT_PAREN"]
  | between => [skipped "BETWEEN", kept "OP1" "comparison_operand", skipped "AND",
      kept "OP2" "comparison_operand"]
  | containment => [skipped "CONTAINS", kept "RHV" "comparison_operand"]
  | blank => [kept "ISBLANK" "ISBLANK"]

/-- The labels under which a relation keeps several operands. -/
def Form.enumerated : Form → List String
  | membership => ["RHV"]
  | between | containment | blank => []

/-- A relation of a column. -/
def relationRule (f : Form) : Rule where
  name := f.name
  kind := .parser
  symbols := kept "LHV" "comparison_operand" :: ⟨"NOT", "NOT", true, false, false⟩ :: f.symbols
  enumerated := f.enumerated
  enumerated_eq := by cases f <;> decide
  symbols_ne_nil := by simp
  length_of_lexer := by simp
  mixesLabels_eq_false := by cases f <;> decide

/-- The names of tests, in the order in which they are tried. -/
def testNames : List String :=
  ["comparison_predicate", "in_predicate", "between_predicate", "contains_predicate",
    "blank_predicate"]

/-- The rules for the trees. -/
def parserRules : List Rule :=
  comparisonKinds.map (passRule "comparison_operator") ++
  operandKinds.map (passRule "comparison_operand") ++
  [comparisonRule, behindRule "in_factor" "COMMA" "comparison_operand", relationRule .membership,
    relationRule .between, relationRule .containment, relationRule .blank] ++
  testNames.map (passRule "predicate") ++
  [passRule "boolean_primary" "predicate", groupRule,
    behindRule "boolean_factor" "AND" "boolean_primary", rowRule .conjunction,
    behindRule "search_factor" "OR" "boolean_term", rowRule .disjunction]

/-- The kinds of tokens and their patterns. -/
def patterns : List (String × String) :=
  [("AND", "\\bAND\\b"), ("OR", "\\bOR\\b"), ("EQ_OP", "\\bEQ\\b"), ("NE_OP", "\\bNE\\b"),
    ("LT_OP", "\\bLT\\b"), ("LE_OP", "\\bLE\\b"), ("GT_OP", "\\bGT\\b"), ("GE_OP", "\\bGE\\b"),
    ("LEFT_PAREN", "[(]"), ("RIGHT_PAREN", "[)]"), ("COMMA", ","), ("IN", "\\b(IN)\\b"),
    ("CONTAINS", "\\bCONTAINS\\b"), ("BETWEEN", "\\bBETWEEN\\b"), ("ISBLANK", "\\bISBLANK\\b"),
    ("NOT", "\\bNOT\\b"), ("LITERAL_STRING", "['][^']*[']"),
    ("LITERAL_NUMBER", "[+-]? ((\\d+(\\.\\d*)?)|(\\.\\d+))"),
    ("IDENTIFIER", "[A-Z_][A-Z_0-9]*"), ("WHITESPACE", "\\s+")]

/-- The kinds of tokens. -/
def tokenKinds : List String := patterns.map (·.1)

/-- The rules of the grammar. -/
def rules : List Rule := patterns.map (fun p => .lexer p.1 p.2) ++ parserRules

/-! ### The text -/

/-- One of several names, each handed on. -/
def choiceOf (first : String) (others : List String) : Choice :=
  let alternative (name : String) : Series := .one (.name .bare name .required)
  match others with
  | [] => .one (alternative first)
  | next :: others => .more (alternative first) (choiceOf next others)

/-- An operand behind a connective. -/
def behindChoice (connective operand : String) : Choice :=
  .one (.more (.name .absent connective .ignored) (.one (.name .bare operand .required)))

/-- A row of operands. -/
def rowChoice (l : Level) : Choice :=
  .one (.more (.name (.named l.connective) l.operandName .required)
    (.one (.name (.named l.connective) l.tail .zeroOrMore)))

/-- A relation, given what is written behind the column and the negation. -/
def relationChoice (behind : Series) : Choice :=
  .one (.more (.name (.named "LHV") "comparison_operand" .required)
    (.more (.name (.named "NOT") "NOT" .optional) behind))

/-- What the text declares. -/
def declarations : List Declaration :=
  let operand (label : String) : Item := .name (.named label) "comparison_operand" .required
  let mark (kind : String) : Item := .name .absent kind .ignored
  patterns.map (fun p => .lexer p.1 p.2) ++
  [.parser "comparison_operator" (choiceOf "EQ_OP" ["NE_OP", "LT_OP", "LE_OP", "GT_OP", "GE_OP"]),
    .parser "comparison_operand" (choiceOf "LITERAL_STRING" ["LITERAL_NUMBER", "IDENTIFIER"]),
    .parser "comparison_predicate" (.one (.more (operand "LHV")
      (.more (.name (.named "OPERATOR") "comparison_operator" .required) (.one (operand "RHV"))))),
    .parser "in_factor" (behindChoice "COMMA" "comparison_operand"),
    .parser "in_predicate" (relationChoice (.more (mark "IN") (.more (mark "LEFT_PAREN")
      (.more (operand "RHV") (.more (.name (.named "RHV") "in_factor" .zeroOrMore)
        (.one (mark "RIGHT_PAREN"))))))),
    .parser "between_predicate" (relationChoice (.more (mark "BETWEEN") (.more (operand "OP1")
      (.more (mark "AND") (.one (operand "OP2")))))),
    .parser "contains_predicate" (relationChoice (.more (mark "CONTAINS")
      (.one (operand "RHV")))),
    .parser "blank_predicate" (relationChoice (.one (.name .absent "ISBLANK" .required))),
    .parser "predicate" (choiceOf "comparison_predicate"
      ["in_predicate", "between_predicate", "contains_predicate", "blank_predicate"]),
    .parser "boolean_primary" (choiceOf "predicate" []),
    .parser "boolean_primary" (.one (.more (mark "LEFT_PAREN")
      (.more (.name (.named "CONDITION") "search_condition" .required)
        (.one (mark "RIGHT_PAREN"))))),
    .parser "boolean_factor" (behindChoice "AND" "boolean_primary"),
    .parser "boolean_term" (rowChoice .conjunction),
    .parser "search_factor" (behindChoice "OR" "boolean_term"),
    .parser "search_condition" (rowChoice .disjunction)]

-- the list of characters is longer than the default allows
set_option maxRecDepth 20000 in
theorem writes_text : Writes text declarations := by
  have hne : declarations ≠ [] := List.cons_ne_nil _ _
  have hchars : text.toList = _ := String.toList_ofList (l := _)
  refine .of_readAll? hne ?_
  rw [hchars]
  decide +kernel

theorem compileRules_text : compileRules text = .ok rules :=
  writes_text.compileRules_eq_ok (by decide +kernel) (rulesOf_of_flattenAll rfl)

/-- The text is compiled to a grammar. -/
theorem exists_grammar : ∃ g, grammar = .ok g :=
  exists_compile compileRules_text (by decide +kernel)

theorem ofRules_of_grammar {g : Grammar} (hg : grammar = .ok g) :
    Grammar.ofRules rules [] true = .ok g :=
  (compile_eq_ok_iff compileRules_text).1 hg

/-! ### Alternatives -/

section

variable {g : Grammar} (hg : grammar = .ok g)
include hg

/-- The alternatives of a name are its rules, in order. -/
theorem alternativesOf_eq (name : String) :
    g.alternativesOf name = parserRules.filter (·.name = name) :=
  Grammar.alternativesOf_of_append (ofRules_of_grammar hg) (by decide) (by decide) name

/-- No kind of tokens has alternatives. -/
theorem alternativesOf_tokenKind {name : String} (h : name ∈ tokenKinds) :
    g.alternativesOf name = [] := by
  rw [alternativesOf_eq hg]
  exact Grammar.filter_name_eq_nil (by decide) h

end

end OrderedGrammar.Filter
