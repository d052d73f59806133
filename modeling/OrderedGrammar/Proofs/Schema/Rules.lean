import OrderedGrammar.Proofs.Notation.Writing
import OrderedGrammar.Proofs.Schema.Definition

/-!
# The grammar of definitions

The rules that the grammar's text compiles to.  The text is read as declarations, so that the rules
are known without running the compiler (`exists_grammar`).  Its two groups in parentheses become
rules with names of their own.

## Main definitions

* `handingRule`, `columnRule`, `listRule`, … : the rules for the trees.
* `rules` : the rules of the grammar.
-/

namespace OrderedGrammar.Schema

open Notation

/-! ### Rules -/

/-- A rule for trees. -/
def ruleOf (name : String) (first : Symbol) (others : List Symbol)
    (hmixes : mixesLabels (first :: others) = false) : Rule :=
  ⟨name, .parser, first :: others, _, rfl, List.cons_ne_nil first others, nofun, hmixes⟩

/-- An alternative that hands on what another name matches. -/
def handingRule (name symbol : String) : Rule :=
  ruleOf name (.ofModifier symbol .required "") [] rfl

/-- `:NOT, :NULL` -/
def notNullRule : Rule :=
  ruleOf "anonymous_0" (.ofModifier "NOT" .required "") [.ofModifier "NULL" .required ""]
    (by decide)

/-- `COLUMN_NAME:column_name, DATA_TYPE:data_type, NOT_NULL:not_null?` -/
def columnRule : Rule :=
  ruleOf "column_definition" (.ofModifier "column_name" .required "COLUMN_NAME")
    [.ofModifier "data_type" .required "DATA_TYPE", .ofModifier "not_null" .optional "NOT_NULL"]
    (by decide)

/-- `COMMA!, :column_definition` -/
def tailRule : Rule :=
  ruleOf "anonymous_1" (.ofModifier "COMMA" .ignored none)
    [.ofModifier "column_definition" .required ""] (by decide)

/-- `LEFT_PAREN!, :column_definition, :anonymous_1*, RIGHT_PAREN!` -/
def listRule : Rule :=
  ruleOf "collection_element_list" (.ofModifier "LEFT_PAREN" .ignored none)
    [.ofModifier "column_definition" .required "", .ofModifier "anonymous_1" .zeroOrMore "",
      .ofModifier "RIGHT_PAREN" .ignored none] (by decide)

/-- `CREATE!, COLLECTION!, NAME:IDENTIFIER, COLUMNS:collection_element_list` -/
def tableRule : Rule :=
  ruleOf "table_definition" (.ofModifier "CREATE" .ignored none)
    [.ofModifier "COLLECTION" .ignored none, .ofModifier "IDENTIFIER" .required "NAME",
      .ofModifier "collection_element_list" .required "COLUMNS"] (by decide)

/-- `STATEMENT:table_definition` -/
def statementRule : Rule :=
  ruleOf "statement" (.ofModifier "table_definition" .required "STATEMENT") [] (by decide)

/-- The rules for the trees, each behind those of the groups in it. -/
def parserRules : List Rule :=
  [handingRule "column_name" "IDENTIFIER", notNullRule, handingRule "not_null" "anonymous_0"] ++
  DataType.all.map (fun d => handingRule "data_type" d.kind) ++
  [columnRule, tailRule, listRule, tableRule, statementRule]

/-- The kinds of tokens and their patterns. -/
def patterns : List (String × String) :=
  keywords.map (fun k => (k.1, "\\b" ++ k.2 ++ "\\b")) ++
    [("LEFT_PAREN", "[(]"), ("RIGHT_PAREN", "[)]"), ("COMMA", ","),
      ("IDENTIFIER", "[A-Z_][A-Z_0-9]*")]

/-- The kinds of tokens. -/
def tokenKinds : List String := patterns.map (·.1)

/-- The rules of the grammar. -/
def rules : List Rule := patterns.map (fun p => .lexer p.1 p.2) ++ parserRules

/-! ### The text -/

/-- What the text declares. -/
def declarations : List Declaration :=
  let bare (name : String) : Item := .name .bare name .required
  let mark (kind : String) : Item := .name .absent kind .ignored
  let type (d : DataType) : Series := .one (bare d.kind)
  patterns.map (fun p => .lexer p.1 p.2) ++
  [.parser "column_name" (.one (.one (bare "IDENTIFIER"))),
    .parser "not_null" (.one (.one (.group .bare (.one (.more (bare "NOT") (.one (bare "NULL"))))
      .required))),
    .parser "data_type" (.more (type .integer) (.more (type .real) (.more (type .text)
      (.one (type .datetime))))),
    .parser "column_definition" (.one (.more (.name (.named "COLUMN_NAME") "column_name" .required)
      (.more (.name (.named "DATA_TYPE") "data_type" .required)
        (.one (.name (.named "NOT_NULL") "not_null" .optional))))),
    .parser "collection_element_list" (.one (.more (mark "LEFT_PAREN")
      (.more (bare "column_definition") (.more (.group .bare (.one (.more (mark "COMMA")
        (.one (bare "column_definition")))) .zeroOrMore) (.one (mark "RIGHT_PAREN")))))),
    .parser "table_definition" (.one (.more (mark "CREATE") (.more (mark "COLLECTION")
      (.more (.name (.named "NAME") "IDENTIFIER" .required)
        (.one (.name (.named "COLUMNS") "collection_element_list" .required)))))),
    .parser "statement" (.one (.one (.name (.named "STATEMENT") "table_definition" .required)))]

-- the list of characters is longer than the default allows
set_option maxRecDepth 20000 in
theorem writes_text : Writes text declarations := by
  have hne : declarations ≠ [] := List.cons_ne_nil _ _
  have hchars : text.toList = _ := String.toList_ofList (l := _)
  refine .of_readAll? hne ?_
  rw [hchars]
  decide +kernel

theorem flattenAll_declarations :
    (flattenAll (declarations.map Declaration.name) declarations 0).1 = rules.map Draft.ofRule := by
  have hnames : ∀ n < 2, groupName n ∉ declarations.map Declaration.name := by decide
  have hfirst := nextFree_of_notMem (hnames 0 (by decide))
  have hsecond := nextFree_of_notMem (hnames 1 (by decide))
  generalize declarations.map Declaration.name = names at hfirst hsecond
  simp only [declarations, patterns, keywords, List.map_cons, List.map_nil, List.cons_append,
    List.nil_append, flattenAll, Declaration.flatten, Choice.flatten, Series.flatten,
    Item.flatten, hfirst, hsecond]
  rfl

theorem compileRules_text : compileRules text = .ok rules :=
  writes_text.compileRules_eq_ok (by decide +kernel) (rulesOf_of_flattenAll flattenAll_declarations)

/-- The text is compiled to a grammar. -/
theorem exists_grammar : ∃ g, grammar = .ok g :=
  exists_compile compileRules_text (by decide +kernel)

theorem ofRules_of_grammar {g : Grammar} (hg : grammar = .ok g) :
    Grammar.ofRules rules [] true = .ok g :=
  (compile_eq_ok_iff compileRules_text).1 hg

/-! ### Alternatives -/

section

variable {g : Grammar} (hg : grammar = .ok g)
include hg

/-- The alternatives of a name are its rules, in order. -/
theorem alternativesOf_eq (name : String) :
    g.alternativesOf name = parserRules.filter (·.name = name) :=
  Grammar.alternativesOf_of_append (ofRules_of_grammar hg) (by decide) (by decide) name

/-- No kind of tokens has alternatives. -/
theorem alternativesOf_tokenKind {name : String} (h : name ∈ tokenKinds) :
    g.alternativesOf name = [] := by
  rw [alternativesOf_eq hg]
  exact Grammar.filter_name_eq_nil (by decide) h

end

end OrderedGrammar.Schema
