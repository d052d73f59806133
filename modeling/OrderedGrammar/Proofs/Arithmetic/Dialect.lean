import OrderedGrammar.Proofs.Arithmetic.Expression
import OrderedGrammar.Proofs.Notation.Writing

/-!
# The two grammars of arithmetic

Both grammars have the same tokens, the same factors and the same primaries.  For a row of operands
both have a name that stands for the whole, a name for the operands inside and one for each operand
behind the first; what differs are these names and what is kept under which label, and that one of
the grammars has a second alternative for rows of a single operand.

The texts are read as declarations, so that the rules that come out are known without running the
compiler (`Dialect.exists_grammar`).

## Main definitions

* `Dialect.grammar`, `Dialect.walker` : a grammar and the walker for its trees.
* `Dialect.rules` : the rules of a grammar.
-/

namespace OrderedGrammar.Arithmetic

open Notation

/-- The grammar that names the tails, or the one that groups them. -/
inductive Dialect where
  | named
  | grouped

/-! ### Names -/

namespace Level

/-- The name of a row. -/
def name : Level → String
  | sum => "expression"
  | product => "term"

/-- The label under which the operands end up. -/
def label : Level → String
  | sum => "TERMS"
  | product => "FACTORS"

/-- The name of an operand. -/
def operandName : Level → String
  | sum => "term"
  | product => "factor"

/-- The operators, in the order in which they are tried. -/
def first : (l : Level) → Operator l
  | sum => .minus
  | product => .divide

/-- The other operator. -/
def second : (l : Level) → Operator l
  | sum => .plus
  | product => .times

end Level

namespace Dialect

/-- The text of the grammar. -/
def text : Dialect → String
  | named => namedText
  | grouped => groupedText

/-- The grammar, compiled. -/
def grammar (d : Dialect) : Except CompileError Grammar := compile d.text [] true

/-- The walker for trees of the grammar. -/
def walker : Dialect → Walker Handler (List Int)
  | named => namedWalker
  | grouped => groupedWalker

/-- The name of the operands of a row. -/
def inner : Dialect → Level → String
  | named, .sum => "minus_plus_expr"
  | named, .product => "mul_div_term"
  | grouped, .sum => "anonymous_0"
  | grouped, .product => "anonymous_2"

/-- The name of an operand with an operator in front. -/
def tail : Dialect → Level → String
  | named, .sum => "minus_plus_expr_"
  | named, .product => "mul_div_term_"
  | grouped, .sum => "anonymous_1"
  | grouped, .product => "anonymous_3"

/-- The label under which the operands are kept. -/
def kept : Dialect → Level → String
  | named, l => l.label
  | grouped, _ => ""

/-- The label under which a row keeps its operands. -/
def shown : Dialect → Level → String
  | named, l => inner named l
  | grouped, l => l.label

/-! ### Rules -/

/-- A row. -/
def rowRule (d : Dialect) (l : Level) : Rule where
  name := l.name
  kind := .parser
  symbols := [⟨d.inner l, d.shown l, false, false, false⟩]
  enumerated := []
  enumerated_eq := by cases d <;> cases l <;> decide
  symbols_ne_nil := by simp
  length_of_lexer := by simp
  mixesLabels_eq_false := by cases d <;> cases l <;> decide

/-- The operands of a row. -/
def innerRule (d : Dialect) (l : Level) : Rule where
  name := d.inner l
  kind := .parser
  symbols := [⟨l.operandName, d.kept l, false, false, false⟩,
    ⟨d.tail l, d.kept l, true, true, false⟩]
  enumerated := [d.kept l]
  enumerated_eq := by cases d <;> cases l <;> decide
  symbols_ne_nil := by simp
  length_of_lexer := by simp
  mixesLabels_eq_false := by cases d <;> cases l <;> decide

/-- An operand with an operator in front. -/
def tailRule (d : Dialect) {l : Level} (op : Operator l) : Rule where
  name := d.tail l
  kind := .parser
  symbols := [⟨op.lexeme.1, "OP", false, false, false⟩, .ofName l.operandName]
  enumerated := []
  enumerated_eq := by cases op <;> decide
  symbols_ne_nil := by simp
  length_of_lexer := by simp
  mixesLabels_eq_false := by cases op <;> decide

end Dialect

/-- A row of one operand. -/
def singleRule (l : Level) : Rule where
  name := l.name
  kind := .parser
  symbols := [.ofName l.operandName]
  enumerated := []
  enumerated_eq := by cases l <;> decide
  symbols_ne_nil := by simp
  length_of_lexer := by simp
  mixesLabels_eq_false := by cases l <;> decide

/-- A factor. -/
def factorRule (sign : Option (Operator .sum)) : Rule where
  name := "factor"
  kind := .parser
  symbols := (sign.toList.map fun op => .ofName op.lexeme.1) ++ [.ofName "primary"]
  enumerated := []
  enumerated_eq := by rcases sign with _ | _ | _ <;> decide
  symbols_ne_nil := by simp
  length_of_lexer := by simp
  mixesLabels_eq_false := by rcases sign with _ | _ | _ <;> decide

/-- A number. -/
def numberRule : Rule :=
  ⟨"primary", .parser, [.ofName "NUMBER_LITERAL"], [], by decide, by simp, by simp, by decide⟩

/-- An expression in parentheses. -/
def groupRule : Rule :=
  ⟨"primary", .parser,
    [⟨"LPAREN", "LPAREN", false, false, true⟩, .ofName "expression",
      ⟨"RPAREN", "RPAREN", false, false, true⟩],
    [], by decide, by simp, by simp, by decide⟩

/-- The rules of factors and primaries. -/
def factorRules : List Rule :=
  [factorRule none, factorRule (some .plus), factorRule (some .minus), numberRule, groupRule]

/-- The rules for the tokens. -/
def lexerRules : List Rule :=
  [.lexer "NUMBER_LITERAL" "\\d+", .lexer "PLUS_OP" "\\+", .lexer "MINUS_OP" "\\-",
    .lexer "MUL_OP" "\\*", .lexer "DIV_OP" "\\/", .lexer "LPAREN" "\\(", .lexer "RPAREN" "\\)"]

/-- The kinds of tokens. -/
def tokenKinds : List String := lexerRules.map (·.name)

namespace Dialect

/-- The rules of a level, in the order in which they are compiled. -/
def levelRules (d : Dialect) (l : Level) : List Rule :=
  match d with
  | named =>
    [named.rowRule l, singleRule l, named.innerRule l, named.tailRule l.first,
      named.tailRule l.second]
  | grouped =>
    [grouped.tailRule l.first, grouped.tailRule l.second, grouped.innerRule l, grouped.rowRule l]

/-- The rules for the trees. -/
def parserRules (d : Dialect) : List Rule :=
  d.levelRules .sum ++ d.levelRules .product ++ factorRules

/-- The rules of a grammar. -/
def rules (d : Dialect) : List Rule := lexerRules ++ d.parserRules

/-- What is written for an operand behind the first one. -/
def tailChoice (l : Level) : Choice :=
  let alternative (op : Operator l) : Series :=
    .more (.name (.named "OP") op.lexeme.1 .required)
      (.one (.name .absent l.operandName .required))
  .more (alternative l.first) (.one (alternative l.second))

/-- What is written for the tokens. -/
def lexerDeclarations : List Declaration :=
  [.lexer "NUMBER_LITERAL" "\\d+", .lexer "PLUS_OP" "\\+", .lexer "MINUS_OP" "\\-",
    .lexer "MUL_OP" "\\*", .lexer "DIV_OP" "\\/", .lexer "LPAREN" "\\(", .lexer "RPAREN" "\\)"]

/-- What is written for a row. -/
def levelDeclarations (d : Dialect) (l : Level) : List Declaration :=
  match d with
  | named =>
    [.parser l.name (.more (.one (.name .absent (named.inner l) .required))
        (.one (.one (.name .absent l.operandName .required)))),
      .parser (named.inner l) (.one (.more (.name (.named l.label) l.operandName .required)
        (.one (.name (.named l.label) (named.tail l) .zeroOrMore)))),
      .parser (named.tail l) (tailChoice l)]
  | grouped =>
    [.parser l.name (.one (.one (.group (.named l.label) (.one (.more
      (.name .bare l.operandName .required) (.one (.group .bare (tailChoice l) .zeroOrMore))))
      .required)))]

/-- What is written for the rest. -/
def factorDeclarations : List Declaration :=
  let primary : Item := .name .absent "primary" .required
  let signed (kind : String) : Series := .more (.name .absent kind .required) (.one primary)
  [.parser "factor" (.more (.one primary) (.more (signed "PLUS_OP") (.one (signed "MINUS_OP")))),
    .parser "primary" (.more (.one (.name .absent "NUMBER_LITERAL" .required))
      (.one (.more (.name .absent "LPAREN" .ignored) (.more (.name .absent "expression" .required)
        (.one (.name .absent "RPAREN" .ignored))))))]

/-- What the text of a grammar declares. -/
def declarations (d : Dialect) : List Declaration :=
  lexerDeclarations ++ d.levelDeclarations .sum ++ d.levelDeclarations .product ++
    factorDeclarations

/-! ### Compiling -/

-- the lists of characters are longer than the default allows
set_option maxRecDepth 4000 in
theorem writes_text (d : Dialect) : Writes d.text d.declarations := by
  cases d with
  | named =>
    have hchars : namedText.toList = _ := String.toList_ofList (l := _)
    refine .of_readAll? (List.cons_ne_nil _ _) ?_
    rw [text, hchars]
    decide +kernel
  | grouped =>
    have hchars : groupedText.toList = _ := String.toList_ofList (l := _)
    refine .of_readAll? (List.cons_ne_nil _ _) ?_
    rw [text, hchars]
    decide +kernel

theorem nextFree_grouped : ∀ n < 4,
    nextFree (grouped.declarations.map Declaration.name) n = n := by
  have hfree : ∀ n < 4, groupName n ∉ grouped.declarations.map Declaration.name := by decide
  exact fun n hn => nextFree_of_notMem (hfree n hn)

/-- The rules of a row with groups, the first of which has the number `n`. -/
theorem flattenAll_grouped {names : List String} (l : Level) {n : ℕ}
    (hnames : grouped.inner l = groupName n ∧ grouped.tail l = groupName (n + 1))
    (hfree : nextFree names n = n ∧ nextFree names (n + 1) = n + 1) :
    flattenAll names (grouped.levelDeclarations l) n =
      ((grouped.levelRules l).map Draft.ofRule, n + 2) := by
  simp only [levelDeclarations, flattenAll, Declaration.flatten, tailChoice, Choice.flatten,
    Series.flatten, Item.flatten, hfree]
  rw [← hnames.1, ← hnames.2]
  rfl

theorem flattenAll_append (names : List String) (before after : List Declaration) (n : ℕ) :
    flattenAll names (before ++ after) n =
      ((flattenAll names before n).1 ++ (flattenAll names after (flattenAll names before n).2).1,
        (flattenAll names after (flattenAll names before n).2).2) := by
  induction before generalizing n with
  | nil => rfl
  | cons declaration before ih => simp only [List.cons_append, flattenAll, ih, List.append_assoc]

theorem flattenAll_declarations (d : Dialect) :
    (flattenAll (d.declarations.map Declaration.name) d.declarations 0).1 =
      d.rules.map Draft.ofRule := by
  cases d with
  | named => rfl
  | grouped =>
    have hfree := nextFree_grouped
    generalize grouped.declarations.map Declaration.name = names at hfree
    have hsum := flattenAll_grouped .sum (by decide) ⟨hfree 0 (by decide), hfree 1 (by decide)⟩
    have hproduct := flattenAll_grouped .product (by decide)
      ⟨hfree 2 (by decide), hfree 3 (by decide)⟩
    have hlexer : flattenAll names lexerDeclarations 0 = (lexerRules.map Draft.ofRule, 0) := rfl
    have hfactor (n : ℕ) :
        (flattenAll names factorDeclarations n).1 = factorRules.map Draft.ofRule := rfl
    rw [declarations, flattenAll_append, flattenAll_append, flattenAll_append, hlexer, hsum,
      hproduct]
    simp only [hfactor, rules, parserRules, List.map_append, List.append_assoc]

theorem compileRules_text (d : Dialect) : compileRules d.text = .ok d.rules := by
  have hframes : framesOf d.declarations ≤ 1000 := by cases d <;> decide +kernel
  exact d.writes_text.compileRules_eq_ok hframes (rulesOf_of_flattenAll d.flattenAll_declarations)

/-- The text of a dialect is compiled to a grammar. -/
theorem exists_grammar (d : Dialect) : ∃ g, d.grammar = .ok g :=
  exists_compile d.compileRules_text (by cases d <;> decide +kernel)

theorem ofRules_of_grammar {d : Dialect} {g : Grammar} (hg : d.grammar = .ok g) :
    Grammar.ofRules d.rules [] true = .ok g :=
  (compile_eq_ok_iff d.compileRules_text).1 hg

/-! ### Alternatives -/

/-- The alternatives of a row. -/
def rowRules : Dialect → Level → List Rule
  | named, l => [named.rowRule l, singleRule l]
  | grouped, l => [grouped.rowRule l]

section

variable {d : Dialect} {g : Grammar} (hg : d.grammar = .ok g)
include hg

theorem alternativesOf_eq (name : String) :
    g.alternativesOf name = d.parserRules.filter (·.name = name) := by
  have hparser : ∀ rule ∈ d.parserRules, rule.kind = .parser := by cases d <;> decide
  exact Grammar.alternativesOf_of_append (ofRules_of_grammar hg) (by decide) hparser name

theorem alternativesOf_row (l : Level) : g.alternativesOf l.name = d.rowRules l := by
  rw [alternativesOf_eq hg]
  cases d <;> cases l <;> rfl

theorem alternativesOf_inner (l : Level) : g.alternativesOf (d.inner l) = [d.innerRule l] := by
  rw [alternativesOf_eq hg]
  cases d <;> cases l <;> rfl

theorem alternativesOf_tail (l : Level) :
    g.alternativesOf (d.tail l) = [d.tailRule l.first, d.tailRule l.second] := by
  rw [alternativesOf_eq hg]
  cases d <;> cases l <;> rfl

theorem alternativesOf_factor : g.alternativesOf "factor" =
    [factorRule none, factorRule (some .plus), factorRule (some .minus)] := by
  rw [alternativesOf_eq hg]
  cases d <;> rfl

theorem alternativesOf_primary : g.alternativesOf "primary" = [numberRule, groupRule] := by
  rw [alternativesOf_eq hg]
  cases d <;> rfl

/-- No kind of tokens has alternatives. -/
theorem alternativesOf_tokenKind {name : String} (h : name ∈ tokenKinds) :
    g.alternativesOf name = [] := by
  have hnames : ∀ rule ∈ d.parserRules, rule.name ∉ tokenKinds := by cases d <;> decide
  rw [alternativesOf_eq hg]
  exact Grammar.filter_name_eq_nil hnames h

end

end Dialect

end OrderedGrammar.Arithmetic
