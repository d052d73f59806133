import OrderedGrammar.Proofs.Matching.Failures
import OrderedGrammar.Proofs.Schema.Lexing
import OrderedGrammar.Proofs.Schema.Matching
import OrderedGrammar.Proofs.Walking

/-!
# Definitions are decoded

The walk through the tree of a definition reads the collection that is defined: its name, and its
columns one after the other (`collection_eq`).  So a definition is read back from the text that it
is written as, and whatever is accepted as a statement is a definition (`statements_decoded`).
-/

namespace OrderedGrammar.Schema

open Walk Notation

/-! ### Walks -/

/-- Whether a step reads some columns behind those that have been read, and does nothing else. -/
def ReadsColumns (x : Read Unit) (columns : List Column) : Prop :=
  ∀ name before, x.run ⟨walker.handlers, ⟨name, before⟩⟩ =
    .ok () ⟨walker.handlers, ⟨name, before ++ columns⟩⟩

theorem lookup_column :
    walker.handlers.lookup (Text.lowercase "column_definition") = some .column := by
  rfl

theorem lookup_table :
    walker.handlers.lookup (Text.lowercase "table_definition") = some .table := by
  rfl

theorem lookup_statement : walker.handlers.lookup (Text.lowercase "statement") = none := by
  rfl

section Enter

variable {name : String} (fields : Fields Tree) (fuel : ℕ) (c : Collection)

theorem run_enter_of_lookup {handler : Handler}
    (h : walker.handlers.lookup (Text.lowercase name) = some handler) :
    (enter act (fuel + 1) none ⟨name, fields⟩).run ⟨walker.handlers, c⟩ =
      (act handler (visitNodes (enter act fuel) none) ⟨name, fields⟩).run ⟨walker.handlers, c⟩ :=
  run_enter_of_handler (w := ⟨walker.handlers, c⟩) (n := ⟨name, fields⟩) h fuel

theorem run_enter_of_lookup_eq_none
    (h : walker.handlers.lookup (Text.lowercase name) = none) :
    (enter act (fuel + 1) none ⟨name, fields⟩).run ⟨walker.handlers, c⟩ =
      (children (visitNodes (enter act fuel) none) ⟨name, fields⟩).run ⟨walker.handlers, c⟩ :=
  run_enter_of_none (w := ⟨walker.handlers, c⟩) (n := ⟨name, fields⟩) h fuel

end Enter

/-- Entering the node of a column reads the column. -/
theorem readsColumns_column {c : ColumnDefinition} {m : Node} (h : c.IsTree m) (fuel : ℕ) :
    ReadsColumns (enter act (fuel + 1) none m) [c.column] := by
  cases h with
  | @intro a t mark hname htype hmark =>
    have htext : Node.getText ⟨"column_definition",
        ("COLUMN_NAME", .token a) :: ("DATA_TYPE", .token t) :: notNullFields mark⟩
          "COLUMN_NAME" = .ok a.text := rfl
    have htoken : Node.getToken ⟨"column_definition",
        ("COLUMN_NAME", .token a) :: ("DATA_TYPE", .token t) :: notNullFields mark⟩
          "DATA_TYPE" = .ok t := rfl
    have hhas : Node.has ⟨"column_definition",
        ("COLUMN_NAME", .token a) :: ("DATA_TYPE", .token t) :: notNullFields mark⟩
          "NOT_NULL" = c.notNull := by
      rw [← hmark]
      cases mark <;> rfl
    intro name before
    rw [run_enter_of_lookup _ _ _ lookup_column]
    simp only [act, htext, htoken, hhas, access, pure_bind]
    rw [ColumnDefinition.column, ← hname, ← htype]
    rfl

/-- Visiting the nodes of columns reads the columns in order. -/
theorem readsColumns_columns {cs : List ColumnDefinition} {ms : List Node}
    (h : List.Forall₂ ColumnDefinition.IsTree cs ms) (fuel : ℕ) :
    ReadsColumns (visitItems (enter act (fuel + 1)) none (ms.map Node.toTree))
      (cs.map ColumnDefinition.column) := by
  induction h with
  | nil =>
    intro name before
    rw [List.map_nil, List.map_nil, List.append_nil]
    rfl
  | @cons c m cs ms hm _ ih =>
    intro name before
    have hrest := ih name (before ++ [c.column])
    rw [List.append_assoc, List.singleton_append] at hrest
    rw [List.map_cons, visitItems, visitNodes_toTree, EStateM.run_bind, readsColumns_column hm]
    exact hrest

/-- Entering the node of a collection reads its name and its columns. -/
theorem run_table {a : Token} {cs : List ColumnDefinition} {ms : List Node}
    (h : List.Forall₂ ColumnDefinition.IsTree cs ms) (fuel : ℕ) (c : Collection) :
    (enter act (fuel + 2) none ⟨"table_definition",
      [("NAME", .token a), ("COLUMNS", .list (ms.map Node.toTree))]⟩).run ⟨walker.handlers, c⟩ =
        .ok () ⟨walker.handlers,
          ⟨some a.text, c.columns ++ cs.map ColumnDefinition.column⟩⟩ := by
  have htext : Node.getText ⟨"table_definition",
      [("NAME", .token a), ("COLUMNS", .list (ms.map Node.toTree))]⟩ "NAME" = .ok a.text := rfl
  have hlist : Node.get ⟨"table_definition",
      [("NAME", .token a), ("COLUMNS", .list (ms.map Node.toTree))]⟩ "COLUMNS" =
        .ok (.list (ms.map Node.toTree)) := rfl
  rw [run_enter_of_lookup _ _ _ lookup_table]
  simp only [act, htext, hlist, access, pure_bind, visitNodes]
  rw [EStateM.run_bind]
  exact readsColumns_columns h fuel (some a.text) c.columns

/-- The walk through a statement comes to the collection. -/
theorem run_statement {d : Definition} {n : Node} (h : d.IsTree n) {fuel : ℕ}
    (hfuel : n.toTree.height ≤ fuel) (c : Collection) : (enter act fuel none n).run
      ⟨walker.handlers, c⟩ = .ok () ⟨walker.handlers,
        ⟨some d.name, c.columns ++ d.columns.map ColumnDefinition.column⟩⟩ := by
  cases h with
  | @intro a ms hname hcolumns =>
    obtain ⟨k, rfl, hfields⟩ := exists_fuel hfuel
    obtain ⟨k, rfl, hparts⟩ := exists_fuel (m := ⟨"table_definition",
      [("NAME", .token a), ("COLUMNS", .list (ms.map Node.toTree))]⟩)
      (hfields _ List.mem_cons_self)
    have hlist : Tree.itemsHeight (ms.map Node.toTree) ≤ k :=
      hparts _ (List.mem_cons_of_mem _ List.mem_cons_self)
    -- there is a column, so that there is fuel for it
    obtain ⟨m, hm⟩ : ∃ m, m ∈ ms := by
      cases hcolumns with
      | cons _ _ => exact ⟨_, List.mem_cons_self⟩
    obtain ⟨k, rfl, -⟩ :=
      exists_fuel (height_le_of_itemsHeight hlist m hm)
    rw [run_enter_of_lookup_eq_none _ _ _ lookup_statement, children_one]
    rw [← hname]
    exact run_table hcolumns k c

/-- **The walk through the tree of a definition reads the collection.** -/
theorem collection_eq {d : Definition} {n : Node} (h : d.IsTree n) :
    collection n.toTree = .ok d.collection := by
  have hrun : (visit act n.toTree).run walker = .ok () ⟨walker.handlers, d.collection⟩ :=
    run_statement h le_rfl ⟨none, []⟩
  rw [collection, run_walk_of_ok hrun]

/-! ### Statements -/

/-- The tokens of a text are of kinds that no rule for trees is named like. -/
theorem alternativesOf_kind {g : Grammar} (hg : grammar = .ok g) {text : String} {ts : List Token}
    (h : g.tokenize text = .ok ts) : ∀ t ∈ ts, g.alternativesOf t.kind = [] := by
  have hkinds : ∀ rule ∈ Grammar.lexerRulesOf rules, rule.name ∈ tokenKinds := by decide
  exact fun t ht => alternativesOf_tokenKind hg
    (Grammar.kind_mem_of_tokenize (ofRules_of_grammar hg) hkinds h t ht)

theorem hasRule_statement {g : Grammar} (hg : grammar = .ok g) : g.hasRule "statement" := by
  rw [Grammar.hasRule_iff (ofRules_of_grammar hg)]
  exact ⟨statementRule, by decide, rfl⟩

/-- **Definitions are decoded.**  The grammar of definitions compiles.  A definition whose names are
words of ASCII but no keywords is parsed from the text that it is written as, if seven rules may be
nested, and the walk through the tree reads its collection: the name, and the columns in order.
Conversely, tokens that are accepted as a statement are those of a definition, up to how keywords
and signs are written, and its collection is read.  The tokens of a text are never named like a rule
for trees, and a text is parsed as its tokens are. -/
theorem statements_decoded : ∃ g, grammar = .ok g ∧
    (∀ (d : Definition) (options : ParseOptions), (∀ x ∈ d.names, IsName x) →
      7 ≤ options.budget → ∃ n, (g.parse "statement" d.text options).1 = .ok n ∧
        collection n.toTree = .ok d.collection) ∧
    (∀ (tokens : Array Token) (options : ParseOptions) (n : Node),
      (∀ t ∈ tokens, g.alternativesOf t.kind = []) →
      (g.parseTokens "statement" tokens options).1 = .ok n →
      ∃ d : Definition, tokens.toList.map (fun t => outline (t.kind, t.text)) =
        d.lexemes.map outline ∧ collection n.toTree = .ok d.collection) ∧
    ∀ (text : String) (options : ParseOptions) (n : Node),
      (g.parse "statement" text options).1 = .ok n →
      ∃ ts, g.tokenize text = .ok ts ∧ (∀ t ∈ ts, g.alternativesOf t.kind = []) ∧
        (g.parseTokens "statement" ts.toArray options).1 = .ok n := by
  obtain ⟨g, hg⟩ := exists_grammar
  have houtline (tokens : Array Token) : outlineFrom tokens 0 =
      tokens.toList.map fun t => outline (t.kind, t.text) := by
    rw [outlineFrom, lexemesFrom, List.drop_zero, List.map_map]
    rfl
  refine ⟨g, hg, fun d options hd hbudget => ?_, fun tokens options n hkinds hn => ?_,
    fun text options n hn => ?_⟩
  · obtain ⟨ts, hts, hlexemes⟩ := exists_tokens_text hg hd
    have htokens : outlineFrom ts.toArray 0 = d.lexemes.map outline := by
      rw [houtline, ← hlexemes, List.map_map]
      rfl
    obtain ⟨n, hn, htree⟩ := exists_tree hg
      (fun t ht => alternativesOf_kind hg hts t (by simpa using ht)) htokens hbudget
    exact ⟨n, Grammar.parse_eq_ok_iff.2 ⟨hasRule_statement hg, ts, hts, hn⟩, collection_eq htree⟩
  · obtain ⟨d, hd, htree⟩ := exists_definition hg hkinds hn
    exact ⟨d, (houtline tokens).symm.trans hd, collection_eq htree⟩
  · obtain ⟨-, ts, hts, hparse⟩ := Grammar.parse_eq_ok_iff.1 hn
    exact ⟨ts, hts, alternativesOf_kind hg hts, hparse⟩

/-- A token that is named like the rule for definitions is accepted as a statement, and is not
written like a definition. -/
theorem exists_undefined : ∃ g n, grammar = .ok g ∧
    (g.parseTokens "statement" #[⟨"table_definition", "x", 0⟩] {}).1 = .ok n ∧
    ∀ d : Definition, [outline ("table_definition", "x")] ≠ d.lexemes.map outline := by
  obtain ⟨g, hg⟩ := exists_grammar
  have hparses : (Grammar.ofRules rules [] true).toOption.any fun g =>
      (g.parseTokens "statement" #[⟨"table_definition", "x", 0⟩] {}).1.isOk := by decide +kernel
  rw [ofRules_of_grammar hg] at hparses
  obtain ⟨n, hn⟩ := exists_ok_of_isOk hparses
  refine ⟨g, n, hg, hn, fun d heq => ?_⟩
  have hlength := congrArg List.length heq
  simp [Definition.lexemes] at hlength

/-! ### A definition -/

/-- A collection with three columns, one of which must be filled. -/
def threeColumns : Definition :=
  ⟨"MyCollection", ⟨"a", .integer, true⟩, [⟨"b", .text, false⟩, ⟨"c", .datetime, false⟩]⟩

theorem threeColumns_decoded : ∃ g n ts, ∃ d : Definition, grammar = .ok g ∧
    (g.parse "statement"
      "CREATE COLLECTION MyCollection ( a INT NOT NULL , b TEXT , c DATETIME )" {}).1 = .ok n ∧
    collection n.toTree = .ok ⟨some "MyCollection", [⟨"a", "DATA_TYPE_INTEGER", true⟩,
      ⟨"b", "DATA_TYPE_TEXT", false⟩, ⟨"c", "DATA_TYPE_DATETIME", false⟩]⟩ ∧
    (g.parseTokens "statement" ts {}).1 = .ok n ∧
    ts.toList.map (fun t => outline (t.kind, t.text)) = d.lexemes.map outline ∧
    collection n.toTree = .ok d.collection := by
  obtain ⟨g, hg, htexts, htokens, hscans⟩ := statements_decoded
  have hnames : ∀ x ∈ threeColumns.names, IsName x := by decide
  have htext : threeColumns.text =
      "CREATE COLLECTION MyCollection ( a INT NOT NULL , b TEXT , c DATETIME )" := by
    decide +kernel
  obtain ⟨n, hn, hcollection⟩ := htexts threeColumns {} hnames (by decide)
  rw [htext] at hn
  obtain ⟨ts, -, hkinds, hparse⟩ := hscans _ _ n hn
  obtain ⟨d, houtlines, hread⟩ := htokens ts.toArray {} n
    (fun t ht => hkinds t (by simpa using ht)) hparse
  exact ⟨g, n, ts.toArray, d, hg, hn, hcollection, hparse, houtlines, hread⟩

end OrderedGrammar.Schema
