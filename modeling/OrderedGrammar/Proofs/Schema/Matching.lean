import OrderedGrammar.Proofs.Matching.Acceptance
import OrderedGrammar.Proofs.Notation.Completeness
import OrderedGrammar.Proofs.Notation.Soundness
import OrderedGrammar.Proofs.Schema.Rules

/-!
# Definitions are matched

The tokens that are accepted as a statement are those of definitions, and the tree is the
definition's (`exists_tree`, `exists_definition`).  Nothing but the kinds of keywords and of signs
counts, so that tokens are compared by their outlines.

## Main definitions

* `outlineFrom` : the outlines of the tokens from an index on.
* `Definition.IsTree` : the trees of definitions.
-/

namespace OrderedGrammar.Schema

open Notation

/-! ### Trees -/

/-- The field of a column that must be filled. -/
def notNullFields (mark : Option (Token × Token)) : Fields Tree :=
  mark.toList.map fun m => ("NOT_NULL", .list [.token m.1, .token m.2])

/-- Whether a node shows a column. -/
inductive ColumnDefinition.IsTree : ColumnDefinition → Node → Prop
  | intro {c : ColumnDefinition} {a t : Token} {mark : Option (Token × Token)} :
      a.text = c.name → t.kind = c.type.kind → mark.isSome = c.notNull →
      IsTree c ⟨"column_definition",
        ("COLUMN_NAME", .token a) :: ("DATA_TYPE", .token t) :: notNullFields mark⟩

/-- Whether a node shows a definition. -/
inductive Definition.IsTree : Definition → Node → Prop
  | intro {d : Definition} {a : Token} {ms : List Node} :
      a.text = d.name → List.Forall₂ ColumnDefinition.IsTree d.columns ms →
      IsTree d ⟨"statement", [("STATEMENT", .node "table_definition"
        [("NAME", .token a), ("COLUMNS", .list (ms.map Node.toTree))])]⟩

/-! ### Tokens -/

/-- The outlines of the tokens from an index on. -/
def outlineFrom (tokens : Array Token) (i : ℕ) : List Lexeme :=
  (lexemesFrom tokens i).map outline

section

variable {tokens : Array Token} {i j : ℕ} {x : Lexeme} {rest : List Lexeme}

theorem of_outlineFrom_cons (h : outlineFrom tokens i = x :: rest) :
    (kindsOf tokens)[i]? = some x.1 ∧ (tokens.getD i default).kind = x.1 ∧
      outline (x.1, (tokens.getD i default).text) = x ∧ outlineFrom tokens (i + 1) = rest := by
  obtain ⟨y, more, hmore, rfl, rfl⟩ := List.map_eq_cons_iff.1 h
  obtain ⟨hkind, hkind', htext, hnext⟩ := of_lexemesFrom_cons hmore
  refine ⟨hkind, hkind', ?_, by rw [outlineFrom, hnext]⟩
  rw [htext]
  rfl

theorem headKind_outlineFrom : headKind (outlineFrom tokens i) = (kindsOf tokens)[i]? := by
  rw [← headKind_lexemesFrom, outlineFrom]
  cases lexemesFrom tokens i <;> rfl

theorem outlineFrom_eq_nil_iff : outlineFrom tokens i = [] ↔ tokens.size ≤ i := by
  rw [outlineFrom, List.map_eq_nil_iff, lexemesFrom_eq_nil_iff]

end

/-! ### Completeness -/

theorem tree_columnRule (tokens : Array Token) (d d' : Derivation) (o : Option Derivation) :
    (Derivation.branch columnRule ((.ofModifier "column_name" .required "COLUMN_NAME", d) ::
      (.ofModifier "data_type" .required "DATA_TYPE", d') ::
        (o.toList.map (.ofModifier "not_null" .optional "NOT_NULL", ·) ++ []))).tree tokens =
      .node "column_definition" (("COLUMN_NAME", d.tree tokens) ::
        ("DATA_TYPE", d'.tree tokens) :: o.toList.map fun d => ("NOT_NULL", d.tree tokens)) := by
  cases o <;> rfl

theorem tree_listRule {tokens : Array Token} {i j : ℕ} {d : Derivation} {ds : List Derivation}
    {ms : List Node} (h : (d :: ds).map (·.tree tokens) = ms.map Node.toTree) :
    (Derivation.branch listRule ((.ofModifier "LEFT_PAREN" .ignored none, .leaf i) ::
      (.ofModifier "column_definition" .required "", d) ::
        (ds.map (.ofModifier "anonymous_1" .zeroOrMore "", ·) ++
          [(.ofModifier "RIGHT_PAREN" .ignored none, .leaf j)]))).tree tokens =
      .list (ms.map Node.toTree) := by
  have hstored : Derivation.stored tokens ((.ofModifier "LEFT_PAREN" .ignored none, .leaf i) ::
      (.ofModifier "column_definition" .required "", d) ::
        (ds.map (.ofModifier "anonymous_1" .zeroOrMore "", ·) ++
          [(.ofModifier "RIGHT_PAREN" .ignored none, .leaf j)])) =
      ((d :: ds).map (·.tree tokens)).map ("", ·) := by
    rw [Derivation.stored_cons, if_pos (by decide), Derivation.stored_cons, if_neg (by decide),
      Derivation.stored_append, Derivation.stored_map, if_neg (by decide), List.map_cons,
      List.map_cons, List.map_map, Derivation.stored_cons, if_pos (by decide)]
    exact congrArg _ (List.append_nil _)
  rw [Derivation.tree, hstored, Rule.assemble_map_empty rfl (by simp), flatMap_spliced h, h]

section Complete

variable {g : Grammar} (hg : grammar = .ok g) {tokens : Array Token}
  (hkinds : ∀ t ∈ tokens, g.alternativesOf t.kind = []) {limit : ℕ∞} {i j n : ℕ}
  {rest : List Lexeme} {kind : String}

section Marks

include hg

theorem mark_match (hkind : kind ∈ tokenKinds) (h : (kindsOf tokens)[i]? = some kind) :
    g.NameMatches (kindsOf tokens) limit kind i (some (.leaf i, i + 1)) := by
  rw [Grammar.nameMatches_terminal (alternativesOf_tokenKind hg hkind), if_pos h]

theorem not_mark_match (hkind : kind ∈ tokenKinds) (h : (kindsOf tokens)[i]? ≠ some kind) :
    g.NameMatches (kindsOf tokens) limit kind i none := by
  rw [Grammar.nameMatches_terminal (alternativesOf_tokenKind hg hkind), if_neg h]

/-- A token that a symbol asks for is there. -/
theorem symbolsMatch_mark {s : Symbol} {symbols : List Symbol} {text : String}
    {parts : List (Symbol × Derivation)}
    (hs : ¬s.optional ∧ ¬s.repeatable ∧ s.name ∈ tokenKinds)
    (h : outlineFrom tokens i = outline (s.name, text) :: rest)
    (t : g.SymbolsMatch (kindsOf tokens) limit symbols (i + 1) (some (parts, j))) :
    g.SymbolsMatch (kindsOf tokens) limit (s :: symbols) i (some ((s, .leaf i) :: parts, j)) :=
  symbolsMatch_required hs.1 hs.2.1 (mark_match hg hs.2.2 (of_outlineFrom_cons h).1) t

end Marks

include hkinds

/-- No token has the name of alternatives as its kind. -/
theorem kind_ne_of_alternatives (name : String) (hname : g.alternativesOf name ≠ []) (i : ℕ) :
    (kindsOf tokens)[i]? ≠ some name := by
  intro h
  obtain ⟨hi, hkind⟩ := Array.getElem?_eq_some_iff.1 h
  have hi' : i < tokens.size := by simpa using hi
  have hkind' : tokens[i].kind = name := by simpa using hkind
  exact hname (hkind' ▸ hkinds tokens[i] (Array.getElem_mem hi'))

/-- A name with one alternative is what that is. -/
theorem nameMatches_one_iff {name : String} {r : Rule} {o : Option (Derivation × ℕ)}
    (halts : g.alternativesOf name = [r]) :
    g.NameMatches (kindsOf tokens) limit name i o ↔ g.RuleMatches (kindsOf tokens) limit r i o :=
  Grammar.nameMatches_one halts (kind_ne_of_alternatives hkinds name (by simp [halts]) i)

/-- A name that hands on what another name matches. -/
theorem handing_match {name inner : String} {dv : Derivation}
    (halts : g.alternativesOf name = [handingRule name inner])
    (h : g.NameMatches (kindsOf tokens) n inner i (some (dv, j))) :
    ∃ dv', g.NameMatches (kindsOf tokens) (n + 1 : ℕ) name i (some (dv', j)) ∧
      dv'.tree tokens = dv.tree tokens :=
  ⟨_, (nameMatches_one_iff hkinds halts).2 (ruleMatches_matched (symbolsMatch_required
    (by simp [Symbol.ofModifier]) (by simp [Symbol.ofModifier]) h .nil)), rfl⟩

include hg

theorem columnName_match {name : String}
    (h : outlineFrom tokens i = outline ("IDENTIFIER", name) :: rest) :
    ∃ dv, g.NameMatches (kindsOf tokens) (n + 1 : ℕ) "column_name" i (some (dv, i + 1)) ∧
      dv.tree tokens = .token (tokens.getD i default) :=
  handing_match hkinds (alternativesOf_eq hg _)
    (mark_match hg (by decide : "IDENTIFIER" ∈ tokenKinds) (of_outlineFrom_cons h).1)

/-- A type is matched by its alternative, as those before it are for other types. -/
theorem dataType_match {d : DataType}
    (h : outlineFrom tokens i = outline (d.kind, d.word) :: rest) :
    ∃ dv, g.NameMatches (kindsOf tokens) (n + 1 : ℕ) "data_type" i (some (dv, i + 1)) ∧
      dv.tree tokens = .token (tokens.getD i default) := by
  have halts : g.alternativesOf "data_type" =
      DataType.all.map fun d => handingRule "data_type" d.kind := alternativesOf_eq hg _
  have hne := kind_ne_of_alternatives hkinds "data_type" (by simp [halts, DataType.all]) i
  have hmem (d : DataType) : d.kind ∈ tokenKinds := by cases d <;> decide
  have hkind : (kindsOf tokens)[i]? = some d.kind := (of_outlineFrom_cons h).1
  obtain ⟨before, behind, hall, hbefore⟩ := List.eq_append_cons_of_mem d.mem_all
  rw [hall, List.map_append, List.map_cons] at halts
  refine ⟨_, .rule hne halts ?_ (ruleMatches_matched (symbolsMatch_required
    (by simp [Symbol.ofModifier]) (by simp [Symbol.ofModifier])
    (mark_match hg (hmem d) hkind) .nil)), rfl⟩
  rw [List.forall_mem_map]
  intro d' hd'
  refine ruleMatches_fail (symbolsMatch_failHead (by simp [Symbol.ofModifier])
    (not_mark_match hg (hmem d') ?_))
  rw [hkind]
  exact fun heq => hbefore (DataType.kind_injective (Option.some.inj heq) ▸ hd')

theorem notNull_match
    (h : outlineFrom tokens i = outline ("NOT", "NOT") :: outline ("NULL", "NULL") :: rest) :
    ∃ dv, g.NameMatches (kindsOf tokens) (n + 2 : ℕ) "not_null" i (some (dv, i + 2)) ∧
      dv.tree tokens =
        .list [.token (tokens.getD i default), .token (tokens.getD (i + 1) default)] := by
  have hsymbols : g.SymbolsMatch (kindsOf tokens) n notNullRule.symbols i
      (some ([(.ofModifier "NOT" .required "", .leaf i),
        (.ofModifier "NULL" .required "", .leaf (i + 1))], i + 2)) :=
    symbolsMatch_mark hg (by decide) h
      (symbolsMatch_mark hg (by decide) (of_outlineFrom_cons h).2.2.2 .nil)
  exact handing_match hkinds (alternativesOf_eq hg _)
    ((nameMatches_one_iff hkinds (alternativesOf_eq hg _)).2 (ruleMatches_matched hsymbols))

theorem not_notNull_match (h : headKind (outlineFrom tokens i) ≠ some "NOT") :
    g.NameMatches (kindsOf tokens) (n + 2 : ℕ) "not_null" i none := by
  rw [headKind_outlineFrom] at h
  have hgroup : g.NameMatches (kindsOf tokens) (n + 1 : ℕ) "anonymous_0" i none :=
    (nameMatches_one_iff hkinds (alternativesOf_eq hg _)).2
      (ruleMatches_fail (symbolsMatch_failHead (by decide) (not_mark_match hg (by decide) h)))
  exact (nameMatches_one_iff hkinds (alternativesOf_eq hg _)).2
    (ruleMatches_fail (symbolsMatch_failHead (by decide) hgroup))

/-- A column, behind which comes no negation. -/
theorem column_match {c : ColumnDefinition}
    (h : outlineFrom tokens i = c.lexemes.map outline ++ rest)
    (hrest : headKind rest ≠ some "NOT") :
    ∃ dv j m, g.NameMatches (kindsOf tokens) (n + 3 : ℕ) "column_definition" i (some (dv, j)) ∧
      outlineFrom tokens j = rest ∧ dv.tree tokens = Node.toTree m ∧ c.IsTree m := by
  obtain ⟨name, type, notNull⟩ := c
  obtain ⟨-, -, hname, h'⟩ := of_outlineFrom_cons h
  obtain ⟨-, hkind, -, hmark⟩ := of_outlineFrom_cons h'
  obtain ⟨dname, hdname, htname⟩ := columnName_match hg hkinds (n := n + 1) h
  obtain ⟨dtype, hdtype, httype⟩ := dataType_match hg hkinds (n := n + 1) h'
  have htext : (tokens.getD i default).text = name := congrArg Prod.snd hname
  have hmatch {ds : List Derivation} {j : ℕ} (hds : g.SymbolMatches (kindsOf tokens) (n + 2 : ℕ)
      (.ofModifier "not_null" .optional "NOT_NULL") (i + 2) (some (ds, j))) :=
    (nameMatches_one_iff hkinds (alternativesOf_eq hg "column_definition")).2
      (ruleMatches_matched (r := columnRule) (symbolsMatch_required (by decide) (by decide) hdname
        (symbolsMatch_required (by decide) (by decide) hdtype (.cons hds .nil))))
  cases notNull with
  | true =>
    -- the two tokens of the negation are behind the type
    obtain ⟨dmark, hdmark, htmark⟩ := notNull_match hg hkinds (n := n) hmark
    obtain ⟨hnot, -, -, hnull⟩ := of_outlineFrom_cons hmark
    obtain ⟨-, -, -, hend⟩ := of_outlineFrom_cons hnull
    have hlt : i + 2 < (kindsOf tokens).size := (Array.getElem?_eq_some_iff.1 hnot).1
    refine ⟨_, i + 4, _, hmatch ((Grammar.symbolMatches_optional (by decide) (by decide)).2
      (.inr ⟨hlt, some (dmark, i + 4), hdmark, rfl⟩)), hend,
      (tree_columnRule tokens dname dtype (some dmark)).trans ?_,
      @ColumnDefinition.IsTree.intro _ _ _
        (some (tokens.getD (i + 2) default, tokens.getD (i + 3) default)) htext hkind rfl⟩
    rw [htname, httype, Option.toList_some, List.map_singleton, htmark]
    rfl
  | false =>
    -- the negation is left out: at the end it is not attempted, elsewhere the attempt fails
    have hskip : g.SymbolMatches (kindsOf tokens) (n + 2 : ℕ)
        (.ofModifier "not_null" .optional "NOT_NULL") (i + 2) (some ([], i + 2)) := by
      refine (Grammar.symbolMatches_optional (by decide) (by decide)).2 ?_
      obtain hle | hlt := le_or_gt (kindsOf tokens).size (i + 2)
      · exact .inl ⟨hle, rfl⟩
      · exact .inr ⟨hlt, none, not_notNull_match hg hkinds (hmark ▸ hrest), rfl⟩
    refine ⟨_, i + 2, _, hmatch hskip, hmark, (tree_columnRule tokens dname dtype none).trans ?_,
      @ColumnDefinition.IsTree.intro _ _ _ none htext hkind rfl⟩
    rw [htname, httype]
    rfl

/-- The columns behind the first one, up to something else than a comma. -/
theorem rounds_match {others : List ColumnDefinition}
    (h : outlineFrom tokens i = (others.flatMap ColumnDefinition.tailLexemes).map outline ++ rest)
    (hcomma : headKind rest ≠ some "COMMA") (hnot : headKind rest ≠ some "NOT") :
    ∃ ds j ms, g.RoundsMatch (kindsOf tokens) (n + 4 : ℕ) "anonymous_1" i ds j ∧
      outlineFrom tokens j = rest ∧ ds.map (·.tree tokens) = ms.map Node.toTree ∧
      List.Forall₂ ColumnDefinition.IsTree others ms := by
  have halts : g.alternativesOf "anonymous_1" = [tailRule] := alternativesOf_eq hg _
  induction others generalizing i with
  | nil =>
    have h : outlineFrom tokens i = rest := h
    refine ⟨[], i, [], .stop ((nameMatches_one_iff hkinds halts).2 (ruleMatches_fail
      (symbolsMatch_failHead (by decide) (not_mark_match hg (by decide) ?_)))), h, rfl, .nil⟩
    rw [← headKind_outlineFrom, h]
    exact hcomma
  | cons c others ih =>
    rw [List.flatMap_cons, List.map_append, List.append_assoc] at h
    obtain ⟨-, -, -, hcolumn⟩ := of_outlineFrom_cons h
    -- behind a column there is a comma or what comes after all of them
    have hbehind : headKind ((others.flatMap ColumnDefinition.tailLexemes).map outline ++ rest) ≠
        some "NOT" := by
      cases others with
      | nil => exact hnot
      | cons c others => exact (by decide : some "COMMA" ≠ some "NOT")
    obtain ⟨dv, j, m, hdv, hj, htree, hm⟩ := column_match hg hkinds (n := n) hcolumn hbehind
    obtain ⟨ds, k, ms, hds, hk, htrees, hms⟩ := ih hj
    have htail := (nameMatches_one_iff hkinds halts).2 (ruleMatches_matched (r := tailRule)
      (symbolsMatch_mark hg (by decide) h
        (symbolsMatch_required (by decide) (by decide) hdv .nil)))
    have hle : i + 1 ≤ j := (hdv.spans _ rfl).1
    refine ⟨_ :: ds, k, m :: ms, .more htail (by omega) hds, hk, ?_, .cons hm hms⟩
    rw [List.map_cons, List.map_cons, htrees, ← htree]
    rfl

/-- The columns in parentheses. -/
theorem list_match {d : Definition} (h : outlineFrom tokens i = d.listLexemes.map outline) :
    ∃ dv j ms, g.NameMatches (kindsOf tokens) (n + 5 : ℕ) "collection_element_list" i
        (some (dv, j)) ∧
      outlineFrom tokens j = [] ∧ dv.tree tokens = .list (ms.map Node.toTree) ∧
      List.Forall₂ ColumnDefinition.IsTree d.columns ms := by
  obtain ⟨-, -, -, hfirst⟩ := of_outlineFrom_cons h
  rw [List.map_append, List.map_append] at hfirst
  have hbehind : headKind ((d.others.flatMap ColumnDefinition.tailLexemes).map outline ++
      [("RIGHT_PAREN", ")")].map outline) ≠ some "NOT" := by
    cases d.others with
    | nil => exact (by decide : some "RIGHT_PAREN" ≠ some "NOT")
    | cons c others => exact (by decide : some "COMMA" ≠ some "NOT")
  obtain ⟨dv, j, m, hdv, hj, htree, hm⟩ := column_match hg hkinds (n := n + 1) hfirst hbehind
  obtain ⟨ds, k, ms, hds, hk, htrees, hms⟩ := rounds_match hg hkinds (n := n) hj
    (by decide : some "RIGHT_PAREN" ≠ some "COMMA") (by decide : some "RIGHT_PAREN" ≠ some "NOT")
  obtain ⟨-, -, -, hend⟩ := of_outlineFrom_cons hk
  have hlt : j < (kindsOf tokens).size := by
    have hne : outlineFrom tokens j ≠ [] := by simp [hj]
    rw [Ne, outlineFrom_eq_nil_iff] at hne
    rw [Array.size_map]
    omega
  have hrounds : g.SymbolMatches (kindsOf tokens) (n + 4 : ℕ)
      (.ofModifier "anonymous_1" .zeroOrMore "") j (some (ds, k)) :=
    (Grammar.symbolMatches_zeroOrMore (by decide) (by decide)).2 (.inr ⟨hlt, ds, k, hds, rfl⟩)
  have htrees : (dv :: ds).map (·.tree tokens) = (m :: ms).map Node.toTree := by
    rw [List.map_cons, List.map_cons, htree, htrees]
  refine ⟨_, k + 1, m :: ms, (nameMatches_one_iff hkinds (alternativesOf_eq hg _)).2
    (ruleMatches_matched (r := listRule) (symbolsMatch_mark hg (by decide) h
      (symbolsMatch_required (by decide) (by decide) hdv (.cons hrounds
        (symbolsMatch_mark hg (by decide) hk .nil))))), hend, tree_listRule htrees, .cons hm hms⟩

/-- The tokens of a definition are matched as a whole. -/
theorem statement_match {d : Definition} (h : outlineFrom tokens 0 = d.lexemes.map outline) :
    ∃ dv m, g.NameMatches (kindsOf tokens) (7 : ℕ) "statement" 0
        (some (dv, (kindsOf tokens).size)) ∧
      dv.tree tokens = Node.toTree m ∧ d.IsTree m := by
  obtain ⟨-, -, -, hcollection⟩ := of_outlineFrom_cons h
  obtain ⟨-, -, -, hname⟩ := of_outlineFrom_cons hcollection
  obtain ⟨-, -, htext, hlist⟩ := of_outlineFrom_cons hname
  obtain ⟨dv, j, ms, hdv, hj, htree, hms⟩ := list_match hg hkinds (n := 0) hlist
  have htable := (nameMatches_one_iff hkinds (alternativesOf_eq hg "table_definition")).2
    (ruleMatches_matched (r := tableRule) (symbolsMatch_mark hg (by decide) h
      (symbolsMatch_mark hg (by decide) hcollection (symbolsMatch_mark hg (by decide) hname
        (symbolsMatch_required (by decide) (by decide) hdv .nil)))))
  have hstatement := (nameMatches_one_iff hkinds (alternativesOf_eq hg "statement")).2
    (ruleMatches_matched (r := statementRule)
      (symbolsMatch_required (by decide) (by decide) htable .nil))
  obtain rfl : j = (kindsOf tokens).size := by
    obtain ⟨-, hle, -⟩ := hstatement.spans _ rfl
    have hge := outlineFrom_eq_nil_iff.1 hj
    simp only [Array.size_map] at hle ⊢
    omega
  refine ⟨_, _, hstatement, ?_, .intro (congrArg Prod.snd htext) hms⟩
  rw [← htree]
  rfl

end Complete

/-! ### Soundness -/

/-- Of a keyword or a sign, the text does not count. -/
theorem outline_eq {kind : String} (h : kind ≠ "IDENTIFIER") (text text' : String) :
    outline (kind, text) = outline (kind, text') := by
  rw [outline, outline, if_neg h, if_neg h]

section Sound

variable {g : Grammar} (hg : grammar = .ok g) {tokens : Array Token}
  (hkinds : ∀ t ∈ tokens, g.alternativesOf t.kind = []) {limit : ℕ∞} {i j k n : ℕ}
  {d : Derivation} {parts : List (Symbol × Derivation)} {symbols : List Symbol} {s : Symbol}

section Marks

include hg

theorem of_mark_match {kind : String} (hkind : kind ∈ tokenKinds)
    (h : g.NameMatches (kindsOf tokens) limit kind i (some (d, j))) :
    ∃ text, outlineFrom tokens i = outline (kind, text) :: outlineFrom tokens j := by
  obtain ⟨text, htext⟩ := exists_text_of_nameMatches (alternativesOf_tokenKind hg hkind) h
  exact ⟨text, by rw [outlineFrom, htext, List.map_cons]; rfl⟩

/-- A keyword or a sign that a symbol asks for, with the text that it is always written in. -/
theorem of_symbolsMatch_mark (hs : ¬s.optional ∧ ¬s.repeatable ∧ s.name ∈ tokenKinds)
    (hname : s.name ≠ "IDENTIFIER") (text : String)
    (h : g.SymbolsMatch (kindsOf tokens) limit (s :: symbols) i (some (parts, k))) :
    ∃ j parts', outlineFrom tokens i = outline (s.name, text) :: outlineFrom tokens j ∧
      g.SymbolsMatch (kindsOf tokens) limit symbols j (some (parts', k)) := by
  obtain ⟨d, j, parts', hd, hrest⟩ := of_symbolsMatch_required hs.1 hs.2.1 h
  obtain ⟨text', htext⟩ := of_mark_match hg hs.2.2 hd
  exact ⟨j, parts', by rw [htext, outline_eq hname], hrest⟩

end Marks

include hkinds

/-- What a name matches that hands on what others match. -/
theorem of_handing_match {name : String} (inner : List String)
    (halts : g.alternativesOf name = inner.map (handingRule name)) (hne : inner ≠ [])
    (h : g.NameMatches (kindsOf tokens) n name i (some (d, j))) :
    ∃ s ∈ inner, ∃ (m : ℕ) (d' : Derivation),
      g.NameMatches (kindsOf tokens) m s i (some (d', j)) := by
  have hkind := kind_ne_of_alternatives hkinds name (by simpa [halts] using hne) i
  obtain ⟨r, hr, h⟩ := Grammar.exists_rule_of_nameMatches hkind h
  rw [halts] at hr
  obtain ⟨s, hs, rfl⟩ := List.mem_map.1 hr
  obtain ⟨m, parts, -, hparts⟩ := of_ruleMatches h
  obtain ⟨d', k, parts', hd', hnil⟩ := of_symbolsMatch_required (by simp [Symbol.ofModifier])
    (by simp [Symbol.ofModifier]) hparts
  obtain rfl := of_symbolsMatch_nil hnil
  exact ⟨s, hs, m, d', hd'⟩

/-- What a name with one alternative matches is what the symbols of that match. -/
theorem of_one_match {name : String} {r : Rule} (halts : g.alternativesOf name = [r])
    (h : g.NameMatches (kindsOf tokens) n name i (some (d, j))) :
    ∃ (m : ℕ) (parts : List (Symbol × Derivation)),
      g.SymbolsMatch (kindsOf tokens) m r.symbols i (some (parts, j)) := by
  obtain ⟨m, parts, -, hparts⟩ := of_ruleMatches ((nameMatches_one_iff hkinds halts).1 h)
  exact ⟨m, parts, hparts⟩

include hg

theorem columnName_sound (h : g.NameMatches (kindsOf tokens) n "column_name" i (some (d, j))) :
    ∃ name, outlineFrom tokens i = outline ("IDENTIFIER", name) :: outlineFrom tokens j := by
  obtain ⟨s, hs, m, d', hd'⟩ := of_handing_match hkinds ["IDENTIFIER"]
    (alternativesOf_eq hg _) (by simp) h
  obtain rfl := List.mem_singleton.1 hs
  exact of_mark_match hg (by decide) hd'

theorem dataType_sound (h : g.NameMatches (kindsOf tokens) n "data_type" i (some (d, j))) :
    ∃ type : DataType,
      outlineFrom tokens i = outline (type.kind, type.word) :: outlineFrom tokens j := by
  obtain ⟨s, hs, m, d', hd'⟩ := of_handing_match hkinds (DataType.all.map DataType.kind)
    (alternativesOf_eq hg _) (by simp [DataType.all]) h
  obtain ⟨type, -, rfl⟩ := List.mem_map.1 hs
  have hkind : type.kind ∈ tokenKinds ∧ type.kind ≠ "IDENTIFIER" := by cases type <;> decide
  obtain ⟨text, htext⟩ := of_mark_match hg hkind.1 hd'
  exact ⟨type, by rw [htext, outline_eq hkind.2]⟩

theorem notNull_sound (h : g.NameMatches (kindsOf tokens) n "not_null" i (some (d, j))) :
    outlineFrom tokens i =
      outline ("NOT", "NOT") :: outline ("NULL", "NULL") :: outlineFrom tokens j := by
  obtain ⟨s, hs, m, d', hd'⟩ := of_handing_match hkinds ["anonymous_0"]
    (alternativesOf_eq hg _) (by simp) h
  obtain rfl := List.mem_singleton.1 hs
  obtain ⟨m, parts, hparts⟩ := of_one_match hkinds (alternativesOf_eq hg _) hd'
  obtain ⟨k, parts, hnot, hparts⟩ := of_symbolsMatch_mark hg (by decide) (by decide) "NOT" hparts
  obtain ⟨l, parts, hnull, hnil⟩ := of_symbolsMatch_mark hg (by decide) (by decide) "NULL" hparts
  obtain rfl := of_symbolsMatch_nil hnil
  rw [hnot, hnull]
  rfl

theorem column_sound (h : g.NameMatches (kindsOf tokens) n "column_definition" i (some (d, j))) :
    ∃ c : ColumnDefinition,
      outlineFrom tokens i = c.lexemes.map outline ++ outlineFrom tokens j := by
  obtain ⟨m, parts, hparts⟩ := of_one_match hkinds (alternativesOf_eq hg _) h
  obtain ⟨dname, k, parts, hname, hparts⟩ :=
    of_symbolsMatch_required (by decide) (by decide) hparts
  obtain ⟨dtype, l, parts, htype, hparts⟩ :=
    of_symbolsMatch_required (by decide) (by decide) hparts
  obtain ⟨ds, l', parts, hmark, hnil⟩ := of_symbolsMatch_cons hparts
  obtain rfl := of_symbolsMatch_nil hnil
  obtain ⟨name, hname⟩ := columnName_sound hg hkinds hname
  obtain ⟨type, htype⟩ := dataType_sound hg hkinds htype
  obtain ⟨-, heq⟩ | ⟨-, o, ho, heq⟩ :=
    (Grammar.symbolMatches_optional (by decide) (by decide)).1 hmark
  · cases heq
    exact ⟨⟨name, type, false⟩, by rw [hname, htype]; rfl⟩
  · cases o with
    | none =>
      cases heq
      exact ⟨⟨name, type, false⟩, by rw [hname, htype]; rfl⟩
    | some x =>
      cases heq
      exact ⟨⟨name, type, true⟩, by rw [hname, htype, notNull_sound hg hkinds ho]; rfl⟩

theorem tail_sound (h : g.NameMatches (kindsOf tokens) n "anonymous_1" i (some (d, j))) :
    ∃ c : ColumnDefinition,
      outlineFrom tokens i = c.tailLexemes.map outline ++ outlineFrom tokens j := by
  obtain ⟨m, parts, hparts⟩ := of_one_match hkinds (alternativesOf_eq hg _) h
  obtain ⟨k, parts, hcomma, hparts⟩ := of_symbolsMatch_mark hg (by decide) (by decide) "," hparts
  obtain ⟨dv, l, parts, hcolumn, hnil⟩ := of_symbolsMatch_required (by decide) (by decide) hparts
  obtain rfl := of_symbolsMatch_nil hnil
  obtain ⟨c, hc⟩ := column_sound hg hkinds hcolumn
  exact ⟨c, by rw [hcomma, hc]; rfl⟩

theorem tails_sound {ds : List Derivation}
    (h : g.RoundsMatch (kindsOf tokens) n "anonymous_1" i ds j) :
    ∃ cs : List ColumnDefinition, outlineFrom tokens i =
      (cs.flatMap ColumnDefinition.tailLexemes).map outline ++ outlineFrom tokens j := by
  induction ds generalizing i with
  | nil =>
    cases h
    exact ⟨[], rfl⟩
  | cons d ds ih =>
    cases h with
    | still hd =>
      obtain ⟨c, hc⟩ := tail_sound hg hkinds hd
      exact ⟨[c], by rw [List.flatMap_singleton]; exact hc⟩
    | more hd _ hds =>
      obtain ⟨c, hc⟩ := tail_sound hg hkinds hd
      obtain ⟨cs, hcs⟩ := ih hds
      exact ⟨c :: cs, by rw [hc, hcs, List.flatMap_cons, List.map_append, List.append_assoc]⟩

/-- What is matched as the columns in parentheses, whatever the collection is called. -/
theorem list_sound
    (h : g.NameMatches (kindsOf tokens) n "collection_element_list" i (some (d, j))) :
    ∃ first others, ∀ name, outlineFrom tokens i =
      (Definition.mk name first others).listLexemes.map outline ++ outlineFrom tokens j := by
  obtain ⟨m, parts, hparts⟩ := of_one_match hkinds (alternativesOf_eq hg _) h
  obtain ⟨k, parts, hopening, hparts⟩ :=
    of_symbolsMatch_mark hg (by decide) (by decide) "(" hparts
  obtain ⟨dfirst, l, parts, hfirst, hparts⟩ :=
    of_symbolsMatch_required (by decide) (by decide) hparts
  obtain ⟨ds, l', parts, hothers, hparts⟩ := of_symbolsMatch_cons hparts
  obtain ⟨k', parts, hclosing, hnil⟩ := of_symbolsMatch_mark hg (by decide) (by decide) ")" hparts
  obtain rfl := of_symbolsMatch_nil hnil
  obtain ⟨first, hfirst⟩ := column_sound hg hkinds hfirst
  have hothers : ∃ others : List ColumnDefinition, outlineFrom tokens l =
      (others.flatMap ColumnDefinition.tailLexemes).map outline ++ outlineFrom tokens l' := by
    obtain ⟨-, rfl⟩ | hrounds := of_zeroOrMore (by decide) (by decide) hothers
    · exact ⟨[], rfl⟩
    · exact tails_sound hg hkinds hrounds
  obtain ⟨others, hothers⟩ := hothers
  refine ⟨first, others, fun name => ?_⟩
  rw [hopening, hfirst, hothers, hclosing, Definition.listLexemes, List.map_cons, List.map_append,
    List.map_append, List.cons_append, List.append_assoc, List.append_assoc]
  rfl

/-- What is matched as a statement is a definition. -/
theorem statement_sound (h : g.NameMatches (kindsOf tokens) n "statement" i (some (d, j))) :
    ∃ d : Definition, outlineFrom tokens i = d.lexemes.map outline ++ outlineFrom tokens j := by
  obtain ⟨m, parts, hparts⟩ := of_one_match hkinds (alternativesOf_eq hg _) h
  obtain ⟨dtable, k, parts, htable, hnil⟩ :=
    of_symbolsMatch_required (by decide) (by decide) hparts
  obtain rfl := of_symbolsMatch_nil hnil
  obtain ⟨m, parts, hparts⟩ := of_one_match hkinds (alternativesOf_eq hg _) htable
  obtain ⟨l, parts, hcreate, hparts⟩ :=
    of_symbolsMatch_mark hg (by decide) (by decide) "CREATE" hparts
  obtain ⟨l', parts, hcollection, hparts⟩ :=
    of_symbolsMatch_mark hg (by decide) (by decide) "COLLECTION" hparts
  obtain ⟨dname, k', parts, hname, hparts⟩ :=
    of_symbolsMatch_required (by decide) (by decide) hparts
  obtain ⟨dlist, k, parts, hlist, hnil⟩ := of_symbolsMatch_required (by decide) (by decide) hparts
  obtain rfl := of_symbolsMatch_nil hnil
  obtain ⟨name, hname⟩ := of_mark_match hg (by decide) hname
  obtain ⟨first, others, hlist⟩ := list_sound hg hkinds hlist
  exact ⟨⟨name, first, others⟩, by rw [hcreate, hcollection, hname, hlist name]; rfl⟩

end Sound

/-! ### Statements -/

section Statements

variable {g : Grammar} (hg : grammar = .ok g) {tokens : Array Token}
  (hkinds : ∀ t ∈ tokens, g.alternativesOf t.kind = []) {options : ParseOptions}

include hg

theorem alternativesOf_statement : g.alternativesOf "statement" = [statementRule] :=
  alternativesOf_eq hg _

include hkinds

theorem exists_firstWhole {d : Definition} (h : outlineFrom tokens 0 = d.lexemes.map outline) :
    ∃ dv m, g.FirstWhole (kindsOf tokens) (7 : ℕ) (g.alternativesOf "statement") dv ∧
      dv.tree tokens = Node.toTree m ∧ d.IsTree m := by
  obtain ⟨dv, m, hmatch, htree, hm⟩ := statement_match hg hkinds h
  have hne := kind_ne_of_alternatives hkinds "statement"
    (by simp [alternativesOf_statement hg]) 0
  exact ⟨dv, m, .of_nameMatches hne hmatch, htree, hm⟩

/-- The tokens of a definition are parsed, and the tree is the definition's. -/
theorem exists_tree {d : Definition} (h : outlineFrom tokens 0 = d.lexemes.map outline)
    (hbudget : 7 ≤ options.budget) :
    ∃ n, (g.parseTokens "statement" tokens options).1 = .ok n ∧ d.IsTree n := by
  obtain ⟨dv, m, hwhole, htree, hm⟩ := exists_firstWhole hg hkinds h
  refine ⟨m, (Grammar.parseTokens_eq_ok_iff (by simp [alternativesOf_statement hg]) m).2
    ⟨dv, hwhole.mono (Nat.cast_le.2 hbudget), ?_⟩, hm⟩
  rw [htree]
  rfl

/-- Tokens that are parsed are those of a definition, and the tree is the definition's. -/
theorem exists_definition {n : Node}
    (hn : (g.parseTokens "statement" tokens options).1 = .ok n) :
    ∃ d : Definition, outlineFrom tokens 0 = d.lexemes.map outline ∧ d.IsTree n := by
  obtain ⟨dv, hdv, rfl⟩ :=
    (Grammar.parseTokens_eq_ok_iff (by simp [alternativesOf_statement hg]) n).1 hn
  have hrule := hdv
  rw [alternativesOf_statement hg, Grammar.firstWhole_singleton] at hrule
  obtain ⟨d, hd⟩ := statement_sound hg hkinds
    ((nameMatches_one_iff hkinds (alternativesOf_statement hg)).2 hrule)
  have hend : outlineFrom tokens (kindsOf tokens).size = [] := by
    rw [outlineFrom_eq_nil_iff, Array.size_map]
  rw [hend, List.append_nil] at hd
  obtain ⟨dv', m, hdv', htree, hm⟩ := exists_firstWhole hg hkinds hd
  obtain rfl := hdv.unique hdv'
  rw [htree]
  exact ⟨d, hd, hm⟩

end Statements

end OrderedGrammar.Schema
