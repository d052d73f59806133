import OrderedGrammar.Proofs.Filter.Reading
import OrderedGrammar.Proofs.Notation.Completeness

/-!
# Only conditions are matched

What the rules of filters match has the lexemes of a condition, and its tree shows the condition's
structure (`phrase_reads`).  The condition in parentheses is matched within fewer frames than what
is around it, so that the proof is by induction on the number of frames.

The tests all begin with an operand, and are told apart by what comes behind it.  It does not
matter here in which order they are tried, as each of them is read whatever the others would do.

## Main definitions

* `Test.IsTree`, `IsTree` : the trees of tests and of phrases.
-/

namespace OrderedGrammar.Filter

open Notation

/-! ### Trees -/

/-- Whether a token writes an operand. -/
def Operand.IsToken (o : Operand) (t : Token) : Prop := t.kind = o.kind.name ∧ t.text = o.text

/-- Whether a tree is a token that writes an operand. -/
def Operand.IsTree (o : Operand) (tree : Tree) : Prop := ∃ t, tree = .token t ∧ o.IsToken t

/-- Whether a tree is a token that writes a comparison. -/
def Comparison.IsTree (c : Comparison) (tree : Tree) : Prop :=
  ∃ t : Token, tree = .token t ∧ t.kind = c.kind

/-- What a relation asks for. -/
def Relation.form : Relation → Form
  | .among _ _ => .membership
  | .between _ _ => .between
  | .containing _ => .containment
  | .blank => .blank

/-- Whether fields keep what a relation asks for. -/
inductive Relation.HasFields : Relation → Fields Tree → Prop
  | among {first : Operand} {others : List Operand} {ts : List Token} :
      List.Forall₂ Operand.IsToken (first :: others) ts →
      HasFields (.among first others) [("RHV", .list (ts.map Tree.token))]
  | between {low high : Operand} {a b : Token} : low.IsToken a → high.IsToken b →
      HasFields (.between low high) [("OP1", .token a), ("OP2", .token b)]
  | containing {part : Operand} {a : Token} : part.IsToken a →
      HasFields (.containing part) [("RHV", .token a)]
  | blank (a : Token) : HasFields .blank [("ISBLANK", .token a)]

/-- The field of a negation, if there is one. -/
def negationFields (mark : Option Token) : Fields Tree :=
  mark.toList.map fun t => ("NOT", Tree.token t)

/-- The node of a relation. -/
def relationNode (f : Form) (a : Token) (mark : Option Token) (fields : Fields Tree) : Node :=
  ⟨f.name, ("LHV", .token a) :: (negationFields mark ++ fields)⟩

/-- Whether a node shows a test. -/
inductive Test.IsTree : Test → Node → Prop
  | comparison {left right : Operand} {operator : Comparison} {a t b : Token} :
      left.IsToken a → t.kind = operator.kind → right.IsToken b →
      IsTree (.comparison left operator right) ⟨"comparison_predicate",
        [("LHV", .token a), ("OPERATOR", .token t), ("RHV", .token b)]⟩
  | relation {left : Operand} {asked : Relation} {a : Token} {mark : Option Token}
      {fields : Fields Tree} : left.IsToken a → asked.HasFields fields →
      IsTree (.relation left mark.isSome asked) (relationNode asked.form a mark fields)

mutual

/-- Whether a node shows the structure of a phrase. -/
inductive IsTree : {c : Category} → Phrase c → Node → Prop
  | test {t : Test} {m : Node} : t.IsTree m → IsTree (.test t) m
  | group {body : Condition} {m : Node} : IsTree body m →
      IsTree (.group body) ⟨"boolean_primary", [("CONDITION", m.toTree)]⟩
  | row {l : Level} {first : Phrase l.operand} {rest : Rest l} {m : Node} {ms : List Node} :
      IsTree first m → AreTails rest ms →
      IsTree (.row first rest) ⟨l.name, [(l.connective, .list ((m :: ms).map Node.toTree))]⟩

/-- Whether nodes show the operands of a row behind the first one. -/
inductive AreTails : {l : Level} → Rest l → List Node → Prop
  | nil {l : Level} : AreTails (.nil : Rest l) []
  | cons {l : Level} {operand : Phrase l.operand} {rest : Rest l} {m : Node} {ms : List Node} :
      IsTree operand m → AreTails rest ms → AreTails (.cons operand rest) (m :: ms)

end

/-- Whether a tree is a node that shows a test. -/
def Test.HasTree (t : Test) (tree : Tree) : Prop := ∃ m : Node, tree = m.toTree ∧ t.IsTree m

/-- Whether a tree is a node that shows the structure of a phrase. -/
def Phrase.HasTree {c : Category} (p : Phrase c) (tree : Tree) : Prop :=
  ∃ m : Node, tree = m.toTree ∧ IsTree p m

/-- The operands of a row behind the first one. -/
def Rest.ofList {l : Level} : List (Phrase l.operand) → Rest l
  | [] => .nil
  | operand :: others => .cons operand (ofList others)

theorem Rest.lexemes_ofList {l : Level} (others : List (Phrase l.operand)) :
    (ofList others).lexemes = others.flatMap fun p => sign l.connective :: p.lexemes := by
  induction others with
  | nil => rfl
  | cons p others ih => simp [ofList, Rest.lexemes, ih]

theorem areTails_ofList {l : Level} {others : List (Phrase l.operand)} {ts : List Tree}
    (h : List.Forall₂ Phrase.HasTree others ts) :
    ∃ ms : List Node, ts = ms.map Node.toTree ∧ AreTails (Rest.ofList others) ms := by
  induction h with
  | nil => exact ⟨[], rfl, .nil⟩
  | cons hp _ ih =>
    obtain ⟨m, rfl, hm⟩ := hp
    obtain ⟨ms, rfl, hms⟩ := ih
    exact ⟨m :: ms, rfl, .cons hm hms⟩

/-! ### Trees of relations -/

/-- The labels of what is stored behind the column and the negation. -/
def behindLabels : List String := ["RHV", "OP1", "OP2", "ISBLANK"]

theorem not_enumerates_relationRule {f : Form} {label : String} (h : label ≠ "RHV") :
    ¬(relationRule f).enumerates label := by
  have henum : f.enumerated ⊆ ["RHV"] := by
    cases f <;> simp [Form.enumerated]
  intro hlabel
  have hmem : label ∈ f.enumerated := List.contains_iff_mem.1 hlabel
  exact h (List.mem_singleton.1 (henum hmem))

/-- A relation has a field for the column, one for the negation, and those that come behind. -/
theorem assemble_relation {f : Form} {entries : List (String × Tree)} {fields : Fields Tree}
    (hlabels : entries.map (·.1) ⊆ behindLabels)
    (h : (relationRule f).assemble entries = .node f.name fields) (a : Token)
    (mark : Option Token) :
    (relationRule f).assemble (("LHV", .token a) :: (negationFields mark ++ entries)) =
      .node f.name (("LHV", .token a) :: (negationFields mark ++ fields)) := by
  have hfresh {label : String} (hlabel : label ∉ behindLabels) : label ∉ entries.map (·.1) :=
    fun hmem => hlabel (hlabels hmem)
  cases mark with
  | none =>
    exact Rule.assemble_cons (by decide) (hfresh (by decide))
      (not_enumerates_relationRule (by decide)) (hfresh (by decide)) h
  | some t =>
    have hnot : (relationRule f).assemble (("NOT", .token t) :: entries) =
        .node f.name (("NOT", .token t) :: fields) :=
      Rule.assemble_cons (by decide) (hfresh (by decide))
        (not_enumerates_relationRule (by decide)) (hfresh (by decide)) h
    have hfresh' {label : String} (hlabel : label ∉ "NOT" :: behindLabels) :
        label ∉ (("NOT", Tree.token t) :: entries).map (·.1) := by
      rw [List.mem_cons, not_or] at hlabel
      rw [List.map_cons, List.mem_cons, not_or]
      exact ⟨hlabel.1, hfresh hlabel.2⟩
    exact Rule.assemble_cons (by decide) (hfresh' (by decide))
      (not_enumerates_relationRule (by decide)) (hfresh' (by decide)) hnot

theorem tokens_of_operands {os : List Operand} {ts : List Tree}
    (h : List.Forall₂ Operand.IsTree os ts) :
    ∃ tokens : List Token, ts = tokens.map Tree.token ∧ List.Forall₂ Operand.IsToken os tokens := by
  induction h with
  | nil => exact ⟨[], rfl, .nil⟩
  | cons ho _ ih =>
    obtain ⟨t, rfl, ht⟩ := ho
    obtain ⟨tokens, rfl, htokens⟩ := ih
    exact ⟨t :: tokens, rfl, .cons ht htokens⟩

section

variable {g : Grammar} (hg : grammar = .ok g) {tokens : Array Token} (hr : Readable g tokens)
  {n i j : ℕ} {d : Derivation} {entries : List (String × Tree)}

/-! ### Operands and comparisons -/

include hg

theorem alternativesOf_row (l : Level) : g.alternativesOf l.name = [rowRule l] := by
  rw [alternativesOf_eq hg]
  cases l <;> rfl

theorem alternativesOf_relation (f : Form) : g.alternativesOf f.name = [relationRule f] := by
  rw [alternativesOf_eq hg]
  cases f <;> rfl

/-- A kind of tokens whose texts do not count, as a mark that is not kept. -/
theorem Stores.of_mark {symbols : List Symbol} {kind : String}
    (hkind : kind ∈ tokenKinds ∧ kind ∉ operandKinds)
    (h : Stores g tokens n (skipped kind :: symbols) i entries j) :
    ∃ k, writtenFrom tokens i = sign kind :: writtenFrom tokens k ∧
      Stores g tokens n symbols k entries j :=
  h.of_skipped (alternativesOf_tokenKind hg hkind.1) hkind.2

include hr

theorem operand_reads : Reads g tokens n "comparison_operand" (fun o : Operand => [o.lexeme])
    Operand.IsTree := by
  have halts : g.alternativesOf "comparison_operand" =
      operandKinds.map (passRule "comparison_operand") := alternativesOf_eq hg _
  refine reads_pass hr halts (by decide) fun kind hkind m _ i j d h => ?_
  have htoken : kind ∈ tokenKinds := (by decide : operandKinds ⊆ tokenKinds) hkind
  obtain ⟨t, ht, rfl, htree, hwritten⟩ :=
    token_of_nameMatches (alternativesOf_tokenKind hg htoken) h
  obtain ⟨k, hk⟩ : ∃ k : OperandKind, t.kind = k.name := by
    simp only [operandKinds, List.mem_cons, List.not_mem_nil, or_false] at hkind
    obtain h | h | h := hkind
    · exact ⟨.string, h⟩
    · exact ⟨.number, h⟩
    · exact ⟨.identifier, h⟩
  have hlexeme : lexemeOf t = (k.name, t.text) := by rw [lexemeOf, if_pos hkind, hk]
  rw [hlexeme] at hwritten
  exact ⟨⟨k, t.text, fun hnumber => hr.number t ht (by rw [hk, hnumber]; rfl)⟩, hwritten,
    t, htree, hk, rfl⟩

theorem operator_reads : Reads g tokens n "comparison_operator"
    (fun c : Comparison => [sign c.kind]) Comparison.IsTree := by
  have halts : g.alternativesOf "comparison_operator" =
      comparisonKinds.map (passRule "comparison_operator") := alternativesOf_eq hg _
  refine reads_pass hr halts (by decide) fun kind hkind m _ i j d h => ?_
  have htoken : kind ∈ tokenKinds := (by decide : comparisonKinds ⊆ tokenKinds) hkind
  have hsign : ∀ kind ∈ comparisonKinds, kind ∉ operandKinds := by decide
  obtain ⟨t, ht, rfl, htree, hwritten⟩ :=
    token_of_nameMatches (alternativesOf_tokenKind hg htoken) h
  rw [lexemeOf_of_notMem (hsign _ hkind)] at hwritten
  obtain ⟨c, hc⟩ : ∃ c : Comparison, t.kind = c.kind := by
    simp only [comparisonKinds, List.mem_cons, List.not_mem_nil, or_false] at hkind
    obtain h | h | h | h | h | h := hkind
    · exact ⟨.equal, h⟩
    · exact ⟨.notEqual, h⟩
    · exact ⟨.order .less, h⟩
    · exact ⟨.order .lessOrEqual, h⟩
    · exact ⟨.order .greater, h⟩
    · exact ⟨.order .greaterOrEqual, h⟩
  exact ⟨c, by rw [hwritten, hc]; rfl, t, htree, hc⟩

/-! ### Tests -/

theorem comparison_reads : Reads g tokens n "comparison_predicate" Test.lexemes Test.HasTree := by
  have halts : g.alternativesOf "comparison_predicate" = [comparisonRule] := alternativesOf_eq hg _
  intro i j d h
  rw [Grammar.nameMatches_one halts (hr.kind_ne (by simp [halts]) i)] at h
  obtain ⟨m, -, entries, hentries, htree⟩ := stores_of_ruleMatches h
  obtain ⟨left, _, _, k, rfl, ⟨a, rfl, ha⟩, hleft, hrest⟩ :=
    hentries.of_kept (operand_reads hg hr)
  obtain ⟨operator, _, _, k', rfl, ⟨t, rfl, ht⟩, hoperator, hrest⟩ :=
    hrest.of_kept (operator_reads hg hr)
  obtain ⟨right, _, _, k'', rfl, ⟨b, rfl, hb⟩, hright, hrest⟩ :=
    hrest.of_kept (operand_reads hg hr)
  obtain ⟨rfl, rfl⟩ := hrest.of_nil
  refine ⟨.comparison left operator right, ?_, _, ?_, .comparison ha ht hb⟩
  · rw [hleft, hoperator, hright]
    rfl
  · rw [htree]
    rfl

/-- What entries behind the column and the negation are read as. -/
structure ReadsAs (f : Form) (entries : List (String × Tree)) (asked : Relation)
    (fields : Fields Tree) : Prop where
  form_eq : asked.form = f
  hasFields : asked.HasFields fields
  assemble_eq : (relationRule f).assemble entries = .node f.name fields
  labels : entries.map (·.1) ⊆ behindLabels

/-- Whether what a form's symbols store is read as a relation of that form. -/
def FormReads (g : Grammar) (tokens : Array Token) (n : ℕ) (f : Form) : Prop :=
  ∀ i entries j, Stores g tokens n f.symbols i entries j →
    ∃ asked fields, writtenFrom tokens i = asked.lexemes ++ writtenFrom tokens j ∧
      ReadsAs f entries asked fields

theorem membership_reads : FormReads g tokens n .membership := by
  intro i entries j h
  obtain ⟨k₁, hin, hrest⟩ := h.of_mark hg (by decide)
  obtain ⟨k₂, hopen, hrest⟩ := hrest.of_mark hg (by decide)
  obtain ⟨first, _, _, k₃, rfl, ⟨a, rfl, ha⟩, hfirst, hrest⟩ :=
    hrest.of_kept (operand_reads hg hr)
  have hfactor : Reads g tokens n "in_factor" (fun o : Operand => [sign "COMMA", o.lexeme])
      Operand.IsTree :=
    reads_behind hr (alternativesOf_eq hg _) (alternativesOf_tokenKind hg (by decide)) (by decide)
      fun m _ => operand_reads hg hr
  obtain ⟨others, _, _, k₄, rfl, hothers, hwritten, hrest⟩ := hrest.of_repeated hfactor
  obtain ⟨k₅, hclose, hrest⟩ := hrest.of_mark hg (by decide)
  obtain ⟨rfl, rfl⟩ := hrest.of_nil
  obtain ⟨ts, rfl, hts⟩ := tokens_of_operands hothers
  have hentries : ("RHV", Tree.token a) :: ((ts.map Tree.token).map ("RHV", ·) ++ []) =
      ((a :: ts).map Tree.token).map ("RHV", ·) := by simp
  refine ⟨.among first others, _, ?_, rfl, .among (.cons ha hts), ?_, ?_⟩
  · rw [hin, hopen, hfirst, hwritten, hclose]
    simp [Relation.lexemes]
  · rw [hentries, Rule.assemble_map (by decide) (by decide) (by simp),
      Tree.flatMap_spliced_map_token]
    rfl
  · rw [hentries]
    intro label hlabel
    simp only [List.mem_map] at hlabel
    obtain ⟨_, ⟨_, -, rfl⟩, rfl⟩ := hlabel
    exact List.mem_cons_self

theorem between_reads : FormReads g tokens n .between := by
  intro i entries j h
  obtain ⟨k₁, hbetween, hrest⟩ := h.of_mark hg (by decide)
  obtain ⟨low, _, _, k₂, rfl, ⟨a, rfl, ha⟩, hlow, hrest⟩ := hrest.of_kept (operand_reads hg hr)
  obtain ⟨k₃, hand, hrest⟩ := hrest.of_mark hg (by decide)
  obtain ⟨high, _, _, k₄, rfl, ⟨b, rfl, hb⟩, hhigh, hrest⟩ := hrest.of_kept (operand_reads hg hr)
  obtain ⟨rfl, rfl⟩ := hrest.of_nil
  refine ⟨.between low high, _, ?_, rfl, .between ha hb, rfl, by simp [behindLabels]⟩
  rw [hbetween, hlow, hand, hhigh]
  rfl

theorem containment_reads : FormReads g tokens n .containment := by
  intro i entries j h
  obtain ⟨k₁, hcontains, hrest⟩ := h.of_mark hg (by decide)
  obtain ⟨part, _, _, k₂, rfl, ⟨a, rfl, ha⟩, hpart, hrest⟩ := hrest.of_kept (operand_reads hg hr)
  obtain ⟨rfl, rfl⟩ := hrest.of_nil
  refine ⟨.containing part, _, ?_, rfl, .containing ha, rfl, by simp [behindLabels]⟩
  rw [hcontains, hpart]
  rfl

omit hr in
theorem blank_reads : FormReads g tokens n .blank := by
  intro i entries j h
  have hmark : Reads g tokens n "ISBLANK" (fun _ : Unit => [sign "ISBLANK"])
      (fun _ tree => ∃ t, tree = .token t) := by
    intro i j d h
    obtain ⟨t, -, hkind, htree, hwritten⟩ :=
      token_of_nameMatches (alternativesOf_tokenKind hg (by decide)) h
    rw [lexemeOf_of_notMem (by rw [hkind]; decide), hkind] at hwritten
    exact ⟨(), hwritten, t, htree⟩
  obtain ⟨-, _, _, k, rfl, ⟨a, rfl⟩, hwritten, hrest⟩ := h.of_kept hmark
  obtain ⟨rfl, rfl⟩ := hrest.of_nil
  exact ⟨.blank, _, hwritten, rfl, .blank a, rfl, by simp [behindLabels]⟩

theorem form_reads (f : Form) : FormReads g tokens n f := by
  cases f with
  | membership => exact membership_reads hg hr
  | between => exact between_reads hg hr
  | containment => exact containment_reads hg hr
  | blank => exact blank_reads hg

theorem relation_reads (f : Form) : Reads g tokens n f.name Test.lexemes Test.HasTree := by
  intro i j d h
  have halts := alternativesOf_relation hg f
  rw [Grammar.nameMatches_one halts (hr.kind_ne (by simp [halts]) i)] at h
  obtain ⟨m, -, entries, hentries, htree⟩ := stores_of_ruleMatches h
  obtain ⟨left, _, _, k, rfl, ⟨a, rfl, ha⟩, hleft, hrest⟩ :=
    hentries.of_kept (operand_reads hg hr)
  obtain ⟨mark, entries, k', rfl, hmark, hrest⟩ :=
    hrest.of_optional (alternativesOf_tokenKind hg (by decide)) (by decide)
  obtain ⟨asked, fields, hasked, rfl, hfields, hassemble, hlabels⟩ :=
    form_reads hg hr f _ _ _ hrest
  refine ⟨.relation left mark.isSome asked, ?_, _, ?_, .relation ha hfields⟩
  · rw [hleft, hmark, hasked]
    cases mark <;> simp [Test.lexemes, negation]
  · rw [htree]
    exact assemble_relation hlabels hassemble a mark

theorem test_reads : Reads g tokens n "predicate" Test.lexemes Test.HasTree := by
  have halts : g.alternativesOf "predicate" = testNames.map (passRule "predicate") :=
    alternativesOf_eq hg _
  refine reads_pass hr halts (by decide) fun name hname m _ => ?_
  simp only [testNames, List.mem_cons, List.not_mem_nil, or_false] at hname
  obtain rfl | rfl | rfl | rfl | rfl := hname
  · exact comparison_reads hg hr
  · exact relation_reads hg hr .membership
  · exact relation_reads hg hr .between
  · exact relation_reads hg hr .containment
  · exact relation_reads hg hr .blank

/-! ### Conditions -/

/-- The name of a category. -/
def Category.name : Category → String
  | .row l => l.name
  | .primary => "boolean_primary"

/-- Whether a category is read as phrases within a number of frames. -/
def PhraseReads (g : Grammar) (tokens : Array Token) (n : ℕ) (c : Category) : Prop :=
  Reads g tokens n c.name (Phrase.lexemes (c := c)) Phrase.HasTree

theorem primary_reads (ih : ∀ m < n, PhraseReads g tokens m (.row .disjunction)) :
    PhraseReads g tokens n .primary := by
  have halts : g.alternativesOf "boolean_primary" =
      [passRule "boolean_primary" "predicate", groupRule] := alternativesOf_eq hg _
  intro i j d h
  obtain ⟨r, hmem, h⟩ := Grammar.exists_rule_of_nameMatches (hr.kind_ne (by
    rw [Category.name, halts]
    simp) i) h
  rw [Category.name, halts, List.mem_cons, List.mem_singleton] at hmem
  obtain rfl | rfl := hmem
  · obtain ⟨t, hwritten, m, htree, hm⟩ := exists_of_passRule (fun m _ => test_reads hg hr) h
    exact ⟨.test t, hwritten, m, htree, .test hm⟩
  · obtain ⟨m, hm, entries, hentries, htree⟩ := stores_of_ruleMatches h
    obtain ⟨k, hopen, hrest⟩ := hentries.of_mark hg (by decide)
    obtain ⟨body, _, _, k', rfl, ⟨node, rfl, hnode⟩, hbody, hrest⟩ := hrest.of_kept (ih m hm)
    obtain ⟨k'', hclose, hrest⟩ := hrest.of_mark hg (by decide)
    obtain ⟨rfl, rfl⟩ := hrest.of_nil
    refine ⟨.group body, ?_, _, ?_, .group hnode⟩
    · rw [hopen, hbody, hclose]
      simp [Phrase.lexemes]
    · rw [htree]
      rfl

/-- The alternative for a row. -/
theorem exists_of_rowRule {l : Level} (ih : ∀ m < n, PhraseReads g tokens m l.operand)
    (h : g.RuleMatches (kindsOf tokens) n (rowRule l) i (some (d, j))) :
    ∃ p : Phrase (.row l), writtenFrom tokens i = p.lexemes ++ writtenFrom tokens j ∧
      p.HasTree (d.tree tokens) := by
  have hoperand : ∀ m < n, Reads g tokens m l.operandName (Phrase.lexemes (c := l.operand))
      Phrase.HasTree := by
    intro m hm
    have hname : l.operand.name = l.operandName := by cases l <;> rfl
    exact hname ▸ ih m hm
  have htail : ∀ m < n, Reads g tokens m l.tail
      (fun p : Phrase l.operand => sign l.connective :: p.lexemes) Phrase.HasTree := by
    intro m hm
    have halts : g.alternativesOf l.tail = [behindRule l.tail l.connective l.operandName] := by
      rw [alternativesOf_eq hg]
      cases l <;> rfl
    have htoken : l.connective ∈ tokenKinds := by cases l <;> decide
    have hsign : l.connective ∉ operandKinds := by cases l <;> decide
    exact reads_behind hr halts (alternativesOf_tokenKind hg htoken) hsign
      fun m' hm' => hoperand m' (hm'.trans hm)
  obtain ⟨m, hm, entries, hentries, htree⟩ := stores_of_ruleMatches h
  obtain ⟨first, _, _, k, rfl, ⟨node, rfl, hnode⟩, hfirst, hrest⟩ :=
    hentries.of_kept (hoperand m hm)
  obtain ⟨others, _, _, k', rfl, hothers, hwritten, hrest⟩ := hrest.of_repeated (htail m hm)
  obtain ⟨rfl, rfl⟩ := hrest.of_nil
  obtain ⟨nodes, rfl, hnodes⟩ := areTails_ofList hothers
  have hentries : (l.connective, node.toTree) ::
      ((nodes.map Node.toTree).map (l.connective, ·) ++ []) =
      ((node :: nodes).map Node.toTree).map (l.connective, ·) := by simp
  refine ⟨.row first (.ofList others), ?_, _, ?_, .row hnode hnodes⟩
  · rw [hfirst, hwritten, Phrase.lexemes, Rest.lexemes_ofList, List.append_assoc]
  · rw [htree, hentries, Rule.assemble_map (by cases l <;> decide) (by cases l <;> decide)
      (by simp), flatMap_spliced rfl]
    rfl

/-- **What a category matches within a number of frames is read as a phrase.** -/
theorem phrase_reads (n : ℕ) : ∀ c, PhraseReads g tokens n c := by
  induction n using Nat.strong_induction_on with
  | _ n ih =>
    intro c
    cases c with
    | primary => exact primary_reads hg hr fun m hm => ih m hm _
    | row l =>
      intro i j d h
      have halts := alternativesOf_row hg l
      rw [Category.name, Grammar.nameMatches_one halts (hr.kind_ne (by simp [halts]) i)] at h
      exact exists_of_rowRule hg hr (fun m hm => ih m hm _) h

end

end OrderedGrammar.Filter
