import OrderedGrammar.Proofs.Arithmetic.Completeness
import OrderedGrammar.Proofs.Notation.Soundness

/-!
# Only expressions are matched

What is matched within a number of frames is a phrase that nests no deeper (`phrase_sound`).  The
second alternative that one of the grammars has for rows is never taken: where the first one fails,
so does the operand alone (`not_operand_of_rowRule`).
-/

namespace OrderedGrammar.Arithmetic

open Notation

/-- Operands with operators in front. -/
def Rest.ofList {l : Level} : List (Operator l × Phrase l.operand) → Rest l
  | [] => .nil
  | (op, operand) :: others => .cons op operand (ofList others)

theorem Rest.lexemes_ofList {l : Level} (others : List (Operator l × Phrase l.operand)) :
    (ofList others).lexemes = others.flatMap fun x => x.1.lexeme :: x.2.lexemes := by
  induction others with
  | nil => rfl
  | cons x others ih => simp [ofList, Rest.lexemes, ih]

theorem Rest.frames_ofList_le {l : Level} {others : List (Operator l × Phrase l.operand)} {n : ℕ}
    (h : ∀ x ∈ others, x.2.frames + 1 ≤ n) : (ofList others).frames ≤ n := by
  induction others with
  | nil => exact Nat.zero_le n
  | cons x others ih =>
    obtain ⟨hx, hothers⟩ := List.forall_mem_cons.1 h
    exact max_le hx (ih hothers)

section

variable {d : Dialect} {g : Grammar} (hg : d.grammar = .ok g) {tokens : Array Token}
  (hlex : HasLexemes tokens) {i j n : ℕ} {dv : Derivation}

/-- Whether what a category matches within `n` frames are phrases. -/
def PhraseSound (g : Grammar) (tokens : Array Token) (n : ℕ) (c : Category) : Prop :=
  ∀ i j dv, g.NameMatches (kindsOf tokens) n c.name i (some (dv, j)) →
    ∃ p : Phrase c, lexemesFrom tokens i = p.lexemes ++ lexemesFrom tokens j ∧ p.frames ≤ n

include hg hlex

theorem sign_sound {x : Lexeme} (hx : x ∈ signs)
    (h : g.NameMatches (kindsOf tokens) n x.1 i (some (dv, j))) :
    lexemesFrom tokens i = x :: lexemesFrom tokens j := by
  have hkind : x.1 ∈ tokenKinds := (IsLexeme.sign hx).kind_mem
  obtain ⟨text, htext⟩ := exists_text_of_nameMatches (Dialect.alternativesOf_tokenKind hg hkind) h
  have hlexeme : IsLexeme (x.1, text) := of_mem_lexemesFrom hlex (htext ▸ List.mem_cons_self)
  rw [htext, hlexeme.eq_of_sign hx rfl]

theorem primary_sound (ih : ∀ m < n, PhraseSound g tokens m (.row .sum)) :
    PhraseSound g tokens n .primary := by
  intro i j dv h
  obtain ⟨r, hr, h⟩ := Grammar.exists_rule_of_nameMatches (hlex.kind_ne (by decide) i) h
  obtain ⟨m, parts, rfl, hparts⟩ := of_ruleMatches h
  rw [Category.name, Dialect.alternativesOf_primary hg] at hr
  simp only [List.mem_cons, List.not_mem_nil, or_false] at hr
  obtain rfl | rfl := hr
  · obtain ⟨_, k, _, hnumber, hnil⟩ := of_symbolsMatch_required (by decide) (by decide) hparts
    obtain rfl := of_symbolsMatch_nil hnil
    obtain ⟨text, htext⟩ :=
      exists_text_of_nameMatches (Dialect.alternativesOf_tokenKind hg (by decide)) hnumber
    obtain ⟨numeral, rfl⟩ :=
      (of_mem_lexemesFrom hlex (htext ▸ List.mem_cons_self)).exists_numeral
    exact ⟨.number numeral, htext, Nat.succ_le_succ (Nat.zero_le m)⟩
  · obtain ⟨_, k, _, hopen, hrest⟩ := of_symbolsMatch_required (by decide) (by decide) hparts
    obtain ⟨_, k', _, hbody, hrest⟩ := of_symbolsMatch_required (by decide) (by decide) hrest
    obtain ⟨_, k'', _, hclose, hnil⟩ := of_symbolsMatch_required (by decide) (by decide) hrest
    obtain rfl := of_symbolsMatch_nil hnil
    obtain ⟨body, hlexemes, hframes⟩ := ih m (Nat.lt_succ_self m) _ _ _ hbody
    refine ⟨.group body, ?_, Nat.succ_le_succ hframes⟩
    rw [sign_sound hg hlex (x := ("LPAREN", "(")) (by decide) hopen, hlexemes,
      sign_sound hg hlex (x := ("RPAREN", ")")) (by decide) hclose, Phrase.lexemes]
    simp

theorem factor_sound (ih : ∀ m < n, PhraseSound g tokens m .primary) :
    PhraseSound g tokens n .factor := by
  intro i j dv h
  obtain ⟨r, hr, h⟩ := Grammar.exists_rule_of_nameMatches (hlex.kind_ne (by decide) i) h
  obtain ⟨m, parts, rfl, hparts⟩ := of_ruleMatches h
  rw [Category.name, Dialect.alternativesOf_factor hg] at hr
  obtain ⟨sign, rfl⟩ : ∃ sign, r = factorRule sign := by
    simp only [List.mem_cons, List.not_mem_nil, or_false] at hr
    obtain rfl | rfl | rfl := hr <;> exact ⟨_, rfl⟩
  have hm := Nat.lt_succ_self m
  cases sign with
  | none =>
    obtain ⟨_, k, _, hoperand, hnil⟩ := of_symbolsMatch_required (by decide) (by decide) hparts
    obtain rfl := of_symbolsMatch_nil hnil
    obtain ⟨operand, hlexemes, hframes⟩ := ih m hm _ _ _ hoperand
    exact ⟨.factor none operand, hlexemes, Nat.succ_le_succ hframes⟩
  | some sign =>
    obtain ⟨_, k, _, hsign, hrest⟩ := of_symbolsMatch_required (by simp [Symbol.ofName])
      (by simp [Symbol.ofName]) hparts
    obtain ⟨_, k', _, hoperand, hnil⟩ := of_symbolsMatch_required (by decide) (by decide) hrest
    obtain rfl := of_symbolsMatch_nil hnil
    obtain ⟨operand, hlexemes, hframes⟩ := ih m hm _ _ _ hoperand
    refine ⟨.factor (some sign) operand, ?_, Nat.succ_le_succ hframes⟩
    rw [sign_sound hg hlex sign.lexeme_mem hsign, hlexemes]
    rfl

theorem tail_sound {l : Level} (ih : ∀ m < n, PhraseSound g tokens m l.operand)
    (h : g.NameMatches (kindsOf tokens) n (d.tail l) i (some (dv, j))) :
    ∃ x : Operator l × Phrase l.operand,
      lexemesFrom tokens i = x.1.lexeme :: x.2.lexemes ++ lexemesFrom tokens j ∧
        x.2.frames + 1 ≤ n := by
  obtain ⟨r, hr, h⟩ := Grammar.exists_rule_of_nameMatches (hlex.kind_ne (d.tail_notMem l) i) h
  obtain ⟨m, parts, rfl, hparts⟩ := of_ruleMatches h
  rw [Dialect.alternativesOf_tail hg] at hr
  obtain ⟨op, rfl⟩ : ∃ op, r = d.tailRule op := by
    simp only [List.mem_cons, List.not_mem_nil, or_false] at hr
    obtain rfl | rfl := hr <;> exact ⟨_, rfl⟩
  obtain ⟨_, k, _, hop, hrest⟩ := of_symbolsMatch_required (by simp) (by simp) hparts
  obtain ⟨_, k', _, hoperand, hnil⟩ := of_symbolsMatch_required (by simp [Symbol.ofName])
    (by simp [Symbol.ofName]) hrest
  obtain rfl := of_symbolsMatch_nil hnil
  obtain ⟨operand, hlexemes, hframes⟩ := ih m (Nat.lt_succ_self m) _ _ _
    ((name_operand l).symm ▸ hoperand)
  refine ⟨(op, operand), ?_, Nat.succ_le_succ hframes⟩
  rw [sign_sound hg hlex op.lexeme_mem hop, hlexemes]
  rfl

/-- The alternative of a row for its operands. -/
theorem rowRule_sound {l : Level} (ih : ∀ m < n, PhraseSound g tokens m l.operand)
    (h : g.RuleMatches (kindsOf tokens) n (d.rowRule l) i (some (dv, j))) :
    ∃ p : Phrase (.row l), lexemesFrom tokens i = p.lexemes ++ lexemesFrom tokens j ∧
      p.frames ≤ n := by
  obtain ⟨m, parts, rfl, hparts⟩ := of_ruleMatches h
  obtain ⟨_, k, _, hinner, hnil⟩ := of_symbolsMatch_required (by simp) (by simp) hparts
  obtain rfl := of_symbolsMatch_nil hnil
  rw [Grammar.nameMatches_one (Dialect.alternativesOf_inner hg l)
    (hlex.kind_ne (d.inner_notMem l) i)] at hinner
  obtain ⟨m, parts', rfl, hoperands⟩ := of_ruleMatches hinner
  obtain ⟨_, k', _, hfirst, hrest⟩ := of_symbolsMatch_required (by simp) (by simp) hoperands
  obtain ⟨_, k'', _, htail, hnil⟩ := of_symbolsMatch_cons hrest
  obtain rfl := of_symbolsMatch_nil hnil
  obtain ⟨first, hfirst, hframes⟩ := ih m (by omega) _ _ _ ((name_operand l).symm ▸ hfirst)
  have htails {i j dv} (h : g.NameMatches (kindsOf tokens) m (d.tail l) i (some (dv, j))) :=
    tail_sound hg hlex (fun m' hm' => ih m' (by omega)) h
  obtain ⟨-, rfl⟩ | htail := of_zeroOrMore rfl rfl htail
  · exact ⟨.row first .nil, by simpa [Phrase.lexemes, Rest.lexemes] using hfirst,
      by simpa [Phrase.frames, Rest.frames] using hframes⟩
  · obtain ⟨others, hothers, hall, -⟩ := rounds_sound (fun _ _ _ h => htails h) htail
    refine ⟨.row first (.ofList others), ?_,
      Nat.add_le_add_right (max_le hframes (Rest.frames_ofList_le hall)) 2⟩
    rw [hfirst, hothers, Phrase.lexemes, Rest.lexemes_ofList, List.append_assoc]

/-- Where a row fails, so does an operand alone: what is behind the first operand may be
missing. -/
theorem not_operand_of_rowRule {l : Level} {limit : ℕ∞} {x : Derivation × ℕ}
    (h : g.RuleMatches (kindsOf tokens) n (d.rowRule l) i none) :
    ¬ g.NameMatches (kindsOf tokens) limit l.operandName i (some x) := by
  intro hoperand
  -- as the tail is optional, only the first operand can have failed
  have htail {j : ℕ} :
      ¬ g.SymbolsMatch (kindsOf tokens) ⊤ [⟨d.tail l, d.kept l, true, true, false⟩] j none := by
    intro h
    cases h with
    | failHead h => cases h with
      | fail ho _ => exact ho rfl
    | failTail _ t => cases t
  obtain hinner | ⟨_, _, _, ⟨⟩⟩ := Grammar.of_ruleMatches_none h rfl (by simp) (by simp)
  rw [Grammar.nameMatches_one (Dialect.alternativesOf_inner hg l)
    (hlex.kind_ne (d.inner_notMem l) i)] at hinner
  obtain hfirst | ⟨_, _, _, hrest⟩ := Grammar.of_ruleMatches_none hinner rfl (by simp) (by simp)
  · cases hoperand.unique hfirst
  · exact htail hrest

theorem row_sound {l : Level} (ih : ∀ m < n, PhraseSound g tokens m l.operand) :
    PhraseSound g tokens n (.row l) := by
  intro i j dv h
  rw [Category.name] at h
  cases d with
  | named =>
    rw [Grammar.nameMatches_two (Dialect.alternativesOf_row hg l)
      (hlex.kind_ne (Category.name_notMem (.row l)) i)] at h
    obtain ⟨h, -⟩ | ⟨hrow, h⟩ := h
    · exact rowRule_sound hg hlex ih h
    · obtain ⟨m, parts, rfl, hparts⟩ := of_ruleMatches h
      obtain ⟨_, k, _, hoperand, -⟩ := of_symbolsMatch_required (by simp [Symbol.ofName])
        (by simp [Symbol.ofName]) hparts
      exact absurd hoperand (not_operand_of_rowRule hg hlex hrow)
  | grouped =>
    rw [Grammar.nameMatches_one (Dialect.alternativesOf_row hg l)
      (hlex.kind_ne (Category.name_notMem (.row l)) i)] at h
    exact rowRule_sound hg hlex ih h

/-- **What a category matches within a number of frames is a phrase** that nests no deeper. -/
theorem phrase_sound (n : ℕ) : ∀ c, PhraseSound g tokens n c := by
  induction n using Nat.strong_induction_on with
  | _ n ih =>
    intro c
    match c with
    | .row l => exact row_sound hg hlex fun m hm => ih m hm _
    | .factor => exact factor_sound hg hlex fun m hm => ih m hm _
    | .primary => exact primary_sound hg hlex fun m hm => ih m hm _

end

end OrderedGrammar.Arithmetic
