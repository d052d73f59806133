import OrderedGrammar.Proofs.Arithmetic.Soundness
import OrderedGrammar.Proofs.Matching.Acceptance

/-!
# Which texts are expressions

A text is parsed iff it writes an expression that nests no deeper than is allowed, and then the
tree is that of the expression (`exists_tree`, `exists_expression`).  As lexemes are those of one
expression at most (`Phrase.eq_of_lexemes`), an expression that nests deeper is refused for its
nesting (`tooDeep_of_lexemes`).
-/

namespace OrderedGrammar.Arithmetic

open Notation

/-! ### Lexemes determine a phrase -/

theorem Numeral.eq_of_ofList {n m : Numeral} (h : String.ofList n.digits = String.ofList m.digits) :
    n = m := by
  obtain ⟨digits, _, _⟩ := n
  obtain ⟨digits', _, _⟩ := m
  obtain rfl : digits = digits' := String.ofList_injective h
  rfl

theorem Operator.eq_of_kind {l : Level} {op op' : Operator l} (h : op.lexeme.1 = op'.lexeme.1) :
    op = op' := by
  cases op <;> cases op' <;> first | rfl | exact absurd h (by decide)

/-- No primary starts with a sign. -/
theorem Phrase.headKind_primary (p : Phrase .primary) (more : List Lexeme)
    (sign : Operator .sum) : headKind (p.lexemes ++ more) ≠ some sign.lexeme.1 := by
  cases p <;> cases sign <;> simp [Phrase.lexemes, Operator.lexeme]

theorem Operator.kind_mem_going {l : Level} (op : Operator l) :
    op.lexeme.1 ∈ (Category.row l).going := by
  cases op <;> decide

mutual

/-- Phrases with the same lexemes are the same, as each one is as long as it can be. -/
theorem Phrase.eq_of_lexemes : ∀ {c : Category} (p q : Phrase c) {more more' : List Lexeme},
    p.lexemes ++ more = q.lexemes ++ more' → Stops c.going more → Stops c.going more' →
      p = q ∧ more = more'
  | _, .number n, .number m, _, _, h, _, _ => by
    obtain ⟨htext, hmore⟩ := List.cons.inj h
    rw [Numeral.eq_of_ofList (congrArg Prod.snd htext)]
    exact ⟨rfl, hmore⟩
  | _, .number _, .group _, _, _, h, _, _ => absurd (congrArg headKind h) (by simp [Phrase.lexemes])
  | _, .group _, .number _, _, _, h, _, _ => absurd (congrArg headKind h) (by simp [Phrase.lexemes])
  | _, .group body, .group body', _, _, h, _, _ => by
    rw [Phrase.lexemes, Phrase.lexemes, List.cons_append, List.cons_append, List.append_assoc,
      List.append_assoc] at h
    obtain ⟨-, h'⟩ := List.cons.inj h
    obtain ⟨rfl, hmore⟩ := Phrase.eq_of_lexemes body body' h' (stops_cons _ (by decide))
      (stops_cons _ (by decide))
    exact ⟨rfl, (List.cons.inj hmore).2⟩
  | _, .factor none p, .factor none q, _, _, h, hmore, hmore' => by
    obtain ⟨rfl, hmore⟩ := Phrase.eq_of_lexemes p q h hmore hmore'
    exact ⟨rfl, hmore⟩
  | _, .factor none p, .factor (some sign) q, _, _, h, _, _ =>
    absurd (congrArg headKind h) (p.headKind_primary _ sign)
  | _, .factor (some sign) p, .factor none q, _, _, h, _, _ =>
    absurd (congrArg headKind h.symm) (q.headKind_primary _ sign)
  | _, .factor (some sign) p, .factor (some sign') q, _, _, h, hmore, hmore' => by
    obtain ⟨hsign, h'⟩ := List.cons.inj h
    obtain rfl := Operator.eq_of_kind (congrArg Prod.fst hsign)
    obtain ⟨rfl, hmore⟩ := Phrase.eq_of_lexemes p q h' hmore hmore'
    exact ⟨rfl, hmore⟩
  | .row l, .row first rest, .row first' rest', _, _, h, hmore, hmore' => by
    rw [Phrase.lexemes, Phrase.lexemes, List.append_assoc, List.append_assoc] at h
    obtain ⟨rfl, h'⟩ := Phrase.eq_of_lexemes first first' h (rest.stops hmore) (rest'.stops hmore')
    obtain ⟨rfl, hmore⟩ := Rest.eq_of_lexemes rest rest' h' hmore hmore'
    exact ⟨rfl, hmore⟩

theorem Rest.eq_of_lexemes : ∀ {l : Level} (rest rest' : Rest l) {more more' : List Lexeme},
    rest.lexemes ++ more = rest'.lexemes ++ more' → Stops (Category.row l).going more →
      Stops (Category.row l).going more' → rest = rest' ∧ more = more'
  | _, .nil, .nil, _, _, h, _, _ => ⟨rfl, h⟩
  | _, .nil, .cons op _ _, _, _, h, hmore, _ =>
    absurd (congrArg headKind h) (hmore _ op.kind_mem_going)
  | _, .cons op _ _, .nil, _, _, h, _, hmore' =>
    absurd (congrArg headKind h.symm) (hmore' _ op.kind_mem_going)
  | l, .cons op operand rest, .cons op' operand' rest', _, _, h, hmore, hmore' => by
    rw [Rest.lexemes, Rest.lexemes, List.cons_append, List.cons_append, List.append_assoc,
      List.append_assoc] at h
    obtain ⟨hop, h'⟩ := List.cons.inj h
    obtain rfl := Operator.eq_of_kind (congrArg Prod.fst hop)
    obtain ⟨rfl, h''⟩ := Phrase.eq_of_lexemes operand operand' h' (rest.stops hmore)
      (rest'.stops hmore')
    obtain ⟨rfl, hmore⟩ := Rest.eq_of_lexemes rest rest' h'' hmore hmore'
    exact ⟨rfl, hmore⟩

end

/-- Lexemes are those of one expression at most. -/
theorem Expression.eq_of_lexemes {e e' : Expression} (h : e.lexemes = e'.lexemes) : e = e' := by
  have hnil : e.lexemes ++ [] = e'.lexemes ++ [] := by rw [h]
  exact (Phrase.eq_of_lexemes e e' hnil (stops_nil _) (stops_nil _)).1

/-! ### Tokens -/

section Tokens

variable {d : Dialect} {g : Grammar} (hg : d.grammar = .ok g) {tokens : Array Token}
  (hlex : HasLexemes tokens) {options : ParseOptions}

include hg

theorem alternativesOf_expression_ne_nil : g.alternativesOf "expression" ≠ [] := by
  obtain ⟨rules, halts⟩ := d.alternativesOf_first hg .sum
  exact fun h => absurd (halts.symm.trans h) (List.cons_ne_nil _ _)

include hlex

/-- The tokens of an expression are matched as a whole. -/
theorem exists_match {e : Expression} (h : lexemesFrom tokens 0 = e.lexemes) :
    ∃ dv m, g.NameMatches (kindsOf tokens) e.frames "expression" 0
        (some (dv, (kindsOf tokens).size)) ∧
      dv.tree tokens = m.toTree ∧ IsTree d e m := by
  have hnil : lexemesFrom tokens 0 = e.lexemes ++ [] := by rw [h, List.append_nil]
  obtain ⟨dv, j, m, hmatch, hj, htree, hm⟩ := Phrase.complete hg hlex e hnil (stops_nil _)
  obtain rfl : j = (kindsOf tokens).size := by
    obtain ⟨-, hle, -⟩ := hmatch.spans _ rfl
    have hge := lexemesFrom_eq_nil_iff.1 hj
    simp only [Array.size_map] at hle ⊢
    omega
  exact ⟨dv, m, hmatch, htree, hm⟩

theorem exists_firstWhole {e : Expression} (h : lexemesFrom tokens 0 = e.lexemes) :
    ∃ dv m, g.FirstWhole (kindsOf tokens) e.frames (g.alternativesOf "expression") dv ∧
      dv.tree tokens = m.toTree ∧ IsTree d e m := by
  obtain ⟨dv, m, hmatch, htree, hm⟩ := exists_match hg hlex h
  exact ⟨dv, m, .of_nameMatches (hlex.kind_ne (Category.name_notMem (.row .sum)) 0) hmatch, htree,
    hm⟩

/-- What is matched as a whole is an expression. -/
theorem expression_of_firstWhole {n : ℕ} {dv : Derivation}
    (h : g.FirstWhole (kindsOf tokens) n (g.alternativesOf "expression") dv) :
    ∃ e : Expression, lexemesFrom tokens 0 = e.lexemes ∧ e.frames ≤ n := by
  have hend : lexemesFrom tokens (kindsOf tokens).size = [] := by
    rw [lexemesFrom_eq_nil_iff, Array.size_map]
  have hsound := phrase_sound hg hlex
  have hrow {dv : Derivation}
      (hrule : g.RuleMatches (kindsOf tokens) n (d.rowRule .sum) 0
        (some (dv, (kindsOf tokens).size))) :
      ∃ e : Expression, lexemesFrom tokens 0 = e.lexemes ∧ e.frames ≤ n := by
    obtain ⟨e, he, hframes⟩ := rowRule_sound hg hlex (fun m _ => hsound m _) hrule
    exact ⟨e, by rw [he, hend, List.append_nil], hframes⟩
  have halts : g.alternativesOf "expression" = d.rowRules .sum := Dialect.alternativesOf_row hg .sum
  rw [halts] at h
  cases d with
  | grouped => exact hrow (Grammar.firstWhole_singleton.1 h)
  | named =>
    obtain h | ⟨hfirst, hne, hsingle⟩ := h
    · exact hrow h
    · replace hsingle := Grammar.firstWhole_singleton.1 hsingle
      -- a single operand is a row already, which the first alternative would have matched
      obtain ⟨m, parts, rfl, hparts⟩ := of_ruleMatches hsingle
      obtain ⟨_, k, _, hoperand, hnil⟩ := of_symbolsMatch_required (by decide) (by decide) hparts
      obtain rfl := of_symbolsMatch_nil hnil
      obtain ⟨p, hp, -⟩ := hsound m (.row .product) _ _ _ hoperand
      rw [hend, List.append_nil] at hp
      have hexpression : lexemesFrom tokens 0 = (Phrase.row (l := .sum) p .nil).lexemes :=
        hp.trans (List.append_nil _).symm
      obtain ⟨dv', _, hmatch, -, -⟩ := exists_match hg hlex hexpression
      rw [Grammar.nameMatches_two halts
        (hlex.kind_ne (Category.name_notMem (.row .sum)) 0)] at hmatch
      obtain ⟨hmatch, -⟩ | ⟨hfails, -⟩ := hmatch
      · exact absurd (hfirst.unique hmatch) (hne dv')
      · exact absurd hoperand (not_operand_of_rowRule hg hlex hfails)

/-- A parse of the tokens of an expression gives its tree, if it may nest deep enough. -/
theorem exists_tree {e : Expression} (h : lexemesFrom tokens 0 = e.lexemes)
    (hframes : e.frames ≤ options.budget) :
    ∃ n, (g.parseTokens "expression" tokens options).1 = .ok n ∧ IsTree d e n := by
  obtain ⟨dv, m, hwhole, htree, hm⟩ := exists_firstWhole hg hlex h
  refine ⟨m, (Grammar.parseTokens_eq_ok_iff (alternativesOf_expression_ne_nil hg) m).2
    ⟨dv, hwhole.mono (Nat.cast_le.2 hframes), ?_⟩, hm⟩
  rw [htree]
  rfl

/-- Tokens that are parsed are those of an expression, and the tree is the expression's. -/
theorem exists_expression {n : Node}
    (hn : (g.parseTokens "expression" tokens options).1 = .ok n) :
    ∃ e : Expression, lexemesFrom tokens 0 = e.lexemes ∧ e.frames ≤ options.budget ∧
      IsTree d e n := by
  obtain ⟨dv, hdv, rfl⟩ :=
    (Grammar.parseTokens_eq_ok_iff (alternativesOf_expression_ne_nil hg) n).1 hn
  obtain ⟨e, he, hframes⟩ := expression_of_firstWhole hg hlex hdv
  obtain ⟨dv', m, hdv', htree, hm⟩ := exists_firstWhole hg hlex he
  obtain rfl := hdv.unique hdv'
  rw [htree]
  exact ⟨e, he, hframes, hm⟩

/-- An expression that nests too deep is refused for that. -/
theorem tooDeep_of_lexemes {e : Expression} (h : lexemesFrom tokens 0 = e.lexemes)
    (hframes : options.budget < e.frames) :
    ∃ failure, failure.IsNesting ∧
      (g.parseTokens "expression" tokens options).1 = .error failure := by
  obtain ⟨dv, m, hwhole, -, -⟩ := exists_firstWhole hg hlex h
  obtain ⟨dv', hdv', hok⟩ | ⟨hnone, -⟩ | ⟨-, hdeep⟩ :=
    Grammar.parseTokens_cases (alternativesOf_expression_ne_nil hg) tokens options
  · obtain ⟨e', he', hframes'⟩ := expression_of_firstWhole hg hlex hdv'
    obtain rfl := Expression.eq_of_lexemes (h.symm.trans he')
    omega
  · obtain ⟨pre, rule, post, halts, -, hrule⟩ := hwhole.exists_split
    exact absurd hrule (hnone.not_matches (by simp [halts]))
  · exact hdeep

end Tokens

end OrderedGrammar.Arithmetic
