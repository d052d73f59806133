import OrderedGrammar.Proofs.Matching.Relation

/-!
# The relation read backwards

How a name, a symbol or a sequence of symbols can match, for the kinds of names and symbols that
occur in grammars: names of tokens, names with one or two alternatives, and required, optional and
repeatable symbols.
-/

namespace OrderedGrammar

namespace Grammar

variable {g : Grammar} {kinds : Array String} {limit : ℕ∞} {i j k n : ℕ} {name : String}
  {s : Symbol} {o : Option (Derivation × ℕ)} {x : Derivation × ℕ}

/-! ### Names -/

/-- A name without alternatives matches just the tokens of its kind. -/
theorem nameMatches_terminal (h : g.alternativesOf name = []) :
    g.NameMatches kinds limit name i o ↔
      o = if kinds[i]? = some name then some (.leaf i, i + 1) else none := by
  constructor
  · intro hm
    cases hm with
    | token hk => rw [if_pos hk]
    | rule _ halts _ _ => simp [h] at halts
    | fail hk _ => rw [if_neg hk]
  · rintro rfl
    split
    · next hk => exact .token hk
    · next hk => exact .fail hk (by simp [h])

theorem nameMatches_one {r : Rule} (h : g.alternativesOf name = [r])
    (hk : kinds[i]? ≠ some name) :
    g.NameMatches kinds limit name i o ↔ g.RuleMatches kinds limit r i o := by
  constructor
  · intro hm
    cases hm with
    | token hk' => exact absurd hk' hk
    | rule _ halts _ hr =>
      rw [h] at halts
      obtain ⟨rfl, heq⟩ | ⟨_, -, heq⟩ := List.cons_eq_append_iff.1 halts
      · cases heq
        exact hr
      · simp at heq
    | fail _ hall => exact hall r (by simp [h])
  · intro hr
    cases o with
    | none => exact .fail hk (by simpa [h] using hr)
    | some x => exact .rule hk (h.trans (List.nil_append _).symm) (by simp) hr

theorem nameMatches_two {r r' : Rule} (h : g.alternativesOf name = [r, r'])
    (hk : kinds[i]? ≠ some name) :
    g.NameMatches kinds limit name i o ↔
      (g.RuleMatches kinds limit r i o ∧ o ≠ none) ∨
        (g.RuleMatches kinds limit r i none ∧ g.RuleMatches kinds limit r' i o) := by
  constructor
  · intro hm
    cases hm with
    | token hk' => exact absurd hk' hk
    | rule _ halts hpre hr =>
      rw [h] at halts
      obtain ⟨rfl, heq⟩ | ⟨pre, rfl, heq⟩ := List.cons_eq_append_iff.1 halts
      · cases heq
        exact .inl ⟨hr, by simp⟩
      · obtain ⟨rfl, heq⟩ | ⟨pre, rfl, heq⟩ := List.cons_eq_append_iff.1 heq
        · cases heq
          exact .inr ⟨hpre r (by simp), hr⟩
        · simp at heq
    | fail _ hall => exact .inr ⟨hall r (by simp [h]), hall r' (by simp [h])⟩
  · rintro (⟨hr, hne⟩ | ⟨hr, hr'⟩)
    · cases o with
      | none => exact absurd rfl hne
      | some x => exact .rule hk (h.trans (List.nil_append _).symm) (by simp) hr
    · cases o with
      | none => exact .fail hk (by simpa [h] using ⟨hr, hr'⟩)
      | some x => exact .rule hk (h.trans (List.singleton_append).symm) (by simpa using hr) hr'

/-- A name is matched by its first alternative if that matches. -/
theorem nameMatches_of_first {r : Rule} {rules : List Rule} (h : g.alternativesOf name = r :: rules)
    (hk : kinds[i]? ≠ some name) (hr : g.RuleMatches kinds limit r i (some x)) :
    g.NameMatches kinds limit name i (some x) :=
  .rule hk (h.trans (List.nil_append _).symm) (by simp) hr

/-- A name is matched by one of its alternatives. -/
theorem exists_rule_of_nameMatches (hk : kinds[i]? ≠ some name)
    (h : g.NameMatches kinds limit name i (some x)) :
    ∃ r ∈ g.alternativesOf name, g.RuleMatches kinds limit r i (some x) := by
  cases h with
  | token hk' => exact absurd hk' hk
  | rule _ halts _ hr => exact ⟨_, by simp [halts], hr⟩

/-! ### Alternatives and sequences -/

/-- An alternative within a number of nested ones. -/
theorem ruleMatches_natCast {r : Rule} :
    g.RuleMatches kinds n r i o ↔ ∃ m : ℕ, n = m + 1 ∧ ∃ o', g.SymbolsMatch kinds m r.symbols i o' ∧
      o = o'.map fun x => (.branch r x.1, x.2) := by
  cases n with
  | zero =>
    constructor
    · exact fun h => absurd h not_ruleMatches_zero
    · rintro ⟨m, hm, -⟩
      omega
  | succ n =>
    rw [Nat.cast_succ, ruleMatches_add_one]
    constructor
    · exact fun h => ⟨n, rfl, h⟩
    · rintro ⟨m, hm, h⟩
      cases hm
      exact h

theorem symbolsMatch_nil {o : Option (List (Symbol × Derivation) × ℕ)} :
    g.SymbolsMatch kinds limit [] i o ↔ o = some ([], i) := by
  constructor
  · rintro ⟨⟩
    rfl
  · rintro rfl
    exact .nil

theorem symbolsMatch_cons_some {symbols : List Symbol} {parts : List (Symbol × Derivation)} :
    g.SymbolsMatch kinds limit (s :: symbols) i (some (parts, k)) ↔
      ∃ ds j parts', g.SymbolMatches kinds limit s i (some (ds, j)) ∧
        g.SymbolsMatch kinds limit symbols j (some (parts', k)) ∧
        parts = ds.map (s, ·) ++ parts' := by
  constructor
  · intro h
    cases h with
    | cons h t => exact ⟨_, _, _, h, t, rfl⟩
  · rintro ⟨ds, j, parts', h, t, rfl⟩
    exact .cons h t

/-! ### Symbols -/

theorem symbolMatches_required (ho : ¬ s.optional) (hr : ¬ s.repeatable)
    {o : Option (List Derivation × ℕ)} :
    g.SymbolMatches kinds limit s i o ↔
      ∃ o', g.NameMatches kinds limit s.name i o' ∧ o = o'.map fun x => ([x.1], x.2) := by
  constructor
  · intro h
    cases h with
    | atEnd ho' _ => exact absurd ho' ho
    | single _ _ h => exact ⟨_, h, rfl⟩
    | repeated _ hr' _ => exact absurd hr' hr
    | skip ho' _ _ => exact absurd ho' ho
    | fail _ h => exact ⟨_, h, rfl⟩
  · rintro ⟨o', h, rfl⟩
    cases o' with
    | none => exact .fail ho h
    | some x => exact .single (fun hend => ho hend.1) hr h

theorem symbolMatches_optional (ho : s.optional) (hr : ¬ s.repeatable)
    {o : Option (List Derivation × ℕ)} :
    g.SymbolMatches kinds limit s i o ↔
      (kinds.size ≤ i ∧ o = some ([], i)) ∨
        (i < kinds.size ∧ ∃ o', g.NameMatches kinds limit s.name i o' ∧
          o = o'.elim (some ([], i)) fun x => some ([x.1], x.2)) := by
  constructor
  · intro h
    cases h with
    | atEnd _ hi => exact .inl ⟨hi, rfl⟩
    | single hend _ h =>
      have hi : i < kinds.size := by
        by_contra hi
        exact hend ⟨ho, by omega⟩
      exact .inr ⟨hi, _, h, rfl⟩
    | repeated _ hr' _ => exact absurd hr' hr
    | skip _ hi h => exact .inr ⟨hi, _, h, rfl⟩
    | fail ho' _ => exact absurd ho ho'
  · rintro (⟨hi, rfl⟩ | ⟨hi, o', h, rfl⟩)
    · exact .atEnd ho hi
    · cases o' with
      | none => exact .skip ho hi h
      | some x => exact .single (fun hend => absurd hend.2 (by omega)) hr h

/-- How an alternative fails that starts with a required symbol. -/
theorem of_ruleMatches_none {r : Rule} {symbols : List Symbol}
    (h : g.RuleMatches kinds limit r i none) (hsymbols : r.symbols = s :: symbols)
    (ho : ¬ s.optional) (hr : ¬ s.repeatable) :
    g.NameMatches kinds ⊤ s.name i none ∨
      ∃ d j, g.NameMatches kinds ⊤ s.name i (some (d, j)) ∧
        g.SymbolsMatch kinds ⊤ symbols j none := by
  obtain ⟨limit, -, o, h, heq⟩ := ruleMatches_iff.1 h
  obtain rfl := Option.map_eq_none_iff.1 heq.symm
  rw [hsymbols] at h
  cases h with
  | failHead h =>
    obtain ⟨o, h, heq⟩ := (symbolMatches_required ho hr).1 h
    obtain rfl := Option.map_eq_none_iff.1 heq.symm
    exact .inl (h.mono le_top)
  | failTail h t =>
    obtain ⟨o, hname, heq⟩ := (symbolMatches_required ho hr).1 h
    obtain ⟨x, rfl, -⟩ := Option.map_eq_some_iff.1 heq.symm
    cases heq
    exact .inr ⟨_, _, hname.mono le_top, t.mono le_top⟩

/-- An optional symbol that names a kind of tokens matches a token of that kind or nothing. -/
theorem symbolMatches_optional_terminal (h : g.alternativesOf s.name = []) (ho : s.optional)
    (hr : ¬ s.repeatable) {o : Option (List Derivation × ℕ)} :
    g.SymbolMatches kinds limit s i o ↔
      o = some (if kinds[i]? = some s.name then ([.leaf i], i + 1) else ([], i)) := by
  rw [symbolMatches_optional ho hr]
  by_cases hi : kinds.size ≤ i
  · simp [hi]
  · have hlt : i < kinds.size := by omega
    simp only [hi, false_and, false_or, hlt, true_and, nameMatches_terminal h, exists_eq_left]
    split <;> rfl

/-- A symbol that may be left out or repeated matches some rounds of its name. -/
theorem symbolMatches_zeroOrMore (ho : s.optional) (hr : s.repeatable)
    {o : Option (List Derivation × ℕ)} :
    g.SymbolMatches kinds limit s i o ↔
      (kinds.size ≤ i ∧ o = some ([], i)) ∨
        (i < kinds.size ∧ ∃ ds j, g.RoundsMatch kinds limit s.name i ds j ∧ o = some (ds, j)) := by
  constructor
  · intro h
    cases h with
    | atEnd _ hi => exact .inl ⟨hi, rfl⟩
    | single _ hr' _ => exact absurd hr hr'
    | repeated hend _ h =>
      have hi : i < kinds.size := by
        by_contra hi
        exact hend ⟨ho, by omega⟩
      exact .inr ⟨hi, _, _, h, rfl⟩
    | skip _ hi h => exact .inr ⟨hi, _, _, .stop h, rfl⟩
    | fail ho' _ => exact absurd ho ho'
  · rintro (⟨hi, rfl⟩ | ⟨hi, ds, j, h, rfl⟩)
    · exact .atEnd ho hi
    · cases h with
      | stop h => exact .skip ho hi h
      | still h => exact .repeated (fun hend => absurd hend.2 (by omega)) hr (.still h)
      | more h hne t => exact .repeated (fun hend => absurd hend.2 (by omega)) hr (.more h hne t)

/-- A symbol that may only be repeated matches at least one round of its name. -/
theorem symbolMatches_oneOrMore (ho : ¬ s.optional) (hr : s.repeatable) {ds : List Derivation} :
    g.SymbolMatches kinds limit s i (some (ds, j)) ↔
      ds ≠ [] ∧ g.RoundsMatch kinds limit s.name i ds j := by
  constructor
  · intro h
    cases h with
    | atEnd ho' _ => exact absurd ho' ho
    | single _ hr' _ => exact absurd hr hr'
    | repeated _ _ h => exact ⟨by simp, h⟩
    | skip ho' _ _ => exact absurd ho' ho
  · rintro ⟨hne, h⟩
    cases ds with
    | nil => exact absurd rfl hne
    | cons d ds => exact .repeated (fun hend => ho hend.1) hr h

end Grammar

end OrderedGrammar
