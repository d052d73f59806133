import Mathlib.Data.ENat.Basic
import OrderedGrammar.Proofs.Matching.Derivation

/-!
# Ordered choice as a relation

What matches what, and how it fails to, given by rules and without a state.  Each relation has an
outcome, which is `none` for a failure, and for a success what has been matched and the index
behind it:

* a name matches a token of that kind, or else the first alternative of the name that matches;
* an alternative matches when its symbols match one after the other;
* an optional symbol matches nothing at the end of the tokens; a repeatable one goes around
  until an attempt fails or takes no token; a symbol that does not match at all is left out if it
  is optional and fails otherwise.

Only the kinds of the tokens count.  The first index of each relation bounds how many alternatives
may be nested, in attempts that fail just as in those that succeed; it is `⊤` if nothing bounds
them.  Outcomes are unique, whatever the bounds (`Grammar.RuleMatches.unique`), and stay when the
bound is raised (`Grammar.RuleMatches.mono`).
-/

namespace OrderedGrammar

namespace Grammar

variable (g : Grammar) (kinds : Array String)

mutual

/-- A name matches a token of its kind, or else the first of its alternatives that does. -/
inductive NameMatches : ℕ∞ → String → ℕ → Option (Derivation × ℕ) → Prop
  | token {limit name i} : kinds[i]? = some name →
      NameMatches limit name i (some (.leaf i, i + 1))
  | rule {limit name i pre r post d j} : kinds[i]? ≠ some name →
      g.alternativesOf name = pre ++ r :: post → (∀ r' ∈ pre, RuleMatches limit r' i none) →
      RuleMatches limit r i (some (d, j)) → NameMatches limit name i (some (d, j))
  | fail {limit name i} : kinds[i]? ≠ some name →
      (∀ r ∈ g.alternativesOf name, RuleMatches limit r i none) → NameMatches limit name i none

/-- An alternative matches when its symbols match one after the other. -/
inductive RuleMatches : ℕ∞ → Rule → ℕ → Option (Derivation × ℕ) → Prop
  | matched {limit r i parts j} : SymbolsMatch limit r.symbols i (some (parts, j)) →
      RuleMatches (limit + 1) r i (some (.branch r parts, j))
  | fail {limit r i} : SymbolsMatch limit r.symbols i none → RuleMatches (limit + 1) r i none

/-- Symbols match one after the other.  What has matched is not tried in another way when a later
symbol fails. -/
inductive SymbolsMatch : ℕ∞ → List Symbol → ℕ → Option (List (Symbol × Derivation) × ℕ) → Prop
  | nil {limit i} : SymbolsMatch limit [] i (some ([], i))
  | cons {limit s symbols i ds j parts k} : SymbolMatches limit s i (some (ds, j)) →
      SymbolsMatch limit symbols j (some (parts, k)) →
      SymbolsMatch limit (s :: symbols) i (some (ds.map (s, ·) ++ parts, k))
  | failHead {limit s symbols i} : SymbolMatches limit s i none →
      SymbolsMatch limit (s :: symbols) i none
  | failTail {limit s symbols i ds j} : SymbolMatches limit s i (some (ds, j)) →
      SymbolsMatch limit symbols j none → SymbolsMatch limit (s :: symbols) i none

/-- A symbol matches as often as it asks for. -/
inductive SymbolMatches : ℕ∞ → Symbol → ℕ → Option (List Derivation × ℕ) → Prop
  | atEnd {limit s i} : s.optional → kinds.size ≤ i → SymbolMatches limit s i (some ([], i))
  | single {limit s i d j} : ¬ (s.optional ∧ kinds.size ≤ i) → ¬ s.repeatable →
      NameMatches limit s.name i (some (d, j)) → SymbolMatches limit s i (some ([d], j))
  | repeated {limit s i d ds j} : ¬ (s.optional ∧ kinds.size ≤ i) → s.repeatable →
      RoundsMatch limit s.name i (d :: ds) j → SymbolMatches limit s i (some (d :: ds, j))
  | skip {limit s i} : s.optional → i < kinds.size → NameMatches limit s.name i none →
      SymbolMatches limit s i (some ([], i))
  | fail {limit s i} : ¬ s.optional → NameMatches limit s.name i none →
      SymbolMatches limit s i none

/-- A name matches in rounds until it fails or takes no token. -/
inductive RoundsMatch : ℕ∞ → String → ℕ → List Derivation → ℕ → Prop
  | stop {limit name i} : NameMatches limit name i none → RoundsMatch limit name i [] i
  | still {limit name i d} : NameMatches limit name i (some (d, i)) →
      RoundsMatch limit name i [d] i
  | more {limit name i d j ds k} : NameMatches limit name i (some (d, j)) → j ≠ i →
      RoundsMatch limit name j ds k → RoundsMatch limit name i (d :: ds) k

end

variable {g kinds} {limit limit' : ℕ∞} {i j k : ℕ}

/-! ### The rules read backwards -/

theorem ruleMatches_iff {r : Rule} {o : Option (Derivation × ℕ)} :
    g.RuleMatches kinds limit' r i o ↔ ∃ limit, limit' = limit + 1 ∧
      ∃ o', g.SymbolsMatch kinds limit r.symbols i o' ∧
        o = o'.map fun x => (.branch r x.1, x.2) := by
  constructor
  · intro h
    cases h with
    | matched h => exact ⟨_, rfl, _, h, rfl⟩
    | fail h => exact ⟨_, rfl, _, h, rfl⟩
  · rintro ⟨limit, rfl, o', h, rfl⟩
    cases o' with
    | none => exact .fail h
    | some x => exact .matched h

theorem not_ruleMatches_zero {r : Rule} {o : Option (Derivation × ℕ)} :
    ¬ g.RuleMatches kinds 0 r i o := by
  rw [ruleMatches_iff]
  rintro ⟨limit, h, -⟩
  exact absurd h.symm (by simp)

theorem ruleMatches_add_one {r : Rule} {o : Option (Derivation × ℕ)} :
    g.RuleMatches kinds (limit + 1) r i o ↔ ∃ o', g.SymbolsMatch kinds limit r.symbols i o' ∧
      o = o'.map fun x => (.branch r x.1, x.2) := by
  rw [ruleMatches_iff]
  constructor
  · rintro ⟨limit', h, ho⟩
    rwa [ENat.add_left_injective_of_ne_top ENat.one_ne_top h]
  · exact fun h => ⟨limit, rfl, h⟩

/-- Rounds begin with an attempt at the name. -/
theorem RoundsMatch.exists_name {name : String} {ds : List Derivation}
    (h : g.RoundsMatch kinds limit name i ds j) : ∃ o, g.NameMatches kinds limit name i o := by
  cases h with
  | stop h => exact ⟨_, h⟩
  | still h => exact ⟨_, h⟩
  | more h _ _ => exact ⟨_, h⟩

/-- A symbol that does not end with the tokens begins with an attempt at its name. -/
theorem SymbolMatches.exists_name {s : Symbol} {o : Option (List Derivation × ℕ)}
    (hend : ¬ (s.optional ∧ kinds.size ≤ i)) (h : g.SymbolMatches kinds limit s i o) :
    ∃ o, g.NameMatches kinds limit s.name i o := by
  cases h with
  | atEnd ho hi => exact absurd ⟨ho, hi⟩ hend
  | single _ _ h => exact ⟨_, h⟩
  | repeated _ _ h => exact h.exists_name
  | skip _ _ h => exact ⟨_, h⟩
  | fail _ h => exact ⟨_, h⟩

/-! ### Where a match ends -/

/-- What has matched from `i` to `j` has taken the tokens with the indices between them. -/
structure Spans (size i j : ℕ) (leaves : List ℕ) : Prop where
  le : i ≤ j
  le_size : j ≤ max i size
  leaves_eq : leaves = List.range' i (j - i)

theorem Spans.refl {size i : ℕ} : Spans size i i [] := ⟨le_rfl, by omega, by simp⟩

theorem Spans.append {size i j k : ℕ} {leaves leaves' : List ℕ} (h : Spans size i j leaves)
    (h' : Spans size j k leaves') : Spans size i k (leaves ++ leaves') := by
  obtain ⟨hij, hj, rfl⟩ := h
  obtain ⟨hjk, hk, rfl⟩ := h'
  refine ⟨hij.trans hjk, by omega, ?_⟩
  have hsum : k - i = (j - i) + (k - j) := by omega
  have hstart : j = i + (j - i) := by omega
  rw [hsum, ← List.range'_append_1, ← hstart]

mutual

theorem NameMatches.spans {limit name i o} : g.NameMatches kinds limit name i o →
    ∀ x ∈ o, Spans kinds.size i x.2 x.1.leaves
  | .token h => by
    rintro _ ⟨⟩
    obtain ⟨hi, -⟩ := Array.getElem?_eq_some_iff.1 h
    exact ⟨by simp, by simp; omega, by simp [Derivation.leaves]⟩
  | .rule _ _ _ h => RuleMatches.spans h
  | .fail _ _ => by rintro _ ⟨⟩

theorem RuleMatches.spans {limit r i o} : g.RuleMatches kinds limit r i o →
    ∀ x ∈ o, Spans kinds.size i x.2 x.1.leaves
  | .matched h => by
    rintro _ ⟨⟩
    exact SymbolsMatch.spans h _ rfl
  | .fail _ => by rintro _ ⟨⟩

theorem SymbolsMatch.spans {limit symbols i o} : g.SymbolsMatch kinds limit symbols i o →
    ∀ x ∈ o, Spans kinds.size i x.2 (Derivation.partsLeaves x.1)
  | .nil => by
    rintro _ ⟨⟩
    exact .refl
  | .cons h h' => by
    rintro _ ⟨⟩
    rw [Derivation.partsLeaves_append]
    exact (SymbolMatches.spans h _ rfl).append (SymbolsMatch.spans h' _ rfl)
  | .failHead _ => by rintro _ ⟨⟩
  | .failTail _ _ => by rintro _ ⟨⟩

theorem SymbolMatches.spans {limit s i o} : g.SymbolMatches kinds limit s i o →
    ∀ x ∈ o, Spans kinds.size i x.2 (Derivation.partsLeaves (x.1.map (s, ·)))
  | .atEnd _ _ => by
    rintro _ ⟨⟩
    exact .refl
  | .single _ _ h => by
    rintro _ ⟨⟩
    simpa [Derivation.partsLeaves] using NameMatches.spans h _ rfl
  | .repeated _ _ h => by
    rintro _ ⟨⟩
    exact RoundsMatch.spans h s
  | .skip _ _ _ => by
    rintro _ ⟨⟩
    exact .refl
  | .fail _ _ => by rintro _ ⟨⟩

theorem RoundsMatch.spans {limit name i ds j} : g.RoundsMatch kinds limit name i ds j →
    ∀ (s : Symbol), Spans kinds.size i j (Derivation.partsLeaves (ds.map (s, ·)))
  | .stop _, _ => .refl
  | .still h, _ => by simpa [Derivation.partsLeaves] using NameMatches.spans h _ rfl
  | .more h _ h', s => (NameMatches.spans h _ rfl).append (RoundsMatch.spans h' s)

end

/-! ### Uniqueness -/

mutual

theorem NameMatches.unique {limit name i o} : g.NameMatches kinds limit name i o →
    ∀ {limit' o'}, g.NameMatches kinds limit' name i o' → o = o'
  | .token h, _, _, h' => by
    cases h' with
    | token _ => rfl
    | rule hno _ _ _ => exact absurd h hno
    | fail hno _ => exact absurd h hno
  | .rule hno halts hpre h, limit', _, h' => by
    have ih {o} (h' : g.RuleMatches kinds limit' _ i o) := RuleMatches.unique h h'
    have ihpre {r o} (hr : r ∈ _) (h' : g.RuleMatches kinds limit' r i o) :=
      RuleMatches.unique (hpre r hr) h'
    cases h' with
    | token h' => exact absurd h' hno
    | rule _ halts' hpre' h' =>
      -- the alternative that matches stands behind none that matches in the other derivation
      rcases List.append_eq_append_iff.1 (halts.symm.trans halts') with
        ⟨_ | ⟨_, _⟩, rfl, hl⟩ | ⟨_ | ⟨_, _⟩, rfl, hl⟩ <;> obtain ⟨rfl, -⟩ := List.cons.inj hl
      · exact ih h'
      · cases ih (hpre' _ (by simp))
      · exact ih h'
      · cases ihpre (by simp) h'
    | fail _ hall => cases ih (hall _ (by simp [halts]))
  | .fail hno hall, limit', _, h' => by
    have ih {r o} (hr : r ∈ _) (h' : g.RuleMatches kinds limit' r i o) :=
      RuleMatches.unique (hall r hr) h'
    cases h' with
    | token h' => exact absurd h' hno
    | rule _ halts _ h' => cases ih (by simp [halts]) h'
    | fail _ _ => rfl
termination_by structural h => h

theorem RuleMatches.unique {limit r i o} : g.RuleMatches kinds limit r i o →
    ∀ {limit' o'}, g.RuleMatches kinds limit' r i o' → o = o'
  | .matched h, _, _, h' => by
    have ih {limit' o} (h' : g.SymbolsMatch kinds limit' _ i o) := SymbolsMatch.unique h h'
    cases h' with
    | matched h' => cases ih h'; rfl
    | fail h' => cases ih h'
  | .fail h, _, _, h' => by
    have ih {limit' o} (h' : g.SymbolsMatch kinds limit' _ i o) := SymbolsMatch.unique h h'
    cases h' with
    | matched h' => cases ih h'
    | fail _ => rfl
termination_by structural h => h

theorem SymbolsMatch.unique {limit symbols i o} : g.SymbolsMatch kinds limit symbols i o →
    ∀ {limit' o'}, g.SymbolsMatch kinds limit' symbols i o' → o = o'
  | .nil, _, _, h' => by cases h'; rfl
  | .cons h t, limit', _, h' => by
    have ih {o} (h' : g.SymbolMatches kinds limit' _ i o) := SymbolMatches.unique h h'
    have iht {o} (t' : g.SymbolsMatch kinds limit' _ _ o) := SymbolsMatch.unique t t'
    cases h' with
    | cons h' t' => cases ih h'; cases iht t'; rfl
    | failHead h' => cases ih h'
    | failTail h' t' => cases ih h'; cases iht t'
  | .failHead h, limit', _, h' => by
    have ih {o} (h' : g.SymbolMatches kinds limit' _ i o) := SymbolMatches.unique h h'
    cases h' with
    | cons h' _ => cases ih h'
    | failHead _ => rfl
    | failTail _ _ => rfl
  | .failTail h t, limit', _, h' => by
    have ih {o} (h' : g.SymbolMatches kinds limit' _ i o) := SymbolMatches.unique h h'
    have iht {o} (t' : g.SymbolsMatch kinds limit' _ _ o) := SymbolsMatch.unique t t'
    cases h' with
    | cons h' t' => cases ih h'; cases iht t'
    | failHead _ => rfl
    | failTail _ _ => rfl
termination_by structural h => h

theorem SymbolMatches.unique {limit s i o} : g.SymbolMatches kinds limit s i o →
    ∀ {limit' o'}, g.SymbolMatches kinds limit' s i o' → o = o'
  | .atEnd ho hi, _, _, h' => by
    cases h' with
    | atEnd _ _ => rfl
    | single hno _ _ => exact absurd ⟨ho, hi⟩ hno
    | repeated hno _ _ => exact absurd ⟨ho, hi⟩ hno
    | skip _ _ _ => rfl
    | fail hno _ => exact absurd ho hno
  | .single hno hr h, limit', _, h' => by
    have ih {o} (h' : g.NameMatches kinds limit' _ i o) := NameMatches.unique h h'
    cases h' with
    | atEnd ho hi => exact absurd ⟨ho, hi⟩ hno
    | single _ _ h' => cases ih h'; rfl
    | repeated _ hr' _ => exact absurd hr' hr
    | skip _ _ h' => cases ih h'
    | fail _ h' => cases ih h'
  | .repeated hno hr h, limit', _, h' => by
    have ih {ds j} (h' : g.RoundsMatch kinds limit' _ i ds j) := RoundsMatch.unique h h'
    cases h' with
    | atEnd ho hi => exact absurd ⟨ho, hi⟩ hno
    | single _ hr' _ => exact absurd hr hr'
    | repeated _ _ h' =>
      obtain ⟨hds, rfl⟩ := ih h'
      rw [hds]
    | skip _ _ h' => cases (ih (.stop h')).1
    | fail _ h' => cases (ih (.stop h')).1
  | .skip ho hi h, limit', _, h' => by
    have ih {o} (h' : g.NameMatches kinds limit' _ i o) := NameMatches.unique h h'
    cases h' with
    | atEnd _ _ => rfl
    | single _ _ h' => cases ih h'
    | repeated _ _ h' => cases h' with
      | still h' => cases ih h'
      | more h' _ _ => cases ih h'
    | skip _ _ _ => rfl
    | fail hno _ => exact absurd ho hno
  | .fail hno h, limit', _, h' => by
    have ih {o} (h' : g.NameMatches kinds limit' _ i o) := NameMatches.unique h h'
    cases h' with
    | atEnd ho _ => exact absurd ho hno
    | single _ _ h' => cases ih h'
    | repeated _ _ h' => cases h' with
      | still h' => cases ih h'
      | more h' _ _ => cases ih h'
    | skip ho _ _ => exact absurd ho hno
    | fail _ _ => rfl
termination_by structural h => h

theorem RoundsMatch.unique {limit name i ds j} : g.RoundsMatch kinds limit name i ds j →
    ∀ {limit' ds' j'}, g.RoundsMatch kinds limit' name i ds' j' → ds = ds' ∧ j = j'
  | .stop h, limit', _, _, h' => by
    have ih {o} (h' : g.NameMatches kinds limit' _ i o) := NameMatches.unique h h'
    cases h' with
    | stop _ => exact ⟨rfl, rfl⟩
    | still h' => cases ih h'
    | more h' _ _ => cases ih h'
  | .still h, limit', _, _, h' => by
    have ih {o} (h' : g.NameMatches kinds limit' _ i o) := NameMatches.unique h h'
    cases h' with
    | stop h' => cases ih h'
    | still h' => cases ih h'; exact ⟨rfl, rfl⟩
    | more h' hne _ => cases ih h'; exact absurd rfl hne
  | .more h hne t, limit', _, _, h' => by
    have ih {o} (h' : g.NameMatches kinds limit' _ i o) := NameMatches.unique h h'
    have iht {ds j} (t' : g.RoundsMatch kinds limit' _ _ ds j) := RoundsMatch.unique t t'
    cases h' with
    | stop h' => cases ih h'
    | still h' => cases ih h'; exact absurd rfl hne
    | more h' _ t' =>
      cases ih h'
      obtain ⟨rfl, rfl⟩ := iht t'
      exact ⟨rfl, rfl⟩
termination_by structural h => h

end

/-! ### Raising the bound -/

mutual

theorem NameMatches.mono {limit name i o} : g.NameMatches kinds limit name i o →
    ∀ {limit'}, limit ≤ limit' → g.NameMatches kinds limit' name i o
  | .token h, _, _ => .token h
  | .rule hno halts hpre h, _, hle =>
    .rule hno halts (fun r hr => RuleMatches.mono (hpre r hr) hle) (RuleMatches.mono h hle)
  | .fail hno hall, _, hle => .fail hno fun r hr => RuleMatches.mono (hall r hr) hle
termination_by structural h => h

theorem RuleMatches.mono {limit r i o} : g.RuleMatches kinds limit r i o →
    ∀ {limit'}, limit ≤ limit' → g.RuleMatches kinds limit' r i o
  | .matched h, _, hle => by
    obtain ⟨more, rfl⟩ := le_iff_exists_add.1 hle
    rw [add_right_comm]
    exact .matched (SymbolsMatch.mono h le_self_add)
  | .fail h, _, hle => by
    obtain ⟨more, rfl⟩ := le_iff_exists_add.1 hle
    rw [add_right_comm]
    exact .fail (SymbolsMatch.mono h le_self_add)
termination_by structural h => h

theorem SymbolsMatch.mono {limit symbols i o} : g.SymbolsMatch kinds limit symbols i o →
    ∀ {limit'}, limit ≤ limit' → g.SymbolsMatch kinds limit' symbols i o
  | .nil, _, _ => .nil
  | .cons h t, _, hle => .cons (SymbolMatches.mono h hle) (SymbolsMatch.mono t hle)
  | .failHead h, _, hle => .failHead (SymbolMatches.mono h hle)
  | .failTail h t, _, hle => .failTail (SymbolMatches.mono h hle) (SymbolsMatch.mono t hle)
termination_by structural h => h

theorem SymbolMatches.mono {limit s i o} : g.SymbolMatches kinds limit s i o →
    ∀ {limit'}, limit ≤ limit' → g.SymbolMatches kinds limit' s i o
  | .atEnd ho hi, _, _ => .atEnd ho hi
  | .single hno hr h, _, hle => .single hno hr (NameMatches.mono h hle)
  | .repeated hno hr h, _, hle => .repeated hno hr (RoundsMatch.mono h hle)
  | .skip ho hi h, _, hle => .skip ho hi (NameMatches.mono h hle)
  | .fail ho h, _, hle => .fail ho (NameMatches.mono h hle)
termination_by structural h => h

theorem RoundsMatch.mono {limit name i ds j} : g.RoundsMatch kinds limit name i ds j →
    ∀ {limit'}, limit ≤ limit' → g.RoundsMatch kinds limit' name i ds j
  | .stop h, _, hle => .stop (NameMatches.mono h hle)
  | .still h, _, hle => .still (NameMatches.mono h hle)
  | .more h hne t, _, hle => .more (NameMatches.mono h hle) hne (RoundsMatch.mono t hle)
termination_by structural h => h

end

end Grammar

end OrderedGrammar
