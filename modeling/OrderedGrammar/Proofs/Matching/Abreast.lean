import Mathlib.Data.List.Forall2
import OrderedGrammar.Proofs.Matching.Moments

/-!
# Two runs side by side

The matcher decides by the kinds of the tokens that its cursor comes to and by what symbols ask
for, and by nothing else: neither by the tokens further on, nor by what frames keep.  So two
grammars whose symbols ask for the same go through two sequences of tokens side by side, as long
as the cursor of the first run stays where the kinds are the same (`matchRule_abreast`).

In the end both parses have a tree, or both have the same error but for the token that it names
(`Grammar.parseTokens_abreast`).

## Main definitions

* `Grammar.Relabelled` : two grammars whose symbols ask for the same under other labels.
* `SameKinds` : the tokens have the same kinds up to an index.
* `Run.Abreast` : two runs have come equally far.
-/

namespace OrderedGrammar

/-! ### What symbols ask for -/

/-- Two symbols that ask for the same and may differ in where they keep it, and in whether they
do. -/
structure Symbol.Relabelled (s s' : Symbol) : Prop where
  name_eq : s'.name = s.name
  optional_eq : s'.optional = s.optional
  repeatable_eq : s'.repeatable = s.repeatable

/-- Two rules whose symbols ask for the same. -/
structure Rule.Relabelled (rule rule' : Rule) : Prop where
  name_eq : rule'.name = rule.name
  kind_eq : rule'.kind = rule.kind
  symbols : List.Forall₂ Symbol.Relabelled rule.symbols rule'.symbols

/-- Two grammars with the same alternatives under other labels. -/
structure Grammar.Relabelled (g g' : Grammar) : Prop where
  alternatives : ∀ name,
    List.Forall₂ Rule.Relabelled (g.alternativesOf name) (g'.alternativesOf name)
  isTokenKind_eq : ∀ name, g'.isTokenKind name = g.isTokenKind name

theorem Symbol.Relabelled.refl (s : Symbol) : s.Relabelled s := ⟨rfl, rfl, rfl⟩

theorem Rule.Relabelled.refl (rule : Rule) : rule.Relabelled rule :=
  ⟨rfl, rfl, List.forall₂_same.2 fun s _ => .refl s⟩

theorem Grammar.Relabelled.refl (g : Grammar) : g.Relabelled g :=
  ⟨fun _ => List.forall₂_same.2 fun rule _ => .refl rule, fun _ => rfl⟩

/-! ### Runs that have come equally far -/

/-- Whether tokens have the same kinds at all indices up to a limit. -/
def SameKinds (limit : ℕ) (tokens tokens' : Array Token) : Prop :=
  ∀ i ≤ limit, (kindsOf tokens')[i]? = (kindsOf tokens)[i]?

/-- Whether the cursor stays up to a limit. -/
def UpTo (limit : ℕ) (moments : List Context) : Prop := ∀ c ∈ moments, c.index ≤ limit

/-- The run is at the index `i` with a number of frames open, each of which has stored one match
after the other. -/
structure Run.AtDepth (r : Run) (tokens : Array Token) (depth i : ℕ) : Prop where
  tokens_eq : r.context.tokens = tokens
  index_eq : r.context.index = i
  index_le : i ≤ tokens.size
  depth_eq : r.context.frames.length = depth
  holding : ∀ f ∈ r.context.frames, ∃ rule stored, f = .holding rule stored

/-- Two runs have come equally far, within the limit. -/
structure Run.Abreast (limit : ℕ) (tokens tokens' : Array Token) (depth i : ℕ) (r r' : Run) :
    Prop where
  left : r.AtDepth tokens depth i
  right : r'.AtDepth tokens' depth i
  best_eq : r'.context.best = r.context.best
  le_limit : i ≤ limit

/-- Two attempts that are made at the index `i` with a number of frames open end alike, and then
as many frames are open. -/
inductive Outcome.Abreast {α β : Type} (limit : ℕ) (tokens tokens' : Array Token) (depth i : ℕ) :
    Outcome α → Outcome β → Prop
  | matched {a : α} {b : β} {r r' : Run} {j : ℕ} : i ≤ j →
      r.Abreast limit tokens tokens' depth j r' →
      Abreast limit tokens tokens' depth i (.matched a r) (.matched b r')
  | failed {r r' : Run} {j : ℕ} : i ≤ j → r.Abreast limit tokens tokens' depth j r' →
      Abreast limit tokens tokens' depth i (.failed r) (.failed r')
  | aborted {abort : Abort} {r r' : Run} {depth' j : ℕ} :
      r.Abreast limit tokens tokens' depth' j r' →
      Abreast limit tokens tokens' depth i (.aborted abort r) (.aborted abort r')

variable {limit depth i j : ℕ} {tokens tokens' : Array Token} {r r' : Run}

theorem SameKinds.size_le_iff (h : SameKinds limit tokens tokens') (hi : i ≤ limit) :
    tokens'.size ≤ i ↔ tokens.size ≤ i := by
  rw [← Array.getElem?_eq_none_iff, ← Array.getElem?_eq_none_iff, ← Option.map_eq_none_iff,
    ← Array.getElem?_map, h i hi, Array.getElem?_map, Option.map_eq_none_iff]

namespace Run.AtDepth

theorem index (h : r.AtDepth tokens depth i) : r.index = i := h.index_eq

theorem seek (h : r.AtDepth tokens depth i) (hj : j ≤ tokens.size) :
    (r.seek j).AtDepth tokens depth j :=
  ⟨h.tokens_eq, rfl, hj, h.depth_eq, h.holding⟩

theorem note (h : r.AtDepth tokens depth i) (verbose : Bool) (event : TraceEvent) :
    (r.note verbose event).AtDepth tokens depth i := by
  unfold Run.note
  split
  · exact ⟨h.tokens_eq, h.index_eq, h.index_le, h.depth_eq, h.holding⟩
  · exact h

theorem push (h : r.AtDepth tokens depth i) (rule : Rule) :
    (r.push rule).AtDepth tokens (depth + 1) i where
  tokens_eq := h.tokens_eq
  index_eq := h.index_eq
  index_le := h.index_le
  depth_eq := congrArg (· + 1) h.depth_eq
  holding := List.forall_mem_cons.2 ⟨⟨rule, [], (Frame.holding_nil rule).symm⟩, h.holding⟩

theorem exists_frame (h : r.AtDepth tokens (depth + 1) i) : ∃ rule stored rest,
    r.context.frames = .holding rule stored :: rest ∧ rest.length = depth ∧
      ∀ f ∈ rest, ∃ rule stored, f = .holding rule stored := by
  obtain ⟨f, rest, hframes⟩ := List.exists_cons_of_length_eq_add_one h.depth_eq
  have hholding := h.holding
  have hdepth := h.depth_eq
  rw [hframes] at hholding hdepth
  obtain ⟨⟨rule, stored, rfl⟩, hrest⟩ := List.forall_mem_cons.1 hholding
  exact ⟨rule, stored, rest, hframes, Nat.succ_inj.1 hdepth, hrest⟩

/-- Closing a frame never fails. -/
theorem pop {α : Type} (h : r.AtDepth tokens (depth + 1) i) (next : Frame → Run → Outcome α) :
    ∃ f r₁, r₁.AtDepth tokens depth i ∧ r₁.context.best = r.context.best ∧
      r.pop next = next f r₁ := by
  obtain ⟨rule, stored, rest, hframes, hdepth, hrest⟩ := h.exists_frame
  refine ⟨.holding rule stored, { r with context := { r.context with frames := rest } },
    ⟨h.tokens_eq, h.index_eq, h.index_le, hdepth, hrest⟩, rfl, ?_⟩
  simp only [Run.pop, Context.pop, hframes]

/-- Keeping a match never fails, whatever the symbol and the match are. -/
theorem store {α : Type} (h : r.AtDepth tokens (depth + 1) i) (s : Symbol) (value : Tree)
    (next : Run → Outcome α) :
    ∃ r₁, r₁.AtDepth tokens (depth + 1) i ∧ r₁.context.best = r.context.best ∧
      r.store s value next = next r₁ ∧
      ∀ moments : Run → List Context, moments r₁ ⊆ r.storeMoments s value moments := by
  by_cases hs : s.ignored
  · -- nothing is kept, and the run goes on as it is
    exact ⟨r, h, rfl, by rw [Run.store, if_pos hs], fun moments => by
      rw [Run.storeMoments, if_pos hs]; exact List.Subset.refl _⟩
  obtain ⟨rule, stored, rest, hframes, hdepth, hrest⟩ := h.exists_frame
  have hstore : r.context.store s.label value =
      .ok { r.context with frames := .holding rule (stored ++ [(s.label, value)]) :: rest } := by
    simp only [Context.store, hframes, Frame.store_holding]
    rfl
  have hkept : (⟨{ r.context with frames := .holding rule (stored ++ [(s.label, value)]) :: rest },
      r.trace⟩ : Run).AtDepth tokens (depth + 1) i :=
    ⟨h.tokens_eq, h.index_eq, h.index_le, congrArg (· + 1) hdepth,
      List.forall_mem_cons.2 ⟨⟨rule, _, rfl⟩, hrest⟩⟩
  refine ⟨_, hkept, rfl, ?_, fun moments => ?_⟩
  · rw [Run.store, if_neg hs, hstore]
  · rw [Run.storeMoments, if_neg hs, hstore]
    exact List.subset_cons_self _ _

end Run.AtDepth

namespace Run.Abreast

theorem index_eq (h : r.Abreast limit tokens tokens' depth i r') : r'.index = r.index :=
  h.right.index.trans h.left.index.symm

theorem seek (h : r.Abreast limit tokens tokens' depth i r') (hj : j ≤ limit)
    (hsize : j ≤ tokens.size) (hsize' : j ≤ tokens'.size) :
    (r.seek j).Abreast limit tokens tokens' depth j (r'.seek j) :=
  ⟨h.left.seek hsize, h.right.seek hsize', congrArg (max · j) h.best_eq, hj⟩

/-- Going back to where both runs have been. -/
theorem seek_back (h : r.Abreast limit tokens tokens' depth j r') {r₁ r₁' : Run} {depth' : ℕ}
    (h₁ : r₁.Abreast limit tokens tokens' depth' i r₁') :
    (r.seek r₁.index).Abreast limit tokens tokens' depth i (r'.seek r₁'.index) := by
  rw [h₁.left.index, h₁.right.index]
  exact h.seek h₁.le_limit h₁.left.index_le h₁.right.index_le

theorem note (h : r.Abreast limit tokens tokens' depth i r') (verbose verbose' : Bool)
    (event event' : TraceEvent) :
    (r.note verbose event).Abreast limit tokens tokens' depth i (r'.note verbose' event') :=
  ⟨h.left.note _ _, h.right.note _ _, by simpa using h.best_eq, h.le_limit⟩

theorem push (h : r.Abreast limit tokens tokens' depth i r') (rule rule' : Rule) :
    (r.push rule).Abreast limit tokens tokens' (depth + 1) i (r'.push rule') :=
  ⟨h.left.push rule, h.right.push rule', h.best_eq, h.le_limit⟩

theorem pop {α β : Type} (h : r.Abreast limit tokens tokens' (depth + 1) i r')
    (next : Frame → Run → Outcome α) (next' : Frame → Run → Outcome β) :
    ∃ f f' r₁ r₁', r₁.Abreast limit tokens tokens' depth i r₁' ∧
      r.pop next = next f r₁ ∧ r'.pop next' = next' f' r₁' := by
  obtain ⟨f, r₁, h₁, hbest, hpop⟩ := h.left.pop next
  obtain ⟨f', r₁', h₁', hbest', hpop'⟩ := h.right.pop next'
  exact ⟨f, f', r₁, r₁', ⟨h₁, h₁', by rw [hbest, hbest', h.best_eq], h.le_limit⟩, hpop, hpop'⟩

/-- One of the runs may keep its match and the other one not. -/
theorem store {α β : Type} (h : r.Abreast limit tokens tokens' (depth + 1) i r')
    (s s' : Symbol) (value value' : Tree) (next : Run → Outcome α) (next' : Run → Outcome β) :
    ∃ r₁ r₁', r₁.Abreast limit tokens tokens' (depth + 1) i r₁' ∧
      r.store s value next = next r₁ ∧ r'.store s' value' next' = next' r₁' ∧
      ∀ moments : Run → List Context, moments r₁ ⊆ r.storeMoments s value moments := by
  obtain ⟨r₁, h₁, hbest, hstore, hmoments⟩ := h.left.store s value next
  obtain ⟨r₁', h₁', hbest', hstore', -⟩ := h.right.store s' value' next'
  exact ⟨r₁, r₁', ⟨h₁, h₁', by rw [hbest, hbest', h.best_eq], h.le_limit⟩, hstore, hstore',
    hmoments⟩

theorem atEnd_eq (h : r.Abreast limit tokens tokens' depth i r')
    (hkinds : SameKinds limit tokens tokens') : r'.context.atEnd = r.context.atEnd := by
  simp only [Context.atEnd, h.left.tokens_eq, h.right.tokens_eq, h.left.index_eq,
    h.right.index_eq, hkinds.size_le_iff h.le_limit]

/-- Both runs take the next token, or none does. -/
theorem tryToken (h : r.Abreast limit tokens tokens' depth i r')
    (hkinds : SameKinds limit tokens tokens') (kind : String) :
    r.context.tryToken kind = none ∧ r'.context.tryToken kind = none ∨
    ∃ t t', i < tokens.size ∧ i < tokens'.size ∧
      r.context.tryToken kind = some (t, (r.seek (i + 1)).context) ∧
      r'.context.tryToken kind = some (t', (r'.seek (i + 1)).context) := by
  have hkind := hkinds i h.le_limit
  simp only [Array.getElem?_map] at hkind
  simp only [Context.tryToken, Context.peek, Context.tokenAt, h.left.tokens_eq, h.right.tokens_eq,
    h.left.index_eq, h.right.index_eq]
  cases ht : tokens[i]? with
  | none =>
    rw [ht, Option.map_none, Option.map_eq_none_iff] at hkind
    exact .inl ⟨rfl, by rw [hkind]⟩
  | some t =>
    rw [ht, Option.map_some, Option.map_eq_some_iff] at hkind
    obtain ⟨t', ht', hkind⟩ := hkind
    rw [ht']
    dsimp only
    rw [hkind]
    by_cases heq : t.kind = kind
    · obtain ⟨hlt, -⟩ := Array.getElem?_eq_some_iff.1 ht
      obtain ⟨hlt', -⟩ := Array.getElem?_eq_some_iff.1 ht'
      rw [if_pos heq, if_pos heq]
      exact .inr ⟨t, t', hlt, hlt', rfl, rfl⟩
    · rw [if_neg heq, if_neg heq]
      exact .inl ⟨rfl, rfl⟩

end Run.Abreast

/-! ### The matcher -/

/-- Attempts at the same name end alike. -/
def AttemptsAbreast (limit : ℕ) (tokens tokens' : Array Token)
    (attempt : String → Run → Outcome Tree) (moments : String → Run → List Context)
    (attempt' : String → Run → Outcome Tree) : Prop :=
  ∀ name {depth i : ℕ} {r r' : Run}, r.Abreast limit tokens tokens' depth i r' →
    UpTo limit (moments name r) →
    (attempt name r).Abreast limit tokens tokens' depth i (attempt' name r')

/-- Attempts at alternatives that ask for the same end alike. -/
def RulesAbreast (limit : ℕ) (tokens tokens' : Array Token)
    (matchOne : Rule → Run → Outcome Tree) (moments : Rule → Run → List Context)
    (matchOne' : Rule → Run → Outcome Tree) : Prop :=
  ∀ {rule rule' : Rule} {depth i : ℕ} {r r' : Run}, rule.Relabelled rule' →
    r.Abreast limit tokens tokens' depth i r' → UpTo limit (moments rule r) →
    (matchOne rule r).Abreast limit tokens tokens' depth i (matchOne' rule' r')

/-- Two attempts that end alike beyond `j` do so beyond `i`. -/
theorem Outcome.Abreast.of_le {α β : Type} {res : Outcome α} {res' : Outcome β} (hij : i ≤ j)
    (h : res.Abreast limit tokens tokens' depth j res') :
    res.Abreast limit tokens tokens' depth i res' := by
  cases h with
  | matched hk h => exact .matched (hij.trans hk) h
  | failed hk h => exact .failed (hij.trans hk) h
  | aborted h => exact .aborted h

section Functions

variable {attempt attempt' : String → Run → Outcome Tree} {moments : String → Run → List Context}
  {s s' : Symbol}

theorem furtherRounds_abreast
    (h : AttemptsAbreast limit tokens tokens' attempt moments attempt') (s s' : Symbol)
    (fuel : ℕ) : ∀ {fuel' i : ℕ} {r r' : Run},
    r.Abreast limit tokens tokens' (depth + 1) i r' →
    tokens.size < i + fuel → tokens'.size < i + fuel' →
    UpTo limit (roundsMoments (attempt s.name) (moments s.name) s fuel r) →
    (furtherRounds (attempt s.name) s fuel r).Abreast limit tokens tokens' (depth + 1) i
      (furtherRounds (attempt' s.name) s' fuel' r') := by
  induction fuel with
  | zero =>
    -- the fuel is more than the tokens that are left, so that it is not what ends the rounds
    intro fuel' i r r' hr hfuel
    exact absurd hr.left.index_le (by omega)
  | succ fuel ih =>
    intro fuel' i r r' hr hfuel hfuel' hupTo
    obtain ⟨fuel', rfl⟩ : ∃ n, fuel' = n + 1 :=
      Nat.exists_eq_succ_of_ne_zero (by have := hr.right.index_le; omega)
    rw [roundsMoments, UpTo, List.forall_mem_append] at hupTo
    obtain ⟨hfirst, hrest⟩ := hupTo
    have hatt := h s.name hr hfirst
    rw [furtherRounds, furtherRounds]
    generalize attempt s.name r = res at hatt hrest ⊢
    generalize attempt' s.name r' = res' at hatt ⊢
    cases hatt with
    | @matched value value' r₁ r₁' j hij hr₁ =>
      obtain ⟨r₂, r₂', hr₂, hstore, hstore', hsub⟩ := hr₁.store s s' value value'
        (fun r₂ => if r₂.index = r.index then .matched () r₂
          else furtherRounds (attempt s.name) s fuel r₂)
        (fun r₂ => if r₂.index = r'.index then .matched () r₂
          else furtherRounds (attempt' s.name) s' fuel' r₂)
      have hrest := fun c hc => hrest c (hsub _ hc)
      dsimp only at hrest ⊢
      rw [hstore, hstore', hr₂.index_eq, hr.index_eq]
      rw [hr₂.left.index, hr.left.index] at hrest ⊢
      by_cases hji : j = i
      · rw [if_pos hji, if_pos hji]
        exact .matched hij hr₂
      · rw [if_neg hji] at hrest
        rw [if_neg hji, if_neg hji]
        exact (ih hr₂ (by omega) (by omega) hrest).of_le hij
    | failed hij hr₁ => exact .matched hij hr₁
    | aborted hr₁ => exact .aborted hr₁

theorem matchSymbol_abreast (h : AttemptsAbreast limit tokens tokens' attempt moments attempt')
    (hkinds : SameKinds limit tokens tokens') (hs : s.Relabelled s')
    (hr : r.Abreast limit tokens tokens' (depth + 1) i r')
    (hupTo : UpTo limit (symbolMoments attempt moments s r)) :
    (matchSymbol attempt s r).Abreast limit tokens tokens' (depth + 1) i
      (matchSymbol attempt' s' r') := by
  rw [symbolMoments] at hupTo
  rw [matchSymbol, matchSymbol, hs.name_eq, hs.optional_eq, hs.repeatable_eq, hr.atEnd_eq hkinds]
  split at hupTo
  · next hend =>
    rw [if_pos hend, if_pos hend]
    exact .matched le_rfl hr
  · next hend =>
    rw [if_neg hend, if_neg hend]
    rw [UpTo, List.forall_mem_append] at hupTo
    obtain ⟨hfirst, hrest⟩ := hupTo
    have hatt := h s.name hr hfirst
    generalize attempt s.name r = res at hatt hrest ⊢
    generalize attempt' s.name r' = res' at hatt ⊢
    cases hatt with
    | @matched value value' r₁ r₁' j hij hr₁ =>
      obtain ⟨r₂, r₂', hr₂, hstore, hstore', hsub⟩ := hr₁.store s s' value value'
        (fun r₂ => if s.repeatable && r₂.index ≠ r.index then
          furtherRounds (attempt s.name) s (r.context.tokens.size - r.index) r₂
          else .matched () r₂)
        (fun r₂ => if s.repeatable && r₂.index ≠ r'.index then
          furtherRounds (attempt' s.name) s' (r'.context.tokens.size - r'.index) r₂
          else .matched () r₂)
      have hrest := fun c hc => hrest c (hsub _ hc)
      dsimp only at hrest ⊢
      rw [hstore, hstore', hr₂.index_eq, hr.index_eq, hr.right.tokens_eq]
      rw [hr₂.left.index, hr.left.index, hr.left.tokens_eq] at hrest ⊢
      split at hrest
      · next hrep =>
        rw [if_pos hrep, if_pos hrep]
        -- the first round has taken a token, so that what is left suffices for the rounds
        have hne : j ≠ i := by simpa using (Bool.and_eq_true_iff.1 hrep).2
        have hi := hr.left.index_le
        have hi' := hr.right.index_le
        exact (furtherRounds_abreast h s s' _ hr₂ (by omega) (by omega) hrest).of_le hij
      · next hrep =>
        rw [if_neg hrep, if_neg hrep]
        exact .matched hij hr₂
    | failed hij hr₁ =>
      -- both runs go back to where the attempt was made
      have hback := hr₁.seek_back hr
      dsimp only
      split
      · exact .matched le_rfl hback
      · exact .failed le_rfl hback
    | aborted hr₁ => exact .aborted hr₁

theorem matchSymbols_abreast (h : AttemptsAbreast limit tokens tokens' attempt moments attempt')
    (hkinds : SameKinds limit tokens tokens') {symbols symbols' : List Symbol}
    (hsymbols : List.Forall₂ Symbol.Relabelled symbols symbols') : ∀ {i : ℕ} {r r' : Run},
    r.Abreast limit tokens tokens' (depth + 1) i r' →
    UpTo limit (symbolsMoments attempt moments symbols r) →
    (matchSymbols attempt symbols r).Abreast limit tokens tokens' (depth + 1) i
      (matchSymbols attempt' symbols' r') := by
  induction hsymbols with
  | nil => intro i r r' hr _; exact .matched le_rfl hr
  | cons hs _ ih =>
    intro i r r' hr hupTo
    rw [symbolsMoments, UpTo, List.forall_mem_append] at hupTo
    obtain ⟨hfirst, hrest⟩ := hupTo
    have hsym := matchSymbol_abreast h hkinds hs hr hfirst
    rw [matchSymbols, matchSymbols]
    generalize matchSymbol attempt _ r = res at hsym hrest ⊢
    generalize matchSymbol attempt' _ r' = res' at hsym ⊢
    cases hsym with
    | matched hij hr₁ => exact (ih hr₁ hrest).of_le hij
    | failed hij hr₁ => exact .failed hij hr₁
    | aborted hr₁ => exact .aborted hr₁

variable {matchOne matchOne' : Rule → Run → Outcome Tree}
  {ruleMoments : Rule → Run → List Context}

theorem firstMatch_abreast
    (h : RulesAbreast limit tokens tokens' matchOne ruleMoments matchOne')
    {rules rules' : List Rule} (hrules : List.Forall₂ Rule.Relabelled rules rules') :
    ∀ {i : ℕ} {r r' : Run}, r.Abreast limit tokens tokens' depth i r' →
    UpTo limit (firstMatchMoments matchOne ruleMoments rules r) →
    (firstMatch matchOne rules r).Abreast limit tokens tokens' depth i
      (firstMatch matchOne' rules' r') := by
  induction hrules with
  | nil => intro i r r' hr _; exact .failed le_rfl hr
  | cons hrule _ ih =>
    intro i r r' hr hupTo
    rw [firstMatchMoments, UpTo, List.forall_mem_append] at hupTo
    obtain ⟨hfirst, hrest⟩ := hupTo
    have hone := h hrule hr hfirst
    rw [firstMatch, firstMatch]
    generalize matchOne _ r = res at hone hrest ⊢
    generalize matchOne' _ r' = res' at hone ⊢
    cases hone with
    | matched hij hr₁ => exact .matched hij hr₁
    | failed hij hr₁ => exact (ih hr₁ hrest).of_le hij
    | aborted hr₁ => exact .aborted hr₁

theorem attempt_abreast {g g' : Grammar} (hg : g.Relabelled g')
    (hkinds : SameKinds limit tokens tokens')
    (h : RulesAbreast limit tokens tokens' matchOne ruleMoments matchOne') :
    AttemptsAbreast limit tokens tokens' (OrderedGrammar.attempt g matchOne)
      (attemptMoments g matchOne ruleMoments) (OrderedGrammar.attempt g' matchOne') := by
  intro name depth i r r' hr hupTo
  rw [attemptMoments] at hupTo
  rw [OrderedGrammar.attempt, OrderedGrammar.attempt]
  rcases hr.tryToken hkinds name with ⟨hnone, hnone'⟩ | ⟨t, t', hi, hi', hsome, hsome'⟩
  · rw [hnone] at hupTo ⊢
    rw [hnone']
    exact firstMatch_abreast h (hg.alternatives name) hr hupTo
  · rw [hsome] at hupTo ⊢
    rw [hsome']
    have hlimit : i + 1 ≤ limit := hupTo _ (List.mem_singleton_self _)
    exact .matched (Nat.le_succ i) (hr.seek hlimit hi hi')

end Functions

/-- Attempts at alternatives that ask for the same end alike, as long as the first one's cursor
stays where the kinds of tokens are the same. -/
theorem matchRule_abreast {g g' : Grammar} (hg : g.Relabelled g')
    (hkinds : SameKinds limit tokens tokens') (verbose verbose' : Bool) (budget : ℕ) :
    RulesAbreast limit tokens tokens' (matchRule g verbose budget) (ruleMoments g verbose budget)
      (matchRule g' verbose' budget) := by
  induction budget with
  | zero => intro rule rule' depth i r r' _ hr _; exact .aborted hr
  | succ budget ih =>
    intro rule rule' depth i r r' hrule hr hupTo
    rw [ruleMoments, UpTo, List.forall_mem_cons, List.forall_mem_append] at hupTo
    obtain ⟨-, hinner, -⟩ := hupTo
    have hentered := (hr.push rule rule').note verbose verbose' (.enter rule) (.enter rule')
    have hsyms := matchSymbols_abreast (attempt_abreast hg hkinds ih) hkinds hrule.symbols
      hentered hinner
    rw [matchRule, matchRule]
    generalize matchSymbols _ rule.symbols _ = res at hsyms ⊢
    generalize matchSymbols _ rule'.symbols _ = res' at hsyms ⊢
    cases hsyms with
    | matched hij hr₁ =>
      obtain ⟨f, f', r₂, r₂', hr₂, hpop, hpop'⟩ := hr₁.pop
        (fun frame r₂ => Outcome.matched frame.result (r₂.note verbose (.succeed rule.name)))
        (fun frame r₂ => Outcome.matched frame.result (r₂.note verbose' (.succeed rule'.name)))
      dsimp only
      rw [hpop, hpop']
      exact .matched hij (hr₂.note _ _ _ _)
    | failed hij hr₁ =>
      have hback := (hr₁.seek_back hr).note verbose verbose' (.fail rule.name) (.fail rule'.name)
      obtain ⟨f, f', r₂, r₂', hr₂, hpop, hpop'⟩ := hback.pop
        (fun _ r₂ => (Outcome.failed r₂ : Outcome Tree))
        (fun _ r₂ => (Outcome.failed r₂ : Outcome Tree))
      dsimp only
      rw [hpop, hpop']
      exact .failed le_rfl hr₂
    | aborted hr₁ => exact .aborted hr₁

/-! ### Parses -/

/-- An error, with what is at its index in other tokens. -/
def ParseFailure.reread (tokens : Array Token) : ParseFailure → ParseFailure
  | .parse (.rejected index _) => .parse (.rejected index tokens[index]?)
  | .parse (.tooDeep limit index _) => .parse (.tooDeep limit index tokens[index]?)
  | .parse (.exhausted index _) => .parse (.exhausted index tokens[index]?)
  | e => e

namespace Grammar

variable {g g' : Grammar}

/-- In a parse the cursor stays within the tokens. -/
theorem upTo_moments (g : Grammar) (root : String) (tokens : Array Token)
    (options : ParseOptions) : UpTo tokens.size (g.moments root tokens options) := by
  obtain ⟨rest, c, hmoments, hpath, -⟩ := g.moments_path root tokens options
  have hwithin : (Context.start tokens).Within := Nat.zero_le _
  rw [hmoments]
  refine List.forall_mem_cons.2 ⟨hwithin, fun m hm => ?_⟩
  obtain ⟨htokens, hm⟩ := hpath.of_mem hwithin m hm
  rw [Context.Within, htokens] at hm
  exact hm

theorem matchRoot_abreast (hg : g.Relabelled g') (hkinds : SameKinds limit tokens tokens')
    (verbose verbose' : Bool) (budget : ℕ) (root : String) {rules rules' : List Rule}
    (hrules : List.Forall₂ Rule.Relabelled rules rules') : ∀ {i : ℕ} {r r' : Run},
    r.Abreast limit tokens tokens' depth i r' →
    UpTo limit (g.rootMoments verbose budget rules r) →
    ((g'.matchRoot verbose' budget root rules' r').1.map fun _ => ()) =
      ((g.matchRoot verbose budget root rules r).1.map fun _ => ()) ∧
    ∃ depth i, (g.matchRoot verbose budget root rules r).2.Abreast limit tokens tokens' depth i
      (g'.matchRoot verbose' budget root rules' r').2 := by
  induction hrules with
  | nil => intro i r r' hr _; exact ⟨rfl, depth, i, hr⟩
  | @cons rule rule' _ _ hrule _ ih =>
    intro i r r' hr hupTo
    rw [rootMoments, UpTo, List.forall_mem_cons, List.forall_mem_append] at hupTo
    obtain ⟨-, hfirst, hrest⟩ := hupTo
    have hone := matchRule_abreast hg hkinds verbose verbose' budget hrule
      (hr.seek (Nat.zero_le _) (Nat.zero_le _) (Nat.zero_le _)) hfirst
    rw [matchRoot, matchRoot]
    generalize matchRule g verbose budget rule (r.seek 0) = res at hone hrest ⊢
    generalize matchRule g' verbose' budget rule' (r'.seek 0) = res' at hone ⊢
    cases hone with
    | matched _ hr₁ =>
      dsimp only at hrest ⊢
      rw [hr₁.atEnd_eq hkinds]
      split at hrest
      · next hend =>
        rw [if_pos hend, if_pos hend]
        exact ⟨rfl, _, _, hr₁.note _ _ _ _⟩
      · next hend =>
        rw [if_neg hend, if_neg hend]
        exact ih hr₁ hrest
    | failed _ hr₁ => exact ih hr₁ hrest
    | aborted hr₁ => exact ⟨rfl, _, _, hr₁⟩

theorem rejection_abreast (hr : r.Abreast limit tokens tokens' depth i r') :
    .parse (rejection r'.context) =
      ParseFailure.reread tokens' (.parse (rejection r.context)) := by
  simp only [rejection, ParseFailure.reread, Context.tokenAt, hr.best_eq, hr.right.tokens_eq]

theorem abortError_abreast (hr : r.Abreast limit tokens tokens' depth i r') (maxDepth : ℤ)
    (abort : Abort) :
    .parse (abortError maxDepth r'.context abort) =
      ParseFailure.reread tokens' (.parse (abortError maxDepth r.context abort)) := by
  cases abort with
  | tooDeep =>
    simp only [abortError, Context.peek, Context.tokenAt, hr.right.index_eq, hr.left.index_eq,
      hr.right.tokens_eq]
    split <;> rfl
  | context e => rfl

theorem matchToken_abreast (hkinds : SameKinds limit tokens tokens') {root : String}
    (hr : r.Abreast limit tokens tokens' depth 0 r')
    (hupTo : ∀ t c, r.context.tryToken root = some (t, c) → c.index ≤ limit) :
    (((matchToken root r'.context).mapError ParseFailure.parse).map fun _ => ()) =
      (((matchToken root r.context).mapError ParseFailure.parse).map fun _ => ()).mapError
        (ParseFailure.reread tokens') := by
  rw [matchToken, matchToken]
  rcases hr.tryToken hkinds root with ⟨hnone, hnone'⟩ | ⟨t, t', hi, hi', hsome, hsome'⟩
  · rw [hnone, hnone']
    exact congrArg Except.error (rejection_abreast hr)
  · have hlimit : 0 + 1 ≤ limit := hupTo _ _ hsome
    have hr₁ := hr.seek hlimit hi hi'
    rw [hsome, hsome']
    dsimp only
    rw [hr₁.atEnd_eq hkinds]
    split
    · rfl
    · exact congrArg Except.error (rejection_abreast hr₁)

/-- **Parses side by side.**  Let two grammars ask for the same, and let tokens have the same kinds
as far as the cursor of the one parse comes.  Then the other parse has a tree if that one has, and
else the same error but for the token that stands at its index. -/
theorem parseTokens_abreast (hg : g.Relabelled g') (hkinds : SameKinds limit tokens tokens')
    {root : String} {options options' : ParseOptions}
    (hdepth : options'.maxDepth = options.maxDepth)
    (hupTo : UpTo limit (g.moments root tokens options)) :
    ((g'.parseTokens root tokens' options').1.map fun _ => ()) =
      ((g.parseTokens root tokens options).1.map fun _ => ()).mapError
        (ParseFailure.reread tokens') := by
  have hstart : (Run.start tokens).Abreast limit tokens tokens' 0 0 (.start tokens') :=
    ⟨⟨rfl, rfl, Nat.zero_le _, rfl, by rintro f ⟨⟩⟩, ⟨rfl, rfl, Nat.zero_le _, rfl, by rintro f ⟨⟩⟩,
      rfl, Nat.zero_le _⟩
  have halts := hg.alternatives root
  rw [moments, UpTo, List.forall_mem_cons] at hupTo
  obtain ⟨-, hupTo⟩ := hupTo
  rw [parseTokens, parseTokens, hdepth]
  cases hrules : g.alternativesOf root with
  | nil =>
    rw [hrules, List.forall₂_nil_left_iff] at halts
    rw [hrules] at hupTo
    dsimp only at hupTo ⊢
    rw [halts, hg.isTokenKind_eq]
    dsimp only
    split at hupTo
    · next hkind =>
      rw [if_pos hkind, if_pos hkind]
      refine matchToken_abreast hkinds hstart fun t c htry => ?_
      rw [show (Context.start tokens).tryToken root = _ from htry] at hupTo
      exact hupTo c (List.mem_singleton_self c)
    · next hkind =>
      rw [if_neg hkind, if_neg hkind]
      rfl
  | cons rule rules =>
    -- the other grammar has as many alternatives, and the search through them ends alike
    rw [hrules] at halts hupTo
    obtain ⟨rule', rules', -, -, hrules'⟩ := List.forall₂_cons_left_iff.1 halts
    rw [hrules'] at halts ⊢
    obtain ⟨hresult, depth, i, hr⟩ := matchRoot_abreast hg hkinds options.verbose options'.verbose
      (min options.maxDepth.toNat depthCeiling) root halts hstart hupTo
    dsimp only
    generalize g.matchRoot _ _ root (rule :: rules) _ = run at hresult hr ⊢
    generalize g'.matchRoot _ _ root (rule' :: rules') _ = run' at hresult hr ⊢
    obtain ⟨result, r⟩ := run
    obtain ⟨result', r'⟩ := run'
    cases result with
    | ok n => cases result' with
      | ok n' => rfl
      | error e => cases hresult
    | error e => cases result' with
      | ok n' => cases hresult
      | error e' =>
        cases hresult
        cases e with
        | none => exact congrArg Except.error (rejection_abreast hr)
        | some abort => exact congrArg Except.error (abortError_abreast hr _ abort)

end Grammar

end OrderedGrammar
