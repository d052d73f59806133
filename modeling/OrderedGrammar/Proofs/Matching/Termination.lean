import OrderedGrammar.Proofs.Matching.Nesting
import OrderedGrammar.Proofs.Matching.Restoration

/-!
# Matching comes to an end

Neither the search (`Machine.step`) nor the rounds of a symbol (`Symbol.Loop`) have a bound in
themselves: the one goes on while there is something to do, the others while the symbol is
repeatable and the last round has taken a token.  Both come to an end all the same.  A search
ends or opens a frame when as many are open as the limit allows, even if alternatives begin with
their own names or match nothing.  A symbol makes one round at most for each token that is left, and
one more (`Grammar.parseTokens_stops`).

## Main definitions

* `Symbol.Loop`, `Symbol.Call` : the rounds that are made for a symbol, and how they end.
* `Advancing` : each round but the last takes a token.
* `Grammar.StopsWith` : what a parse comes to when its search stops.
-/

namespace OrderedGrammar

/-! ### The rounds of a symbol -/

/-- The rounds that are made for a symbol from a state on, and how they end.  The symbol was begun
at `start`, and a round has been made before if `again`.  Each round that matches is listed with the
indices in front of it and behind it. -/
inductive Symbol.Loop (attempt : Run → Outcome Tree) (s : Symbol) (start : ℕ) :
    Bool → Run → List (ℕ × ℕ) → Outcome Unit → Prop
  /-- There is no round. -/
  | missed {r r' : Run} : attempt r = .failed r' →
      Loop attempt s start false r []
        (if s.optional then .matched () (r'.seek start) else .failed (r'.seek start))
  /-- There is no further round. -/
  | stop {r r' : Run} : attempt r = .failed r' → Loop attempt s start true r [] (.matched () r')
  | aborted {again : Bool} {r r' : Run} {e : Abort} : attempt r = .aborted e r' →
      Loop attempt s start again r [] (.aborted e r')
  /-- What has matched cannot be kept. -/
  | lost {again : Bool} {r r' r'' : Run} {value : Tree} {e : Abort} :
      attempt r = .matched value r' → r'.store s value (.matched ()) = .aborted e r'' →
      Loop attempt s start again r [(r.index, r'.index)] (.aborted e r'')
  /-- A round is the last one if the symbol is not repeatable, or if it has taken no token. -/
  | last {again : Bool} {r r' r'' : Run} {value : Tree} :
      attempt r = .matched value r' → r'.store s value (.matched ()) = .matched () r'' →
      ¬(s.repeatable ∧ r''.index ≠ r.index) →
      Loop attempt s start again r [(r.index, r'.index)] (.matched () r'')
  | next {again : Bool} {r r' r'' : Run} {value : Tree} {rounds : List (ℕ × ℕ)}
      {res : Outcome Unit} :
      attempt r = .matched value r' → r'.store s value (.matched ()) = .matched () r'' →
      s.repeatable → r''.index ≠ r.index → Loop attempt s start true r'' rounds res →
      Loop attempt s start again r ((r.index, r'.index) :: rounds) res

/-- The rounds of an attempt at a symbol, and how it ends.  Behind the last token none is made for
an optional symbol. -/
inductive Symbol.Call (attempt : String → Run → Outcome Tree) (s : Symbol) (r : Run) :
    List (ℕ × ℕ) → Outcome Unit → Prop
  | atEnd : s.optional → r.context.atEnd → Call attempt s r [] (.matched () r)
  | loop {rounds : List (ℕ × ℕ)} {res : Outcome Unit} : ¬(s.optional ∧ r.context.atEnd) →
      s.Loop (attempt s.name) r.index false r rounds res → Call attempt s r rounds res

/-- Rounds that follow each other from an index on, within `size` tokens.  Each of them but the last
takes a token. -/
inductive Advancing (size : ℕ) : ℕ → List (ℕ × ℕ) → Prop
  | nil {i : ℕ} : Advancing size i []
  | last {i j : ℕ} : i ≤ j → j ≤ size → Advancing size i [(i, j)]
  | cons {i j : ℕ} {rounds : List (ℕ × ℕ)} : i < j → j ≤ size → Advancing size j rounds →
      Advancing size i ((i, j) :: rounds)

namespace Advancing

variable {size i : ℕ} {rounds : List (ℕ × ℕ)}

theorem length_le (h : Advancing size i rounds) : rounds.length ≤ size - i + 1 := by
  induction h with
  | nil => exact Nat.zero_le _
  | last _ _ => exact Nat.le_add_left 1 _
  | cons hlt hle _ ih =>
    rw [List.length_cons]
    omega

theorem lt_of_mem_dropLast (h : Advancing size i rounds) :
    ∀ round ∈ rounds.dropLast, round.1 < round.2 := by
  induction h with
  | nil => simp
  | last _ _ => simp
  | @cons i j rounds hlt _ _ ih =>
    cases rounds with
    | nil => simp
    | cons round rounds =>
      rw [List.dropLast_cons_cons]
      exact List.forall_mem_cons.2 ⟨hlt, ih⟩

end Advancing

/-- The run is within the tokens, at any index. -/
structure Run.Among (r : Run) (tokens : Array Token) : Prop where
  tokens_eq : r.context.tokens = tokens
  index_le : r.index ≤ tokens.size

/-- An attempt that matches does not go back, and stays within the tokens. -/
def Advances (tokens : Array Token) (attempt : Run → Outcome Tree) : Prop :=
  ∀ r value r', r.Among tokens → attempt r = .matched value r' →
    r.index ≤ r'.index ∧ r'.Among tokens

theorem advances_attempt (g : Grammar) (verbose : Bool) (budget : ℕ) (tokens : Array Token)
    (name : String) : Advances tokens (attempt g (matchRule g verbose budget) name) := by
  intro r value r' hr hmatched
  have hwithin : r.context.Within := by
    rw [Context.Within, hr.tokens_eq]
    exact hr.index_le
  have hleaves := attempt_leaves g (matchRule_leaves g verbose budget) name r
  have hpath := attempt_path g (matchRule_path g verbose budget) name r hwithin
  rw [hmatched] at hleaves hpath
  have htokens : r'.context.tokens = tokens := hpath.tokens_eq.trans hr.tokens_eq
  exact ⟨hleaves.1, htokens, htokens ▸ hpath.within hwithin⟩

section Loops

variable {tokens : Array Token} {attempt : Run → Outcome Tree} {s : Symbol} {start fuel : ℕ}
  {again : Bool} {r : Run} {rounds : List (ℕ × ℕ)} {res : Outcome Unit}

/-- Keeping a match does not move the cursor. -/
theorem Run.Among.store (hr : r.Among tokens) (s : Symbol) (value : Tree) :
    (∃ r', r'.Among tokens ∧ r'.index = r.index ∧
      ∀ next : Run → Outcome Unit, r.store s value next = next r') ∨
    ∃ e, ∀ next : Run → Outcome Unit, r.store s value next = .aborted e r := by
  by_cases hs : s.ignored
  · refine .inl ⟨r, hr, rfl, fun next => ?_⟩
    rw [Run.store, if_pos hs]
  · cases hstore : r.context.store s.label value with
    | error e =>
      refine .inr ⟨.context e, fun next => ?_⟩
      rw [Run.store, if_neg hs, hstore]
    | ok c =>
      obtain ⟨f, f', rest, -, rfl⟩ := Context.exists_of_store hstore
      refine .inl ⟨{ r with context := { r.context with frames := f' :: rest } },
        ⟨hr.tokens_eq, hr.index_le⟩, rfl, fun next => ?_⟩
      rw [Run.store, if_neg hs, hstore]

/-- **Every round but the last takes a token.** -/
theorem Symbol.Loop.advancing (h : s.Loop attempt start again r rounds res)
    (hattempt : Advances tokens attempt) (hr : r.Among tokens) :
    Advancing tokens.size r.index rounds := by
  induction h with
  | missed _ => exact .nil
  | stop _ => exact .nil
  | aborted _ => exact .nil
  | lost hmatched _ =>
    obtain ⟨hle, hr'⟩ := hattempt _ _ _ hr hmatched
    exact .last hle hr'.index_le
  | last hmatched _ _ =>
    obtain ⟨hle, hr'⟩ := hattempt _ _ _ hr hmatched
    exact .last hle hr'.index_le
  | @next again r r' r'' value rounds res hmatched hstore _ hne _ ih =>
    obtain ⟨hle, hr'⟩ := hattempt _ _ _ hr hmatched
    rcases hr'.store s value with ⟨r₁, hr₁, hindex, hkept⟩ | ⟨e, hlost⟩
    · obtain rfl : r₁ = r'' := by
        rw [hkept] at hstore
        cases hstore
        rfl
      rw [hindex] at hne
      exact .cons (lt_of_le_of_ne hle hne.symm) hr'.index_le (hindex ▸ ih hr₁)
    · rw [hlost] at hstore
      cases hstore

/-- The further rounds of a repeatable symbol come to an end before they are more than the tokens
that are left. -/
theorem furtherRounds_loop (hattempt : Advances tokens attempt) (hrepeatable : s.repeatable)
    (start fuel : ℕ) : ∀ {r : Run}, r.Among tokens → tokens.size - r.index < fuel →
    ∃ rounds, s.Loop attempt start true r rounds (furtherRounds attempt s fuel r) := by
  induction fuel with
  | zero =>
    intro r _ hfuel
    exact absurd hfuel (Nat.not_lt_zero _)
  | succ fuel ih =>
    intro r hr hfuel
    rw [furtherRounds]
    cases hres : attempt r with
    | failed r' => exact ⟨_, .stop hres⟩
    | aborted e r' => exact ⟨_, .aborted hres⟩
    | matched value r' =>
      obtain ⟨hle, hr'⟩ := hattempt _ _ _ hr hres
      dsimp only
      rcases hr'.store s value with ⟨r'', hr'', hindex, hkept⟩ | ⟨e, hlost⟩
      · rw [hkept]
        by_cases hstill : r''.index = r.index
        · rw [if_pos hstill]
          exact ⟨_, .last hres (hkept _) fun h => h.2 hstill⟩
        · -- a token has been taken, so that less fuel is enough for what is left
          rw [if_neg hstill]
          have hless : tokens.size - r''.index < fuel := by
            have := hr'.index_le
            omega
          obtain ⟨rounds, hrounds⟩ := ih hr'' hless
          exact ⟨_, .next hres (hkept _) hrepeatable hstill hrounds⟩
      · rw [hlost]
        exact ⟨_, .lost hres (hlost _)⟩

end Loops

/-- An attempt at a symbol comes to an end as its rounds do. -/
theorem matchSymbol_call {tokens : Array Token} {attempt : String → Run → Outcome Tree}
    (s : Symbol) (hattempt : Advances tokens (attempt s.name)) {r : Run} (hr : r.Among tokens) :
    ∃ rounds, s.Call attempt r rounds (matchSymbol attempt s r) := by
  rw [matchSymbol]
  by_cases hend : s.optional ∧ r.context.atEnd
  · rw [if_pos (by simp [hend])]
    exact ⟨_, .atEnd hend.1 hend.2⟩
  rw [if_neg (by simpa using hend)]
  cases hres : attempt s.name r with
  | failed r' => exact ⟨_, .loop hend (.missed hres)⟩
  | aborted e r' => exact ⟨_, .loop hend (.aborted hres)⟩
  | matched value r' =>
    obtain ⟨hle, hr'⟩ := hattempt _ _ _ hr hres
    dsimp only
    rcases hr'.store s value with ⟨r'', hr'', hindex, hkept⟩ | ⟨e, hlost⟩
    · rw [hkept]
      by_cases hagain : s.repeatable ∧ r''.index ≠ r.index
      · rw [if_pos (by simpa using hagain)]
        have hfuel : tokens.size - r''.index < r.context.tokens.size - r.index := by
          have := hr'.index_le
          rw [hr.tokens_eq]
          omega
        obtain ⟨rounds, hrounds⟩ := furtherRounds_loop hattempt hagain.1 r.index _ hr'' hfuel
        exact ⟨_, .loop hend (.next hres (hkept _) hagain.1 hagain.2 hrounds)⟩
      · rw [if_neg (by simpa using hagain)]
        exact ⟨_, .loop hend (.last hres (hkept _) hagain)⟩
    · rw [hlost]
      exact ⟨_, .loop hend (.lost hres (hlost _))⟩

theorem Symbol.Call.advancing {tokens : Array Token} {attempt : String → Run → Outcome Tree}
    {s : Symbol} {r : Run} {rounds : List (ℕ × ℕ)} {res : Outcome Unit}
    (h : s.Call attempt r rounds res) (hattempt : Advances tokens (attempt s.name))
    (hr : r.Among tokens) : Advancing tokens.size r.index rounds := by
  cases h with
  | atEnd _ _ => exact .nil
  | loop _ hloop => exact hloop.advancing hattempt hr

/-! ### The search -/

namespace Grammar

/-- What a parse comes to when its search has ended, or is to open a frame while as many are open as
the limit allows. -/
inductive StopsWith (limit : ℤ) : Machine → Except ParseError Node → Prop
  | ended {m : Machine} {result : Except ParseError Node} : EndsWith m result →
      StopsWith limit m result
  | opens {m : Machine} : m.Opens limit.toNat →
      StopsWith limit m (.error (.tooDeep limit m.context.index m.context.peek))

theorem exists_stopsWith (g : Grammar) (root : String) (tokens : Array Token)
    (options : ParseOptions) : ∃ n,
    StopsWith options.maxDepth (.after g root tokens n) (g.parseWithin root tokens options) ∧
      ∀ k < n, ¬(Machine.after g root tokens k).Opens options.maxDepth.toNat := by
  rcases parseWithin_cases g root tokens options with
    ⟨⟨n, hends⟩, hnever⟩ | ⟨n, hopens, hbefore, heq⟩
  · exact ⟨n, .ended hends, fun k _ => hnever k⟩
  · exact ⟨n, heq ▸ .opens hopens, hbefore⟩

/-- **Matching always terminates.**  After finitely many steps the search has ended or is for the
first time to nest deeper than the limit, and a parse comes to what the search then gives, if it
does not come to the ceiling.  In every state of a parse, an attempt at a symbol comes to an end
after finitely many rounds; these are at most one more than the tokens that are left, and each but
the last takes a token. -/
theorem parseTokens_stops (g : Grammar) (root : String) (tokens : Array Token)
    (options : ParseOptions) :
    (∃ n result, StopsWith options.maxDepth (.after g root tokens n) result ∧
      (∀ k < n, ¬(Machine.after g root tokens k).Opens options.maxDepth.toNat) ∧
      (g.alternativesOf root ≠ [] →
        (g.parseTokens root tokens options).1 = result.mapError .parse ∨
          depthCeiling < options.maxDepth ∧
            ∃ i t, (g.parseTokens root tokens options).1 = .error (.parse (.exhausted i t)))) ∧
    ∀ c ∈ g.moments root tokens options,
      ∀ (s : Symbol) (verbose : Bool) (budget : ℕ) (trace : List TraceLine),
      (∃ rounds, s.Call (attempt g (matchRule g verbose budget)) ⟨c, trace⟩ rounds
        (matchSymbol (attempt g (matchRule g verbose budget)) s ⟨c, trace⟩)) ∧
      ∀ rounds res, s.Call (attempt g (matchRule g verbose budget)) ⟨c, trace⟩ rounds res →
        rounds.length ≤ tokens.size - c.index + 1 ∧
          ∀ round ∈ rounds.dropLast, round.1 < round.2 := by
  constructor
  · obtain ⟨n, hstops, hbefore⟩ := exists_stopsWith g root tokens options
    exact ⟨n, _, hstops, hbefore, parseTokens_eq_parseWithin⟩
  · intro c hc s verbose budget trace
    obtain ⟨before, behind, hmoments⟩ := List.mem_iff_append.1 hc
    have hprefix : before ++ [c] <+: g.moments root tokens options :=
      ⟨behind, by rw [hmoments, List.append_assoc, List.singleton_append]⟩
    obtain ⟨htokens, hwithin, -⟩ := of_moment hprefix
    have hr : (Run.mk c trace).Among tokens := ⟨htokens, htokens ▸ hwithin⟩
    have hattempt := advances_attempt g verbose budget tokens s.name
    refine ⟨matchSymbol_call s hattempt hr, fun rounds res hcall => ?_⟩
    have hadvancing := hcall.advancing hattempt hr
    exact ⟨hadvancing.length_le, hadvancing.lt_of_mem_dropLast⟩

/-- In the frame of the first alternative, two tokens are taken in two rounds. -/
theorem nestedPairs_stops : ∃ c ∈ nestedPairs.moments "pair"
    #[⟨"A", "(", 0⟩, ⟨"A", "(", 1⟩] ⟨3, false⟩, c.index = 0 ∧ c.frames.length = 1 ∧
    ∃ rounds, (Symbol.ofModifier "A" .oneOrMore none).Call
        (attempt nestedPairs (matchRule nestedPairs false 2)) ⟨c, []⟩ rounds
        (matchSymbol (attempt nestedPairs (matchRule nestedPairs false 2))
          (Symbol.ofModifier "A" .oneOrMore none) ⟨c, []⟩) ∧
      rounds.length ≤ 3 ∧ ∀ round ∈ rounds.dropLast, round.1 < round.2 := by
  let moments := nestedPairs.moments "pair" #[⟨"A", "(", 0⟩, ⟨"A", "(", 1⟩] ⟨3, false⟩
  have hc : moments[2] ∈ moments := List.getElem_mem _
  obtain ⟨⟨rounds, hcall⟩, hall⟩ := (parseTokens_stops nestedPairs "pair"
    #[⟨"A", "(", 0⟩, ⟨"A", "(", 1⟩] ⟨3, false⟩).2 _ hc (Symbol.ofModifier "A" .oneOrMore none)
    false 2 []
  exact ⟨_, hc, rfl, rfl, rounds, hcall, hall rounds _ hcall⟩

end Grammar

end OrderedGrammar
