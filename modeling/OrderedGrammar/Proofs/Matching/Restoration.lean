import OrderedGrammar.Proofs.Matching.Moments

/-!
# Failed attempts leave no trace

An attempt that fails puts the cursor back and leaves every frame as it was, and one that matches
moves the cursor on and changes no frame but the innermost one of the caller
(`matchRule_leaves`, `matchSymbol_leaves`).  This holds in every state that a parse can be in, and
throughout the attempt the furthest index is the greatest cursor that the parse has had
(`Grammar.attempts_leave_no_trace`).
-/

namespace OrderedGrammar

/-- Whether frames differ in the innermost one at most. -/
structure SameBelow (frames frames' : List Frame) : Prop where
  length_eq : frames'.length = frames.length
  tail_eq : frames'.tail = frames.tail

namespace SameBelow

variable {frames frames' frames'' : List Frame}

theorem refl (frames : List Frame) : SameBelow frames frames := ⟨rfl, rfl⟩

theorem trans (h : SameBelow frames frames') (h' : SameBelow frames' frames'') :
    SameBelow frames frames'' :=
  ⟨h'.length_eq.trans h.length_eq, h'.tail_eq.trans h.tail_eq⟩

theorem cons (f f' : Frame) (frames : List Frame) : SameBelow (f :: frames) (f' :: frames) :=
  ⟨rfl, rfl⟩

theorem exists_cons {f : Frame} (h : SameBelow (f :: frames) frames') :
    ∃ f', frames' = f' :: frames := by
  cases frames' with
  | nil => cases h.length_eq
  | cons f' rest => exact ⟨f', by rw [← show rest = frames from h.tail_eq]⟩

end SameBelow

/-- What an attempt that is made at `c` leaves behind: if it matches, a cursor that has not gone
back, and frames of which `kept` holds; if it fails, the cursor and the frames of `c`. -/
def Outcome.Leaves {α : Type} (c : Context) (kept : List Frame → List Frame → Prop) :
    Outcome α → Prop
  | .matched _ r => c.index ≤ r.index ∧ kept c.frames r.context.frames
  | .failed r => r.index = c.index ∧ r.context.frames = c.frames
  | .aborted _ _ => True

/-- What an attempt at several symbols leaves behind.  When it fails, some of them may have
matched. -/
def Outcome.Stays (c : Context) : Outcome Unit → Prop
  | .matched _ r => c.index ≤ r.index ∧ SameBelow c.frames r.context.frames
  | .failed r => SameBelow c.frames r.context.frames
  | .aborted _ _ => True

/-- Every attempt at a name leaves all frames as they are. -/
def AttemptsRestore (attempt : String → Run → Outcome Tree) : Prop :=
  ∀ name r, (attempt name r).Leaves r.context Eq

/-- Every attempt at an alternative leaves all frames as they are. -/
def RulesRestore (matchOne : Rule → Run → Outcome Tree) : Prop :=
  ∀ rule r, (matchOne rule r).Leaves r.context Eq

section Functions

variable {c : Context} {r : Run} {attempt : String → Run → Outcome Tree}
  {matchOne : Rule → Run → Outcome Tree}

/-- Keeping a match changes the innermost frame only. -/
theorem Run.store_leaves {s : Symbol} {value : Tree} {next : Run → Outcome Unit}
    (hframes : SameBelow c.frames r.context.frames)
    (h : ∀ r' : Run, r'.index = r.index → SameBelow c.frames r'.context.frames →
      (next r').Leaves c SameBelow) : (r.store s value next).Leaves c SameBelow := by
  rw [Run.store]
  split
  · exact h r rfl hframes
  · cases hstore : r.context.store s.label value with
    | error e => trivial
    | ok c' =>
      obtain ⟨f, f', rest, hf, rfl⟩ := Context.exists_of_store hstore
      refine h _ rfl (hframes.trans ?_)
      rw [hf]
      exact .cons f f' rest

theorem furtherRounds_leaves (h : AttemptsRestore attempt) (s : Symbol) (fuel : ℕ) :
    ∀ {r : Run}, c.index ≤ r.index → SameBelow c.frames r.context.frames →
    (furtherRounds (attempt s.name) s fuel r).Leaves c SameBelow := by
  induction fuel with
  | zero => intro r hindex hframes; exact ⟨hindex, hframes⟩
  | succ fuel ih =>
    intro r hindex hframes
    have hatt := h s.name r
    rw [furtherRounds]
    cases hres : attempt s.name r with
    | matched value r' =>
      rw [hres] at hatt
      obtain ⟨hle, heq⟩ := hatt
      refine Run.store_leaves (heq ▸ hframes) fun r'' hr'' hframes'' => ?_
      have hindex'' : c.index ≤ r''.index := hr'' ▸ hindex.trans hle
      split
      · exact ⟨hindex'', hframes''⟩
      · exact ih hindex'' hframes''
    | failed r' =>
      -- the rounds before this one have matched, so that the symbol has
      rw [hres] at hatt
      exact ⟨hindex.trans hatt.1.ge, hatt.2 ▸ hframes⟩
    | aborted e r' => trivial

theorem matchSymbol_leaves (h : AttemptsRestore attempt) (s : Symbol) (r : Run) :
    (matchSymbol attempt s r).Leaves r.context SameBelow := by
  rw [matchSymbol]
  split
  · exact ⟨le_rfl, .refl _⟩
  have hatt := h s.name r
  cases hres : attempt s.name r with
  | matched value r' =>
    rw [hres] at hatt
    obtain ⟨hle, heq⟩ := hatt
    refine Run.store_leaves (heq ▸ .refl _) fun r'' hr'' hframes'' => ?_
    have hindex'' : r.context.index ≤ r''.index := hr'' ▸ hle
    split
    · exact furtherRounds_leaves h s _ hindex'' hframes''
    · exact ⟨hindex'', hframes''⟩
  | failed r' =>
    rw [hres] at hatt
    dsimp only
    split
    · exact ⟨le_rfl, hatt.2 ▸ .refl _⟩
    · exact ⟨rfl, hatt.2⟩
  | aborted e r' => trivial

theorem matchSymbols_stays (h : AttemptsRestore attempt) (symbols : List Symbol) :
    ∀ {r : Run}, c.index ≤ r.index → SameBelow c.frames r.context.frames →
    (matchSymbols attempt symbols r).Stays c := by
  induction symbols with
  | nil => intro r hindex hframes; exact ⟨hindex, hframes⟩
  | cons s symbols ih =>
    intro r hindex hframes
    have hsym := matchSymbol_leaves h s r
    rw [matchSymbols]
    cases hres : matchSymbol attempt s r with
    | matched _ r' =>
      rw [hres] at hsym
      exact ih (hindex.trans hsym.1) (hframes.trans hsym.2)
    | failed r' =>
      -- the symbols before this one may have stored their matches in the innermost frame
      rw [hres] at hsym
      exact (hsym.2 ▸ hframes : SameBelow c.frames r'.context.frames)
    | aborted e r' => trivial

theorem firstMatch_leaves (h : RulesRestore matchOne) (rules : List Rule) :
    ∀ {r : Run}, r.index = c.index → r.context.frames = c.frames →
    (firstMatch matchOne rules r).Leaves c Eq := by
  induction rules with
  | nil => intro r hindex hframes; exact ⟨hindex, hframes⟩
  | cons rule rules ih =>
    intro r hindex hframes
    have hone := h rule r
    rw [firstMatch]
    cases hres : matchOne rule r with
    | matched value r' =>
      rw [hres] at hone
      exact ⟨hindex ▸ hone.1, hframes ▸ hone.2⟩
    | failed r' =>
      rw [hres] at hone
      exact ih (hone.1.trans hindex) (hone.2.trans hframes)
    | aborted e r' => trivial

theorem attempt_leaves (g : Grammar) (h : RulesRestore matchOne) :
    AttemptsRestore (OrderedGrammar.attempt g matchOne) := by
  intro name r
  rw [OrderedGrammar.attempt]
  cases htry : r.context.tryToken name with
  | none => exact firstMatch_leaves h _ rfl rfl
  | some taken =>
    obtain ⟨t, c⟩ := taken
    obtain ⟨-, -, rfl⟩ := Context.exists_of_tryToken htry
    exact ⟨Nat.le_succ _, rfl⟩

/-- Behind the symbols of an alternative its own frame is the innermost one, and closing it leads
back to the frames of the caller. -/
theorem Run.pop_of_sameBelow {α : Type} {f : Frame} {frames : List Frame}
    (h : SameBelow (f :: frames) r.context.frames) (next : Frame → Run → Outcome α) :
    ∃ f', r.pop next = next f' { r with context := { r.context with frames } } := by
  obtain ⟨f', hf'⟩ := h.exists_cons
  refine ⟨f', ?_⟩
  simp only [Run.pop, Context.pop, hf']

end Functions

/-- An attempt at an alternative leaves all frames of its caller as they are, and puts the cursor
back if it fails. -/
theorem matchRule_leaves (g : Grammar) (verbose : Bool) (budget : ℕ) :
    RulesRestore (matchRule g verbose budget) := by
  induction budget with
  | zero => intro rule r; trivial
  | succ budget ih =>
    intro rule r
    have hentered : ((r.push rule).note verbose (.enter rule)).context = r.context.push rule :=
      Run.context_note _ _ _
    have hsyms := matchSymbols_stays (c := r.context.push rule) (attempt_leaves g ih) rule.symbols
      (r := (r.push rule).note verbose (.enter rule)) (by rw [Run.index, hentered])
      (hentered ▸ .refl _)
    rw [matchRule]
    cases hres : matchSymbols (attempt g (matchRule g verbose budget)) rule.symbols
        ((r.push rule).note verbose (.enter rule)) with
    | matched _ r' =>
      rw [hres] at hsyms
      obtain ⟨hindex, hframes⟩ := hsyms
      obtain ⟨f, hpop⟩ := Run.pop_of_sameBelow hframes fun frame r'' =>
        Outcome.matched frame.result (r''.note verbose (.succeed rule.name))
      dsimp only
      rw [hpop]
      refine ⟨?_, ?_⟩
      · rw [Run.index, Run.context_note]
        exact hindex
      · rw [Run.context_note]
    | failed r' =>
      -- whatever has been stored is in the frame that is closed
      rw [hres] at hsyms
      have hframes : SameBelow (r.context.push rule).frames
          ((r'.seek r.index).note verbose (.fail rule.name)).context.frames := by
        rw [Run.context_note]
        exact hsyms
      obtain ⟨f, hpop⟩ := Run.pop_of_sameBelow hframes fun _ r'' =>
        (.failed r'' : Outcome Tree)
      dsimp only
      rw [hpop]
      refine ⟨?_, rfl⟩
      simp only [Run.index, Run.context_note]
      rfl
    | aborted e r' => trivial

/-! ### In every state of a parse -/

/-- What there is to say of an attempt that a parse makes at `c`, the moments before that being
`before` and those of the attempt `moments`. -/
structure Outcome.Restores {α : Type} (before : List Context) (c : Context)
    (kept : List Frame → List Frame → Prop) (moments : List Context) (res : Outcome α) : Prop where
  leaves : res.Leaves c kept
  index_le : res.run.index ≤ c.tokens.size
  path : c.Path moments res.run.context
  furthest : Context.Furthest (before ++ [c] ++ moments)

namespace Grammar

variable {g : Grammar} {root : String} {tokens : Array Token} {options : ParseOptions}
  {before : List Context} {c : Context}

theorem of_moment (hc : before ++ [c] <+: g.moments root tokens options) :
    c.tokens = tokens ∧ c.Within ∧ Context.Furthest (before ++ [c]) := by
  obtain ⟨rest, last, hmoments, hpath, -⟩ := g.moments_path root tokens options
  have hfurthest : Context.Furthest ([] ++ [.start tokens] ++ rest) :=
    hpath.furthest (Context.furthest_start tokens)
  have hwithin : (Context.start tokens).Within := Nat.zero_le _
  have hall := List.forall_mem_cons.2 ⟨⟨rfl, hwithin⟩, hpath.of_mem hwithin⟩
  rw [hmoments] at hc
  obtain ⟨htokens, hwithin⟩ := hall c (hc.subset (by simp))
  exact ⟨htokens, hwithin, hfurthest.of_prefix hc⟩

/-- **Failed attempts leave no trace.**  In any state that a parse comes to, an attempt at any
alternative or symbol that fails puts the cursor back and leaves all frames as they are; one that
matches leaves the cursor between where it was and the end of the tokens, and changes the innermost
frame at most.  Throughout, the furthest index is the greatest cursor that the parse has had, and
never decreases. -/
theorem attempts_leave_no_trace (hc : before ++ [c] <+: g.moments root tokens options)
    (verbose : Bool) (budget : ℕ) (trace : List TraceLine) :
    c.tokens = tokens ∧
    (∀ rule, (matchRule g verbose budget rule ⟨c, trace⟩).Restores before c Eq
      (ruleMoments g verbose budget rule ⟨c, trace⟩)) ∧
    ∀ s, (matchSymbol (attempt g (matchRule g verbose budget)) s ⟨c, trace⟩).Restores before c
      SameBelow (symbolMoments (attempt g (matchRule g verbose budget))
        (attemptMoments g (matchRule g verbose budget) (ruleMoments g verbose budget)) s
        ⟨c, trace⟩) := by
  obtain ⟨htokens, hwithin, hfurthest⟩ := of_moment hc
  refine ⟨htokens, fun rule => ?_, fun s => ?_⟩
  · have hpath := matchRule_path g verbose budget rule ⟨c, trace⟩ hwithin
    exact ⟨matchRule_leaves g verbose budget rule _, hpath.tokens_eq ▸ hpath.within hwithin,
      hpath, hpath.furthest hfurthest⟩
  · have hpath := matchSymbol_path (attempt_path g (matchRule_path g verbose budget)) s
      (r := ⟨c, trace⟩) hwithin
    exact ⟨matchSymbol_leaves (attempt_leaves g (matchRule_leaves g verbose budget)) s _,
      hpath.tokens_eq ▸ hpath.within hwithin, hpath, hpath.furthest hfurthest⟩

/-- Behind the first of two opening tokens the pair inside fails at its end, when it has taken the
second one.  The frame that holds the first one is as it was. -/
theorem nestedPairs_restores : ∃ before c rule r,
    before ++ [c] <+: nestedPairs.moments "pair" #[⟨"A", "(", 0⟩, ⟨"A", "(", 1⟩] ⟨3, false⟩ ∧
      rule ∈ nestedPairs.alternativesOf "pair" ∧
      matchRule nestedPairs false 2 rule ⟨c, []⟩ = .failed r ∧
      c.index = 1 ∧ r.index = 1 ∧ r.context.best = 2 ∧ r.context.frames = c.frames := by
  let moments := nestedPairs.moments "pair" #[⟨"A", "(", 0⟩, ⟨"A", "(", 1⟩] ⟨3, false⟩
  have hc : moments.take 4 ++ [moments[4]] <+: moments := ⟨moments.drop 5, rfl⟩
  obtain ⟨rule, hrule⟩ : ∃ rule, nestedPairs.alternativesOf "pair" = [rule] := ⟨_, rfl⟩
  obtain ⟨r, hr, hbest⟩ : ∃ r, matchRule nestedPairs false 2 rule ⟨moments[4], []⟩ = .failed r ∧
      r.context.best = 2 := by
    obtain rfl := List.singleton_inj.1 hrule
    exact ⟨_, rfl, rfl⟩
  have hleaves := ((attempts_leave_no_trace hc false 2 []).2.1 rule).leaves
  rw [hr] at hleaves
  exact ⟨_, _, rule, r, hc, by simp [hrule], hr, rfl, hleaves.1, hbest, hleaves.2⟩

end Grammar

end OrderedGrammar
