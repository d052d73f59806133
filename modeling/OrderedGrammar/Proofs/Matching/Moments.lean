import Mathlib.Order.Bounds.Basic
import OrderedGrammar.Proofs.Matching.Acceptance

/-!
# The moments of a parse

A parse changes its state in small steps: it moves the cursor within the tokens, opens a frame,
closes one, or keeps a match in one (`Context.Step`).  The moments of a run are the states behind
all of these steps in their order.  Each is listed where the matcher makes the step, so that they
lead from the state in which a call is made to the one in which it ends (`matchRule_path`,
`Grammar.moments_path`).

At every moment the furthest index is the greatest cursor that there has been so far, and it never
decreases (`Context.Path.furthest`).

## Main definitions

* `Context.Step`, `Context.Path` : a step, and the states that steps lead through.
* `Context.Furthest` : what the furthest index is at every moment.
* `ruleMoments`, `symbolMoments` : the moments of an attempt at an alternative or at a symbol.
* `Grammar.moments` : the moments of a parse.
-/

namespace OrderedGrammar

namespace Context

/-- One step on the state of a parse. -/
inductive Step : Context → Context → Prop
  | seek {c : Context} {index : ℕ} : index ≤ c.tokens.size → Step c (c.seek index)
  | push {c : Context} {rule : Rule} : Step c (c.push rule)
  | pop {c c' : Context} {f : Frame} : c.pop = .ok (f, c') → Step c c'
  | store {c c' : Context} {label : String} {value : Tree} : c.store label value = .ok c' →
      Step c c'

/-- Steps lead from a state through others, the last of which is the one that they end in. -/
inductive Path : Context → List Context → Context → Prop
  | nil {c : Context} : Path c [] c
  | cons {c c' c'' : Context} {moments : List Context} : Step c c' → Path c' moments c'' →
      Path c (c' :: moments) c''

/-- Whether the cursor is within the tokens or right behind them. -/
def Within (c : Context) : Prop := c.index ≤ c.tokens.size

/-- The furthest index at every moment of a history: it is the greatest cursor up to then, and it
never decreases. -/
structure Furthest (history : List Context) : Prop where
  isGreatest : ∀ before c, before ++ [c] <+: history →
    IsGreatest {i | i ∈ (before ++ [c]).map Context.index} c.best
  mono : history.Pairwise fun c c' => c.best ≤ c'.best

variable {c c' c'' : Context} {moments moments' history : List Context}

/-! ### Steps -/

theorem exists_of_pop {f : Frame} (h : c.pop = .ok (f, c')) :
    ∃ rest, c.frames = f :: rest ∧ c' = { c with frames := rest } := by
  rw [pop] at h
  split at h
  · cases h
  · next rest hframes => cases h; exact ⟨_, hframes, rfl⟩

theorem exists_of_store {label : String} {value : Tree} (h : c.store label value = .ok c') :
    ∃ f f' rest, c.frames = f :: rest ∧ c' = { c with frames := f' :: rest } := by
  rw [store] at h
  split at h
  · cases h
  · next f rest hframes =>
    cases hstore : f.store label value with
    | error e => rw [hstore] at h; cases h
    | ok f' => rw [hstore] at h; cases h; exact ⟨f, f', rest, hframes, rfl⟩

/-- A step moves the cursor or changes the frames. -/
theorem Step.seek_or_frames (h : Step c c') :
    (∃ i ≤ c.tokens.size, c' = c.seek i) ∨ ∃ frames, c' = { c with frames := frames } := by
  cases h with
  | seek hi => exact .inl ⟨_, hi, rfl⟩
  | push => exact .inr ⟨_, rfl⟩
  | pop h =>
    obtain ⟨rest, -, rfl⟩ := exists_of_pop h
    exact .inr ⟨rest, rfl⟩
  | store h =>
    obtain ⟨f, f', rest, -, rfl⟩ := exists_of_store h
    exact .inr ⟨f' :: rest, rfl⟩

theorem Step.tokens_eq (h : Step c c') : c'.tokens = c.tokens := by
  rcases h.seek_or_frames with ⟨i, -, rfl⟩ | ⟨frames, rfl⟩ <;> rfl

theorem Step.within (h : Step c c') (hc : c.Within) : c'.Within := by
  rcases h.seek_or_frames with ⟨i, hi, rfl⟩ | ⟨frames, rfl⟩
  · exact hi
  · exact hc

theorem Step.best_eq (h : Step c c') (hc : c.index ≤ c.best) :
    c'.best = max c'.index c.best := by
  rcases h.seek_or_frames with ⟨i, -, rfl⟩ | ⟨frames, rfl⟩
  · exact max_comm _ _
  · exact (max_eq_right hc).symm

/-! ### Paths -/

theorem Path.append (h : Path c moments c') (h' : Path c' moments' c'') :
    Path c (moments ++ moments') c'' := by
  induction h with
  | nil => exact h'
  | cons hstep _ ih => exact .cons hstep (ih h')

theorem Path.tokens_eq (h : Path c moments c') : c'.tokens = c.tokens := by
  induction h with
  | nil => rfl
  | cons hstep _ ih => exact ih.trans hstep.tokens_eq

theorem Path.within (h : Path c moments c') (hc : c.Within) : c'.Within := by
  induction h with
  | nil => exact hc
  | cons hstep _ ih => exact ih (hstep.within hc)

theorem Path.of_mem (h : Path c moments c') (hc : c.Within) :
    ∀ m ∈ moments, m.tokens = c.tokens ∧ m.Within := by
  induction h with
  | nil => simp
  | cons hstep _ ih =>
    have hc' := hstep.within hc
    rw [← hstep.tokens_eq]
    exact List.forall_mem_cons.2 ⟨⟨rfl, hc'⟩, ih hc'⟩

/-! ### The furthest index -/

theorem furthest_start (tokens : Array Token) : Furthest [start tokens] := by
  refine ⟨fun before c h => ?_, List.pairwise_singleton _ _⟩
  rcases List.prefix_cons_iff.1 h with hnil | ⟨rest, heq, hrest⟩
  · simp at hnil
  · obtain rfl := List.prefix_nil.1 hrest
    obtain ⟨rfl, rfl⟩ : before = [] ∧ c = start tokens := by
      simpa [List.append_eq_cons_iff] using heq
    simp [start]

theorem Furthest.of_prefix (h : Furthest history) (hle : moments <+: history) :
    Furthest moments :=
  ⟨fun before c hc => h.isGreatest before c (hc.trans hle), h.mono.sublist hle.sublist⟩

/-- A step keeps the furthest index the greatest cursor. -/
theorem Furthest.step (h : Furthest (history ++ [c])) (hstep : Step c c') :
    Furthest (history ++ [c] ++ [c']) := by
  have hc := h.isGreatest history c List.prefix_rfl
  have hindex : c.index ≤ c.best := hc.2 (by simp)
  have hbest := hstep.best_eq hindex
  constructor
  · intro before d hd
    -- the whole history is the only one that is not looked at already
    rcases List.prefix_concat_iff.1 hd with heq | hearlier
    · obtain ⟨rfl, hlast⟩ := List.append_inj' heq rfl
      obtain rfl := List.singleton_inj.1 hlast
      have hset : {i | i ∈ (history ++ [c] ++ [d]).map Context.index} =
          insert d.index {i | i ∈ (history ++ [c]).map Context.index} := by
        ext i
        rw [Set.mem_ofPred_eq, List.map_append, List.mem_append, or_comm, List.map_singleton,
          List.mem_singleton]
        exact Iff.rfl
      rw [hset, hbest]
      exact hc.insert _
    · exact h.isGreatest before d hearlier
  · refine List.pairwise_append.2 ⟨h.mono, List.pairwise_singleton _ _, fun d hd e he => ?_⟩
    obtain rfl := List.mem_singleton.1 he
    have hle : c.best ≤ e.best := hbest ▸ le_max_right _ _
    rcases List.mem_append.1 hd with hd | hd
    · exact ((List.pairwise_append.1 h.mono).2.2 d hd c (by simp)).trans hle
    · rwa [List.mem_singleton.1 hd]

/-- **The furthest index is the greatest cursor so far**, at every moment that steps lead
through. -/
theorem Path.furthest (h : Path c moments c') : ∀ {history}, Furthest (history ++ [c]) →
    Furthest (history ++ [c] ++ moments) := by
  induction h with
  | nil => intro history hc; rwa [List.append_nil]
  | cons hstep _ ih =>
    intro history hc
    rw [List.append_cons]
    exact ih (hc.step hstep)

theorem Path.best_le (h : Path c moments c') (hc : c.index ≤ c.best) :
    c.best ≤ c'.best ∧ c'.index ≤ c'.best := by
  induction h with
  | nil => exact ⟨le_rfl, hc⟩
  | cons hstep _ ih =>
    have hbest := hstep.best_eq hc
    obtain ⟨hle, hindex⟩ := ih (by omega)
    exact ⟨by omega, hindex⟩

theorem Path.index_le_of_mem (h : Path c moments c') (hc : c.index ≤ c.best) :
    ∀ m ∈ moments, m.index ≤ c'.best := by
  induction h with
  | nil => simp
  | cons hstep hrest ih =>
    have hbest := hstep.best_eq hc
    have hindex := hrest.best_le (by omega)
    exact List.forall_mem_cons.2 ⟨by omega, ih (by omega)⟩

end Context

/-! ### The moments of the matcher -/

/-- The state in which an attempt ends. -/
def Outcome.run {α : Type} : Outcome α → Run
  | .matched _ r => r
  | .failed r => r
  | .aborted _ r => r

namespace Run

/-- The moment at which the innermost frame has been closed. -/
def popMoments (r : Run) : List Context :=
  match r.context.pop with
  | .ok (_, c) => [c]
  | .error _ => []

/-- The moment at which a match has been kept, if it is, and those behind it. -/
def storeMoments (r : Run) (s : Symbol) (value : Tree) (next : Run → List Context) :
    List Context :=
  if s.ignored then next r
  else
    match r.context.store s.label value with
    | .ok c => c :: next { r with context := c }
    | .error _ => []

end Run

/-- The moments of the further rounds of a repeatable symbol. -/
def roundsMoments (attempt : Run → Outcome Tree) (moments : Run → List Context) (s : Symbol) :
    ℕ → Run → List Context
  | 0, _ => []
  | fuel + 1, r =>
    moments r ++
      match attempt r with
      | .matched value r' =>
        r'.storeMoments s value fun r'' =>
          if r''.index = r.index then [] else roundsMoments attempt moments s fuel r''
      | .failed _ => []
      | .aborted _ _ => []

/-- The moments of an attempt at a symbol. -/
def symbolMoments (attempt : String → Run → Outcome Tree) (moments : String → Run → List Context)
    (s : Symbol) (r : Run) : List Context :=
  if s.optional && r.context.atEnd then []
  else
    moments s.name r ++
      match attempt s.name r with
      | .matched value r' =>
        r'.storeMoments s value fun r'' =>
          if s.repeatable && r''.index ≠ r.index then
            roundsMoments (attempt s.name) (moments s.name) s (r.context.tokens.size - r.index) r''
          else []
      | .failed r' => [(r'.seek r.index).context]
      | .aborted _ _ => []

/-- The moments of an attempt at symbols one after the other. -/
def symbolsMoments (attempt : String → Run → Outcome Tree)
    (moments : String → Run → List Context) : List Symbol → Run → List Context
  | [], _ => []
  | s :: rest, r =>
    symbolMoments attempt moments s r ++
      match matchSymbol attempt s r with
      | .matched () r' => symbolsMoments attempt moments rest r'
      | .failed _ => []
      | .aborted _ _ => []

/-- The moments of the search for an alternative that matches. -/
def firstMatchMoments (matchOne : Rule → Run → Outcome Tree) (moments : Rule → Run → List Context) :
    List Rule → Run → List Context
  | [], _ => []
  | rule :: rest, r =>
    moments rule r ++
      match matchOne rule r with
      | .matched _ _ => []
      | .failed r' => firstMatchMoments matchOne moments rest r'
      | .aborted _ _ => []

/-- The moments of an attempt at a name. -/
def attemptMoments (g : Grammar) (matchOne : Rule → Run → Outcome Tree)
    (moments : Rule → Run → List Context) (name : String) (r : Run) : List Context :=
  match r.context.tryToken name with
  | some (_, c) => [c]
  | none => firstMatchMoments matchOne moments (g.alternativesOf name) r

/-- The moments of an attempt at an alternative. -/
def ruleMoments (g : Grammar) (verbose : Bool) : ℕ → Rule → Run → List Context
  | 0, _, _ => []
  | budget + 1, rule, r =>
    let entered := (r.push rule).note verbose (.enter rule)
    let inner := attempt g (matchRule g verbose budget)
    let moments := attemptMoments g (matchRule g verbose budget) (ruleMoments g verbose budget)
    entered.context :: (symbolsMoments inner moments rule.symbols entered ++
      match matchSymbols inner rule.symbols entered with
      | .matched () r' => r'.popMoments
      | .failed r' => (r'.seek r.index).context :: (r'.seek r.index).popMoments
      | .aborted _ _ => [])

namespace Grammar

/-- The moments of the search for an alternative of the root that matches all tokens. -/
def rootMoments (g : Grammar) (verbose : Bool) (budget : ℕ) : List Rule → Run → List Context
  | [], _ => []
  | rule :: rest, r =>
    (r.seek 0).context :: (ruleMoments g verbose budget rule (r.seek 0) ++
      match matchRule g verbose budget rule (r.seek 0) with
      | .matched _ r' => if r'.context.atEnd then [] else rootMoments g verbose budget rest r'
      | .failed r' => rootMoments g verbose budget rest r'
      | .aborted _ _ => [])

/-- The moments of a parse, from its start on. -/
def moments (g : Grammar) (root : String) (tokens : Array Token) (options : ParseOptions) :
    List Context :=
  .start tokens ::
    match g.alternativesOf root with
    | [] =>
      if g.isTokenKind root then
        match (Context.start tokens).tryToken root with
        | some (_, c) => [c]
        | none => []
      else []
    | rules => g.rootMoments options.verbose options.budget rules (.start tokens)

end Grammar

/-! ### The moments lead through a run -/

section Paths

open Context

variable {α : Type} {r : Run}

@[simp] theorem Run.context_note (r : Run) (verbose : Bool) (event : TraceEvent) :
    (r.note verbose event).context = r.context := by
  unfold Run.note
  split <;> rfl

theorem Run.pop_path {next : Frame → Run → Outcome α}
    (h : ∀ f r', (next f r').run.context = r'.context) :
    r.context.Path r.popMoments (r.pop next).run.context := by
  rw [popMoments, Run.pop]
  cases hpop : r.context.pop with
  | error e => exact .nil
  | ok popped =>
    obtain ⟨f, c⟩ := popped
    dsimp only
    rw [h]
    exact .cons (.pop hpop) .nil

theorem Run.store_path {s : Symbol} {value : Tree} {next : Run → Outcome α}
    {moments : Run → List Context} (hr : r.context.Within)
    (h : ∀ r' : Run, r'.context.Within → r'.context.Path (moments r') (next r').run.context) :
    r.context.Path (r.storeMoments s value moments) (r.store s value next).run.context := by
  rw [storeMoments, Run.store]
  split
  · exact h r hr
  · cases hstore : r.context.store s.label value with
    | error e => exact .nil
    | ok c =>
      have hc : c.Within := (Step.store hstore).within hr
      exact .cons (.store hstore) (h { r with context := c } hc)

/-- The moments of every attempt at a name lead through it. -/
def AttemptsPass (attempt : String → Run → Outcome Tree) (moments : String → Run → List Context) :
    Prop :=
  ∀ name (r : Run), r.context.Within → r.context.Path (moments name r) (attempt name r).run.context

/-- The moments of every attempt at an alternative lead through it. -/
def RulesPass (matchOne : Rule → Run → Outcome Tree) (moments : Rule → Run → List Context) :
    Prop :=
  ∀ rule (r : Run), r.context.Within → r.context.Path (moments rule r) (matchOne rule r).run.context

variable {attempt : String → Run → Outcome Tree} {moments : String → Run → List Context}

theorem furtherRounds_path (h : AttemptsPass attempt moments) (s : Symbol) (fuel : ℕ) :
    ∀ {r : Run}, r.context.Within →
    r.context.Path (roundsMoments (attempt s.name) (moments s.name) s fuel r)
      (furtherRounds (attempt s.name) s fuel r).run.context := by
  induction fuel with
  | zero => intro r _; exact .nil
  | succ fuel ih =>
    intro r hr
    have hatt := h s.name r hr
    rw [furtherRounds, roundsMoments]
    cases hres : attempt s.name r with
    | matched value r' =>
      rw [hres] at hatt
      refine hatt.append (Run.store_path (hatt.within hr) fun r'' hr'' => ?_)
      split
      · exact .nil
      · exact ih hr''
    | failed r' => rw [hres] at hatt; exact hatt.append .nil
    | aborted e r' => rw [hres] at hatt; exact hatt.append .nil

theorem matchSymbol_path (h : AttemptsPass attempt moments) (s : Symbol)
    (hr : r.context.Within) :
    r.context.Path (symbolMoments attempt moments s r) (matchSymbol attempt s r).run.context := by
  rw [matchSymbol, symbolMoments]
  split
  · exact .nil
  have hatt := h s.name r hr
  cases hres : attempt s.name r with
  | matched value r' =>
    rw [hres] at hatt
    refine hatt.append (Run.store_path (hatt.within hr) fun r'' hr'' => ?_)
    split
    · exact furtherRounds_path h s _ hr''
    · exact .nil
  | failed r' =>
    rw [hres] at hatt
    have hback : r'.context.Step (r'.context.seek r.index) :=
      .seek (hatt.tokens_eq ▸ hr)
    refine hatt.append (.cons hback ?_)
    dsimp only
    split <;> exact .nil
  | aborted e r' => rw [hres] at hatt; exact hatt.append .nil

theorem matchSymbols_path (h : AttemptsPass attempt moments) (symbols : List Symbol) :
    ∀ {r : Run}, r.context.Within →
    r.context.Path (symbolsMoments attempt moments symbols r)
      (matchSymbols attempt symbols r).run.context := by
  induction symbols with
  | nil => intro r _; exact .nil
  | cons s symbols ih =>
    intro r hr
    have hsym := matchSymbol_path h s hr
    rw [matchSymbols, symbolsMoments]
    cases hres : matchSymbol attempt s r with
    | matched _ r' => rw [hres] at hsym; exact hsym.append (ih (hsym.within hr))
    | failed r' => rw [hres] at hsym; exact hsym.append .nil
    | aborted e r' => rw [hres] at hsym; exact hsym.append .nil

variable {matchOne : Rule → Run → Outcome Tree} {ruleMoments : Rule → Run → List Context}

theorem firstMatch_path (h : RulesPass matchOne ruleMoments) (rules : List Rule) :
    ∀ {r : Run}, r.context.Within →
    r.context.Path (firstMatchMoments matchOne ruleMoments rules r)
      (firstMatch matchOne rules r).run.context := by
  induction rules with
  | nil => intro r _; exact .nil
  | cons rule rules ih =>
    intro r hr
    have hone := h rule r hr
    rw [firstMatch, firstMatchMoments]
    cases hres : matchOne rule r with
    | matched value r' => rw [hres] at hone; exact hone.append .nil
    | failed r' => rw [hres] at hone; exact hone.append (ih (hone.within hr))
    | aborted e r' => rw [hres] at hone; exact hone.append .nil

theorem Context.exists_of_tryToken {c c' : Context} {kind : String} {t : Token}
    (h : c.tryToken kind = some (t, c')) :
    c.tokens[c.index]? = some t ∧ t.kind = kind ∧ c' = c.seek (c.index + 1) := by
  rw [Context.tryToken, Context.peek, Context.tokenAt] at h
  split at h
  · cases h
  · next ht =>
    split at h
    · next hkind => cases h; exact ⟨ht, hkind, rfl⟩
    · cases h

theorem Context.step_of_tryToken {c c' : Context} {kind : String} {t : Token}
    (h : c.tryToken kind = some (t, c')) : c.Step c' := by
  obtain ⟨ht, -, rfl⟩ := exists_of_tryToken h
  obtain ⟨hlt, -⟩ := Array.getElem?_eq_some_iff.1 ht
  exact .seek hlt

theorem attempt_path (g : Grammar) (h : RulesPass matchOne ruleMoments) :
    AttemptsPass (OrderedGrammar.attempt g matchOne) (attemptMoments g matchOne ruleMoments) := by
  intro name r hr
  rw [OrderedGrammar.attempt, attemptMoments]
  cases htry : r.context.tryToken name with
  | none => exact firstMatch_path h _ hr
  | some taken => exact .cons (step_of_tryToken htry) .nil

end Paths

/-- The moments of an attempt at an alternative lead from the state in which it is made to the one
in which it ends. -/
theorem matchRule_path (g : Grammar) (verbose : Bool) (budget : ℕ) :
    RulesPass (matchRule g verbose budget) (ruleMoments g verbose budget) := by
  induction budget with
  | zero => intro rule r _; exact .nil
  | succ budget ih =>
    intro rule r hr
    have hentered : ((r.push rule).note verbose (.enter rule)).context = r.context.push rule :=
      Run.context_note _ _ _
    have hsyms := matchSymbols_path (attempt_path g ih) rule.symbols
      (r := (r.push rule).note verbose (.enter rule)) (hentered ▸ hr)
    rw [matchRule, ruleMoments]
    refine .cons (hentered ▸ .push) ?_
    cases hres : matchSymbols (attempt g (matchRule g verbose budget)) rule.symbols
        ((r.push rule).note verbose (.enter rule)) with
    | matched _ r' =>
      rw [hres] at hsyms
      exact hsyms.append (Run.pop_path fun _ _ => Run.context_note _ _ _)
    | failed r' =>
      rw [hres] at hsyms
      have hsize : r.index ≤ r'.context.tokens.size := by
        rw [show r'.context.tokens = _ from hsyms.tokens_eq, hentered]
        exact hr
      have hpop : ((r'.seek r.index).note verbose (.fail rule.name)).context.Path
          ((r'.seek r.index).note verbose (.fail rule.name)).popMoments
          (((r'.seek r.index).note verbose (.fail rule.name)).pop fun _ r'' =>
            (.failed r'' : Outcome Tree)).run.context := Run.pop_path fun _ _ => rfl
      rw [Run.popMoments, Run.context_note] at hpop
      exact hsyms.append (.cons (.seek hsize) hpop)
    | aborted e r' => rw [hres] at hsyms; exact hsyms.append .nil

namespace Grammar

/-- What a parse is given up for is no rejection. -/
theorem abortError_ne_rejected (limit : ℤ) (c : Context) (abort : Abort) {i : ℕ}
    {t : Option Token} : abortError limit c abort ≠ .rejected i t := by
  cases abort with
  | tooDeep => rw [abortError]; split <;> simp
  | context e => simp [abortError]

theorem matchRoot_path (g : Grammar) (verbose : Bool) (budget : ℕ) (root : String)
    (rules : List Rule) : ∀ {r : Run}, r.context.Within →
    r.context.Path (g.rootMoments verbose budget rules r)
      (g.matchRoot verbose budget root rules r).2.context := by
  induction rules with
  | nil => intro r _; exact .nil
  | cons rule rules ih =>
    intro r _
    -- every alternative of the root is tried from the first token on
    have hstart : (r.seek 0).context.Within := Nat.zero_le _
    have hrule := matchRule_path g verbose budget rule _ hstart
    rw [matchRoot, rootMoments]
    refine .cons (.seek (Nat.zero_le _)) ?_
    cases hres : matchRule g verbose budget rule (r.seek 0) with
    | matched value r' =>
      rw [hres] at hrule
      dsimp only
      split
      · rw [List.append_nil, Run.context_note]
        exact hrule
      · exact hrule.append (ih (hrule.within hstart))
    | failed r' => rw [hres] at hrule; exact hrule.append (ih (hrule.within hstart))
    | aborted e r' => rw [hres] at hrule; exact hrule.append .nil

/-- The moments of a parse lead on from its start.  If it ends in a rejection, they lead to the
state whose furthest index the error names. -/
theorem moments_path (g : Grammar) (root : String) (tokens : Array Token)
    (options : ParseOptions) :
    ∃ rest c, g.moments root tokens options = .start tokens :: rest ∧
      (Context.start tokens).Path rest c ∧
      ∀ i t, (g.parseTokens root tokens options).1 = .error (.parse (.rejected i t)) →
        i = c.best := by
  rw [moments, parseTokens]
  cases halts : g.alternativesOf root with
  | nil =>
    -- a root without alternatives is a kind of tokens, or unknown
    dsimp only
    split
    · rw [matchToken]
      cases htry : (Context.start tokens).tryToken root with
      | none => exact ⟨_, _, rfl, .nil, by rintro i t ⟨⟩; rfl⟩
      | some taken =>
        refine ⟨_, _, rfl, .cons (Context.step_of_tryToken htry) .nil, fun i t h => ?_⟩
        dsimp only at h
        split at h <;> cases h
        rfl
    · exact ⟨_, _, rfl, .nil, by rintro i t ⟨⟩⟩
  | cons rule rules =>
    have hroot := matchRoot_path g options.verbose options.budget root (rule :: rules)
      (r := .start tokens) (Nat.zero_le _)
    refine ⟨_, _, rfl, hroot, fun i t h => ?_⟩
    dsimp only at h
    rw [← ParseOptions.budget] at h
    generalize g.matchRoot options.verbose options.budget root (rule :: rules) (.start tokens) =
      run at h ⊢
    obtain ⟨result, r⟩ := run
    cases result with
    | ok n => cases h
    | error e => cases e with
      | none => cases h; rfl
      | some abort =>
        have herr := ParseFailure.parse.inj (Except.error.inj h)
        exact (abortError_ne_rejected _ _ _ herr).elim

end Grammar

end OrderedGrammar
