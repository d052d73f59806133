import Mathlib.Logic.Function.Iterate
import OrderedGrammar.Proofs.Matching.Abreast

/-!
# Matching step by step

The matcher without a limit on nesting need not come to an end: a name whose first symbol is the
name itself opens one frame after the other.  `Machine.step` does what the matcher does in small
steps, with what is still to be done on a stack, so that there is a state of the search after any
number of steps, be it finite or not.

Up to a limit on the frames that are open, the matcher is led by the machine
(`matchRule_leads`): an attempt that ends has the outcome that the machine comes to without opening
a frame when as many are open as the limit allows, and one that is given up stops at the machine's
first state in which it is to open such a frame.

## Main definitions

* `Machine`, `Machine.step` : a state of the search, and the next one.
* `Machine.Opens` : a frame is to be opened while a number of them are open.
* `Machine.Leads` : steps lead from one state to another, and no frame too deep is opened on the
  way.
* `Outcome.Led` : an attempt has the outcome that the machine comes to.
-/

namespace OrderedGrammar

/-- What is done next. -/
inductive Task where
  /-- The alternatives of the root are tried from the first token on. -/
  | root (rules : List Rule)
  /-- A token of the kind is taken, or else the alternatives of the name are tried. -/
  | attempt (name : String)
  /-- Alternatives are tried in order. -/
  | choose (rules : List Rule)
  /-- A frame is opened for an alternative. -/
  | enter (rule : Rule)
  /-- The symbols that are left of an alternative are matched. -/
  | symbols (rest : List Symbol)
  /-- What was attempted has matched. -/
  | found (value : Tree)
  /-- What was attempted has failed. -/
  | missed
  | accepted (node : Node)
  | rejected

/-- What goes on when an attempt has ended. -/
inductive Pending where
  /-- The search for an alternative of the root. -/
  | root (rest : List Rule)
  /-- The search for an alternative of a name. -/
  | alternatives (rest : List Rule)
  /-- An alternative that was begun at `start`. -/
  | frame (start : ℕ)
  /-- A round of a symbol that was begun at `start`, and is not the first one if `again`. -/
  | symbol (s : Symbol) (rest : List Symbol) (start : ℕ) (again : Bool)

/-- A state of the search: what is done next, what goes on behind that, the innermost first, and the
state of the parse. -/
structure Machine where
  task : Task
  pending : List Pending
  context : Context

/-- Keeps what a symbol has matched, unless the symbol is ignored. -/
def Context.keep (c : Context) (s : Symbol) (value : Tree) : Except ContextError Context :=
  if s.ignored then .ok c else c.store s.label value

theorem Context.best_of_keep {c c' : Context} {s : Symbol} {value : Tree}
    (h : c.keep s value = .ok c') : c'.best = c.best := by
  unfold Context.keep at h
  split at h
  · cases h
    rfl
  · obtain ⟨f, f', rest, -, rfl⟩ := exists_of_store h
    rfl

namespace Machine

/-- The state at the start of the search for a match of all tokens. -/
def start (g : Grammar) (root : String) (tokens : Array Token) : Machine :=
  ⟨.root (g.alternativesOf root), [], .start tokens⟩

/-- The next state.  Where the search has ended, it stays. -/
def step (g : Grammar) (root : String) (m : Machine) : Machine :=
  let c := m.context
  match m.task, m.pending with
  | .root [], pending => ⟨.rejected, pending, c⟩
  | .root (rule :: rest), pending => ⟨.enter rule, .root rest :: pending, c.seek 0⟩
  | .attempt name, pending =>
    match c.tryToken name with
    | some (t, c') => ⟨.found (.token t), pending, c'⟩
    | none => ⟨.choose (g.alternativesOf name), pending, c⟩
  | .choose [], pending => ⟨.missed, pending, c⟩
  | .choose (rule :: rest), pending => ⟨.enter rule, .alternatives rest :: pending, c⟩
  | .enter rule, pending => ⟨.symbols rule.symbols, .frame c.index :: pending, c.push rule⟩
  | .symbols (s :: rest), pending =>
    if s.optional && c.atEnd then ⟨.symbols rest, pending, c⟩
    else ⟨.attempt s.name, .symbol s rest c.index false :: pending, c⟩
  | .symbols [], .frame _ :: pending =>
    match c.pop with
    | .ok (frame, c') => ⟨.found frame.result, pending, c'⟩
    | .error _ => m
  | .found value, .symbol s rest start _ :: pending =>
    match c.keep s value with
    | .ok c' =>
      if s.repeatable && c.index ≠ start then
        ⟨.attempt s.name, .symbol s rest c.index true :: pending, c'⟩
      else ⟨.symbols rest, pending, c'⟩
    | .error _ => m
  | .found value, .alternatives _ :: pending => ⟨.found value, pending, c⟩
  | .found value, .root rest :: pending =>
    if c.atEnd then ⟨.accepted (Grammar.rootNode root value), pending, c⟩
    else ⟨.root rest, pending, c⟩
  | .missed, .symbol s rest start again :: pending =>
    if again then ⟨.symbols rest, pending, c⟩
    else if s.optional then ⟨.symbols rest, pending, c.seek start⟩
    else ⟨.missed, pending, c.seek start⟩
  | .missed, .frame start :: pending =>
    match (c.seek start).pop with
    | .ok (_, c') => ⟨.missed, pending, c'⟩
    | .error _ => m
  | .missed, .alternatives rest :: pending => ⟨.choose rest, pending, c⟩
  | .missed, .root rest :: pending => ⟨.root rest, pending, c⟩
  | _, _ => m

/-- Whether a frame is to be opened while `depth` frames are open. -/
def Opens (depth : ℕ) (m : Machine) : Prop :=
  (∃ rule, m.task = .enter rule) ∧ m.context.depth = depth

/-- Steps lead from one state to another, and in none of those before it a frame is to be opened
while `limit` frames are open. -/
inductive Leads (g : Grammar) (root : String) (limit : ℕ) : Machine → Machine → Prop
  | refl {m : Machine} : Leads g root limit m m
  | step {m m' : Machine} : ¬m.Opens limit → Leads g root limit (m.step g root) m' →
      Leads g root limit m m'

namespace Leads

variable {g : Grammar} {root : String} {limit : ℕ} {m m' m'' : Machine}

theorem trans (h : Leads g root limit m m') (h' : Leads g root limit m' m'') :
    Leads g root limit m m'' := by
  induction h with
  | refl => exact h'
  | step hopens _ ih => exact .step hopens (ih h')

/-- A step that opens no frame. -/
theorem one (htask : ∀ rule, m.task ≠ .enter rule) (hstep : m.step g root = m') :
    Leads g root limit m m' :=
  .step (fun hopens => hopens.1.elim htask) (hstep ▸ .refl)

theorem iterate (h : Leads g root limit m m') : ∃ n, (Machine.step g root)^[n] m = m' ∧
    ∀ k < n, ¬((Machine.step g root)^[k] m).Opens limit := by
  induction h with
  | refl => exact ⟨0, rfl, by simp⟩
  | step hopens _ ih =>
    obtain ⟨n, hn, hbefore⟩ := ih
    refine ⟨n + 1, hn, fun k hk => ?_⟩
    cases k with
    | zero => exact hopens
    | succ k => exact hbefore k (Nat.lt_of_succ_lt_succ hk)

end Leads

end Machine

/-! ### Frames that are opened and closed -/

namespace Run.AtDepth

variable {tokens : Array Token} {depth i : ℕ} {r : Run}

/-- Keeping a match never fails. -/
theorem exists_keep (h : r.AtDepth tokens (depth + 1) i) (s : Symbol) (value : Tree) :
    ∃ c, r.context.keep s value = .ok c ∧ (Run.mk c r.trace).AtDepth tokens (depth + 1) i ∧
      ∀ {α : Type} (next : Run → Outcome α), r.store s value next = next ⟨c, r.trace⟩ := by
  by_cases hs : s.ignored
  · refine ⟨r.context, by rw [Context.keep, if_pos hs], h, fun next => ?_⟩
    rw [Run.store, if_pos hs]
  obtain ⟨rule, stored, rest, hframes, hdepth, hrest⟩ := h.exists_frame
  have hstore : r.context.store s.label value =
      .ok { r.context with frames := .holding rule (stored ++ [(s.label, value)]) :: rest } := by
    simp only [Context.store, hframes, Frame.store_holding]
    rfl
  refine ⟨_, by rw [Context.keep, if_neg hs, hstore], ?_, fun next => ?_⟩
  · exact ⟨h.tokens_eq, h.index_eq, h.index_le, congrArg (· + 1) hdepth,
      List.forall_mem_cons.2 ⟨⟨rule, _, rfl⟩, hrest⟩⟩
  · rw [Run.store, if_neg hs, hstore]

/-- Closing a frame never fails. -/
theorem exists_pop (h : r.AtDepth tokens (depth + 1) i) :
    ∃ frame c, r.context.pop = .ok (frame, c) ∧ (Run.mk c r.trace).AtDepth tokens depth i ∧
      ∀ {α : Type} (next : Frame → Run → Outcome α), r.pop next = next frame ⟨c, r.trace⟩ := by
  obtain ⟨rule, stored, rest, hframes, hdepth, hrest⟩ := h.exists_frame
  have hpop : r.context.pop = .ok (.holding rule stored, { r.context with frames := rest }) := by
    rw [Context.pop, hframes]
  refine ⟨_, _, hpop, ⟨h.tokens_eq, h.index_eq, h.index_le, hdepth, hrest⟩, fun next => ?_⟩
  rw [Run.pop, hpop]

end Run.AtDepth

/-! ### The matcher is led by the machine -/

section Led

variable {g : Grammar} {root : String} {limit : ℕ} {tokens : Array Token} {depth i j : ℕ}
  {m m' : Machine} {pending : List Pending} {r : Run}

/-- An attempt that is made at the index `i`, with a number of frames open, has the outcome that the
machine comes to from `m`: a match or a failure with as many frames open, or a frame that is to be
opened when as many are open as the limit allows. -/
inductive Outcome.Led {α : Type} (g : Grammar) (root : String) (limit : ℕ) (tokens : Array Token)
    (depth i : ℕ) (m : Machine) (found : α → Context → Machine) (missed : Context → Machine) :
    Outcome α → Prop
  | matched {a : α} {r : Run} {j : ℕ} : i ≤ j → r.AtDepth tokens depth j →
      m.Leads g root limit (found a r.context) →
      Led g root limit tokens depth i m found missed (.matched a r)
  | failed {r : Run} {j : ℕ} : i ≤ j → r.AtDepth tokens depth j →
      m.Leads g root limit (missed r.context) →
      Led g root limit tokens depth i m found missed (.failed r)
  | aborted {r : Run} {rule : Rule} {pending : List Pending} : r.context.depth = limit →
      m.Leads g root limit ⟨.enter rule, pending, r.context⟩ →
      Led g root limit tokens depth i m found missed (.aborted .tooDeep r)

/-- What the machine does before does not matter. -/
theorem Outcome.Led.of_leads {α : Type} {found : α → Context → Machine} {missed : Context → Machine}
    {res : Outcome α} (hij : i ≤ j) (h : m.Leads g root limit m')
    (hled : res.Led g root limit tokens depth j m' found missed) :
    res.Led g root limit tokens depth i m found missed := by
  cases hled with
  | matched hjk hr hleads => exact .matched (hij.trans hjk) hr (h.trans hleads)
  | failed hjk hr hleads => exact .failed (hij.trans hjk) hr (h.trans hleads)
  | aborted hdepth hleads => exact .aborted hdepth (h.trans hleads)

/-- Every attempt at a name has the outcome that the machine comes to. -/
def AttemptsLed (g : Grammar) (root : String) (limit : ℕ) (tokens : Array Token) (depth : ℕ)
    (attempt : String → Run → Outcome Tree) : Prop :=
  ∀ name (r : Run) (i : ℕ) (pending : List Pending), r.AtDepth tokens depth i →
    (attempt name r).Led g root limit tokens depth i ⟨.attempt name, pending, r.context⟩
      (fun value c => ⟨.found value, pending, c⟩) (fun c => ⟨.missed, pending, c⟩)

/-- Every attempt at an alternative has the outcome that the machine comes to. -/
def RulesLed (g : Grammar) (root : String) (limit : ℕ) (tokens : Array Token) (depth : ℕ)
    (matchOne : Rule → Run → Outcome Tree) : Prop :=
  ∀ rule (r : Run) (i : ℕ) (pending : List Pending), r.AtDepth tokens depth i →
    (matchOne rule r).Led g root limit tokens depth i ⟨.enter rule, pending, r.context⟩
      (fun value c => ⟨.found value, pending, c⟩) (fun c => ⟨.missed, pending, c⟩)

variable {attempt : String → Run → Outcome Tree} {matchOne : Rule → Run → Outcome Tree}

theorem furtherRounds_led (h : AttemptsLed g root limit tokens (depth + 1) attempt) {s : Symbol}
    (hrep : s.repeatable) (rest : List Symbol) (fuel : ℕ) : ∀ {r : Run} {i : ℕ},
    r.AtDepth tokens (depth + 1) i → tokens.size < i + fuel →
    (furtherRounds (attempt s.name) s fuel r).Led g root limit tokens (depth + 1) i
      ⟨.attempt s.name, .symbol s rest i true :: pending, r.context⟩
      (fun _ c => ⟨.symbols rest, pending, c⟩) (fun c => ⟨.missed, pending, c⟩) := by
  induction fuel with
  | zero =>
    -- the fuel is more than the tokens that are left, so that it is not what ends the rounds
    intro r i hr hfuel
    exact absurd hr.index_le (by omega)
  | succ fuel ih =>
    intro r i hr hfuel
    have hatt := h s.name r i (.symbol s rest i true :: pending) hr
    rw [furtherRounds]
    generalize attempt s.name r = res at hatt ⊢
    cases hatt with
    | @matched value r₁ j hij hr₁ hleads =>
      obtain ⟨c, hkeep, hr₂, hstore⟩ := hr₁.exists_keep s value
      dsimp only
      rw [hstore, hr₂.index, hr.index]
      by_cases hji : j = i
      · rw [if_pos hji]
        refine .matched hij hr₂ (hleads.trans (.one (by simp) ?_))
        simp [Machine.step, hkeep, hr₁.index_eq, hji]
      · rw [if_neg hji]
        have hround : Machine.Leads g root limit
            ⟨.found value, .symbol s rest i true :: pending, r₁.context⟩
            ⟨.attempt s.name, .symbol s rest j true :: pending, c⟩ :=
          .one (by simp) (by simp [Machine.step, hkeep, hr₁.index_eq, hrep, hji])
        exact (ih hr₂ (by omega)).of_leads hij (hleads.trans hround)
    | failed hij hr₁ hleads => exact .matched hij hr₁ (hleads.trans (.one (by simp) rfl))
    | aborted hdepth hleads => exact .aborted hdepth hleads

theorem matchSymbol_led (h : AttemptsLed g root limit tokens (depth + 1) attempt)
    (pending : List Pending) (s : Symbol) (rest : List Symbol)
    (hr : r.AtDepth tokens (depth + 1) i) :
    (matchSymbol attempt s r).Led g root limit tokens (depth + 1) i
      ⟨.symbols (s :: rest), pending, r.context⟩
      (fun _ c => ⟨.symbols rest, pending, c⟩) (fun c => ⟨.missed, pending, c⟩) := by
  rw [matchSymbol]
  split
  · next hend => exact .matched le_rfl hr (.one (by simp) (if_pos hend))
  · next hend =>
    have hbegin : Machine.Leads g root limit ⟨.symbols (s :: rest), pending, r.context⟩
        ⟨.attempt s.name, .symbol s rest i false :: pending, r.context⟩ :=
      .one (by simp) (by rw [← hr.index_eq]; exact if_neg hend)
    have hatt := h s.name r i (.symbol s rest i false :: pending) hr
    generalize attempt s.name r = res at hatt ⊢
    cases hatt with
    | @matched value r₁ j hij hr₁ hleads =>
      replace hleads := hbegin.trans hleads
      obtain ⟨c, hkeep, hr₂, hstore⟩ := hr₁.exists_keep s value
      dsimp only
      rw [hstore, hr₂.index, hr.index, hr.tokens_eq]
      by_cases hround : s.repeatable && j ≠ i
      · rw [if_pos hround]
        obtain ⟨hrep, hji⟩ := Bool.and_eq_true_iff.1 hround
        -- the first round has taken a token, so that what is left suffices for the rounds
        have hfuel : tokens.size < j + (tokens.size - i) := by
          have hne : j ≠ i := by simpa using hji
          have hle := hr.index_le
          omega
        refine (furtherRounds_led h hrep rest _ hr₂ hfuel).of_leads hij
          (hleads.trans (.one (by simp) ?_))
        simpa [Machine.step, hkeep, hr₁.index_eq] using hround
      · rw [if_neg hround]
        refine .matched hij hr₂ (hleads.trans (.one (by simp) ?_))
        simpa [Machine.step, hkeep, hr₁.index_eq] using hround
    | failed hij hr₁ hleads =>
      replace hleads := hbegin.trans hleads
      dsimp only
      rw [hr.index]
      have hback := hr₁.seek hr.index_le
      split
      · next hoptional =>
        refine .matched le_rfl hback (hleads.trans (.one (by simp) ?_))
        simp [Machine.step, hoptional, Run.seek]
      · next hoptional =>
        refine .failed le_rfl hback (hleads.trans (.one (by simp) ?_))
        simp [Machine.step, hoptional, Run.seek]
    | aborted hdepth hleads => exact .aborted hdepth (hbegin.trans hleads)

theorem matchSymbols_led (h : AttemptsLed g root limit tokens (depth + 1) attempt)
    (pending : List Pending) (symbols : List Symbol) : ∀ {r : Run} {i : ℕ},
    r.AtDepth tokens (depth + 1) i →
    (matchSymbols attempt symbols r).Led g root limit tokens (depth + 1) i
      ⟨.symbols symbols, pending, r.context⟩
      (fun _ c => ⟨.symbols [], pending, c⟩) (fun c => ⟨.missed, pending, c⟩) := by
  induction symbols with
  | nil => intro r i hr; exact .matched le_rfl hr .refl
  | cons s symbols ih =>
    intro r i hr
    have hsym := matchSymbol_led h pending s symbols hr
    rw [matchSymbols]
    generalize matchSymbol attempt s r = res at hsym ⊢
    cases hsym with
    | matched hij hr₁ hleads => exact (ih hr₁).of_leads hij hleads
    | failed hij hr₁ hleads => exact .failed hij hr₁ hleads
    | aborted hdepth hleads => exact .aborted hdepth hleads

theorem firstMatch_led (h : RulesLed g root limit tokens depth matchOne) (rules : List Rule) :
    ∀ {r : Run} {i : ℕ}, r.AtDepth tokens depth i →
    (firstMatch matchOne rules r).Led g root limit tokens depth i
      ⟨.choose rules, pending, r.context⟩
      (fun value c => ⟨.found value, pending, c⟩) (fun c => ⟨.missed, pending, c⟩) := by
  induction rules with
  | nil => intro r i hr; exact .failed le_rfl hr (.one (by simp) rfl)
  | cons rule rules ih =>
    intro r i hr
    have hone := (h rule r i (.alternatives rules :: pending) hr).of_leads
      (m := ⟨.choose (rule :: rules), pending, r.context⟩) le_rfl (.one (by simp) rfl)
    rw [firstMatch]
    generalize matchOne rule r = res at hone ⊢
    cases hone with
    | matched hij hr₁ hleads => exact .matched hij hr₁ (hleads.trans (.one (by simp) rfl))
    | failed hij hr₁ hleads =>
      exact (ih hr₁).of_leads hij (hleads.trans (.one (by simp) rfl))
    | aborted hdepth hleads => exact .aborted hdepth hleads

theorem attempt_led (h : RulesLed g root limit tokens depth matchOne) :
    AttemptsLed g root limit tokens depth (OrderedGrammar.attempt g matchOne) := by
  intro name r i pending hr
  rw [OrderedGrammar.attempt]
  cases htry : r.context.tryToken name with
  | some taken =>
    obtain ⟨t, c⟩ := taken
    obtain ⟨hpeek, -, rfl⟩ := Context.exists_of_tryToken htry
    rw [hr.tokens_eq, hr.index_eq] at hpeek
    rw [hr.index_eq] at htry ⊢
    obtain ⟨hlt, -⟩ := Array.getElem?_eq_some_iff.1 hpeek
    exact .matched (Nat.le_succ i) (hr.seek (Nat.succ_le_of_lt hlt))
      (.one (by simp) (by simp [Machine.step, htry]))
  | none =>
    refine (firstMatch_led h _ hr).of_leads le_rfl (.one (by simp) ?_)
    simp [Machine.step, htry]

end Led

/-- **The machine leads the matcher**, as far as the limit on open frames allows. -/
theorem matchRule_led (g : Grammar) (verbose : Bool) (root : String) (tokens : Array Token)
    (budget : ℕ) : ∀ depth,
    RulesLed g root (depth + budget) tokens depth (matchRule g verbose budget) := by
  -- each frame that is opened adds one to the depth and takes one from the budget
  induction budget with
  | zero =>
    intro depth rule r i pending hr
    exact .aborted hr.depth_eq .refl
  | succ budget ih =>
    intro depth rule r i pending hr
    have hentered := (hr.push rule).note verbose (.enter rule)
    have hopen : Machine.Leads g root (depth + (budget + 1)) ⟨.enter rule, pending, r.context⟩
        ⟨.symbols rule.symbols, .frame i :: pending,
          ((r.push rule).note verbose (.enter rule)).context⟩ := by
      refine .step ?_ ?_
      · rintro ⟨-, hdepth⟩
        have := hr.depth_eq.symm.trans hdepth
        omega
      · rw [Run.context_note, ← hr.index_eq]
        exact .refl
    have hlimit : depth + 1 + budget = depth + (budget + 1) := by omega
    have hsyms := matchSymbols_led (attempt_led (hlimit ▸ ih (depth + 1))) (.frame i :: pending)
      rule.symbols hentered
    rw [matchRule]
    generalize matchSymbols _ rule.symbols _ = res at hsyms ⊢
    cases hsyms with
    | @matched _ r₁ j hij hr₁ hleads =>
      obtain ⟨frame, c, hcpop, hr₂, hpop⟩ := hr₁.exists_pop
      dsimp only
      rw [hpop]
      refine .matched hij (hr₂.note verbose (.succeed rule.name)) ((hopen.trans hleads).trans ?_)
      rw [Run.context_note]
      exact .one (by simp) (by simp [Machine.step, hcpop])
    | @failed r₁ j hij hr₁ hleads =>
      have hback := (hr₁.seek hr.index_le).note verbose (.fail rule.name)
      obtain ⟨frame, c, hcpop, hr₂, hpop⟩ := hback.exists_pop
      rw [Run.context_note] at hcpop
      dsimp only
      rw [hr.index, hpop]
      refine .failed le_rfl hr₂ ((hopen.trans hleads).trans (.one (by simp) ?_))
      rw [Run.seek] at hcpop
      simp [Machine.step, hcpop]
    | aborted hdepth hleads => exact .aborted hdepth (hopen.trans hleads)

end OrderedGrammar
