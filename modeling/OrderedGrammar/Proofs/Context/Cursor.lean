import OrderedGrammar.Proofs.Context.Operations

/-!
# The cursor under any use of a parse's state

Whatever is done with the state of a parse, its furthest index is the greatest of all places that
the cursor has had, its depth is the number of frames that have been opened and not closed, and
there is no next token just if the cursor is at the end or past it.  An operation that the state has
no place for leaves all as it is (`Context.keeps_cursor`).

In a parse the cursor stays within the tokens or right behind them; here it can be moved anywhere.

## Main definitions

* `Context.Event.opens`, `Context.Event.closes` : whether an event has opened or closed a frame.
* `Context.Refused`, `Context.Refuses` : the answers that say that an operation has failed, and the
  operations that fail in a state.
-/

namespace OrderedGrammar.Context

/-- Whether a frame has been opened. -/
def Event.opens (e : Event) : Bool :=
  match e.operation with
  | .push _ => true
  | _ => false

/-- Whether a frame has been closed. -/
def Event.closes (e : Event) : Bool :=
  match e.operation, e.answer with
  | .pop, .frame _ => true
  | _, _ => false

/-- The answers that say that an operation has failed. -/
inductive Refused : Operation → Answer → Prop
  | error {op : Operation} {e : ContextError} : Refused op (.error e)
  | noToken {kind : String} : Refused (.tryToken kind) (.token none)

/-- The operations that a state has no place for: those on the innermost frame if there is none, and
taking a token of a kind if there is no token or one of another kind. -/
inductive Refuses (c : Context) : Operation → Prop
  | pop : c.frames = [] → Refuses c .pop
  | store {label : String} {value : Tree} : c.frames = [] → Refuses c (.store label value)
  | tryToken {kind : String} : (∀ t, c.peek = some t → t.kind ≠ kind) → Refuses c (.tryToken kind)

/-! ### One operation -/

namespace Performs

variable {c c' : Context} {op : Operation} {answer : Answer}

/-- An operation moves the cursor or changes the frames. -/
theorem seek_or_frames (hop : Performs c op answer c') :
    (∃ index, c' = c.seek index) ∨ ∃ frames, c' = { c with frames := frames } := by
  cases hop with
  | push rule => exact .inr ⟨_, rfl⟩
  | pop _ => exact .inr ⟨_, rfl⟩
  | popRefused _ => exact .inr ⟨c.frames, rfl⟩
  | take _ => exact .inl ⟨_, rfl⟩
  | takeRefused _ => exact .inr ⟨c.frames, rfl⟩
  | seek index => exact .inl ⟨index, rfl⟩
  | look index => exact .inr ⟨c.frames, rfl⟩
  | store _ _ => exact .inr ⟨_, rfl⟩
  | storeRefused _ => exact .inr ⟨c.frames, rfl⟩
  | storeFailed _ _ => exact .inr ⟨c.frames, rfl⟩

theorem tokens_eq (hop : Performs c op answer c') : c'.tokens = c.tokens := by
  obtain ⟨index, rfl⟩ | ⟨frames, rfl⟩ := hop.seek_or_frames
  · rfl
  · rfl

/-- The furthest index goes with the cursor and does not come back with it. -/
theorem best_eq (hop : Performs c op answer c') (h : c.index ≤ c.best) :
    c'.best = max c.best c'.index := by
  obtain ⟨index, rfl⟩ | ⟨frames, rfl⟩ := hop.seek_or_frames
  · rfl
  · exact (Nat.max_eq_left h).symm

/-- Opening a frame makes a state one frame deeper, and closing one less deep. -/
theorem depth_eq (hop : Performs c op answer c') :
    c'.depth + (if Event.closes ⟨op, answer, c'⟩ then 1 else 0) =
      c.depth + if Event.opens ⟨op, answer, c'⟩ then 1 else 0 := by
  cases hop with
  | push rule => rfl
  | pop hframes => simp [depth, hframes, Event.closes, Event.opens]
  | popRefused _ => rfl
  | take _ => rfl
  | takeRefused _ => rfl
  | seek index => rfl
  | look index => rfl
  | store hframes _ => simp [depth, hframes, Event.closes, Event.opens]
  | storeRefused _ => rfl
  | storeFailed _ _ => rfl

/-- A token is taken iff it is the next one and of the kind. -/
theorem take_iff {kind : String} {t : Token} (hop : Performs c (.tryToken kind) answer c') :
    answer = .token (some t) ↔ c.peek = some t ∧ t.kind = kind := by
  constructor
  · rintro rfl
    cases hop with
    | take hpeek => exact ⟨hpeek, rfl⟩
  · rintro ⟨hpeek, hkind⟩
    cases hop with
    | take hpeek' => rw [hpeek] at hpeek'; cases hpeek'; rfl
    | takeRefused hnone => exact absurd hkind (hnone t hpeek)

/-- Taking a token moves the cursor by one. -/
theorem eq_of_take {kind : String} {t : Token}
    (hop : Performs c (.tryToken kind) (.token (some t)) c') : c' = c.seek (c.index + 1) := by
  cases hop with
  | take _ => rfl

/-- An operation that fails leaves the state as it is. -/
theorem eq_of_refused (hop : Performs c op answer c') (h : Refused op answer) : c' = c := by
  cases h with
  | error =>
    cases hop with
    | popRefused _ => rfl
    | storeRefused _ => rfl
    | storeFailed _ _ => rfl
  | noToken =>
    cases hop with
    | takeRefused _ => rfl

/-- The operations that fail are those that the state has no place for. -/
theorem refused_iff {as : List Account} (hop : Performs c op answer c')
    (hframes : c.frames = as.map Account.frame) : Refused op answer ↔ c.Refuses op := by
  constructor
  · intro h
    cases h with
    | error =>
      cases hop with
      | popRefused h => exact .pop h
      | storeRefused h => exact .store h
      | storeFailed h hstore => exact .store (of_store_error (.storeFailed h hstore) hframes).1
    | noToken =>
      cases hop with
      | takeRefused h => exact .tryToken h
  · intro h
    cases h with
    | pop h =>
      cases hop with
      | pop h' => rw [h] at h'; cases h'
      | popRefused _ => exact .error
    | store h =>
      cases hop with
      | store h' _ => rw [h] at h'; cases h'
      | storeRefused _ => exact .error
      | storeFailed _ _ => exact .error
    | tryToken h =>
      cases hop with
      | take hpeek => exact absurd rfl (h _ hpeek)
      | takeRefused _ => exact .noToken

end Performs

/-! ### All operations -/

section Run

variable {c : Context}

theorem tokens_run (c : Context) (ops : List Operation) : (c.run ops).2.tokens = c.tokens := by
  induction ops generalizing c with
  | nil => rfl
  | cons op ops ih => exact (ih _).trans (c.performs op).tokens_eq

/-- The furthest index is the greatest place of the cursor. -/
theorem best_run (h : c.index ≤ c.best) (ops : List Operation) :
    (c.run ops).2.best = ((c.run ops).1.map (·.after.index)).foldl max c.best := by
  -- that the cursor is not beyond the furthest index holds again behind each operation
  induction ops generalizing c with
  | nil => rfl
  | cons op ops ih =>
    have hbest := (c.performs op).best_eq h
    have hindex : (c.perform op).2.index ≤ (c.perform op).2.best := hbest ▸ Nat.le_max_right _ _
    rw [run, List.map_cons, List.foldl_cons, ← hbest]
    exact ih hindex

/-- Each frame that has been opened has been closed or is open. -/
theorem depth_run (c : Context) (ops : List Operation) :
    (c.run ops).2.depth + (c.run ops).1.countP (·.closes) =
      c.depth + (c.run ops).1.countP (·.opens) := by
  induction ops generalizing c with
  | nil => rfl
  | cons op ops ih =>
    have hdepth := (c.performs op).depth_eq
    have hrest := ih (c.perform op).2
    simp only [run, List.countP_cons] at hrest ⊢
    omega

end Run

theorem atEnd_iff_peek {c : Context} : c.atEnd ↔ c.peek = none := by
  simp [atEnd, peek, tokenAt]

/-- **The cursor is kept in order.**  After any use of a fresh state the furthest index is the
greatest of 0 and all places that the cursor has had; the end is reached iff the cursor is behind
all tokens, and iff there is no next one; and the depth is the number of frames that have been
opened less those that have been closed.  A token is taken iff it is the next one and of the kind
asked for, and then the cursor moves on by just one.  The operations that fail are those that the
state has no place for, and they leave it as it is. -/
theorem keeps_cursor {tokens : Array Token} {ops : List Operation} {history : List Event}
    {c : Context} (hrun : (start tokens).run ops = (history, c)) :
    c.best = (history.map (·.after.index)).foldl max 0 ∧
    (c.atEnd ↔ tokens.size ≤ c.index) ∧ (c.atEnd ↔ c.peek = none) ∧
    (history.countP (·.closes) ≤ history.countP (·.opens) ∧
      c.depth = history.countP (·.opens) - history.countP (·.closes)) ∧
    (∀ kind t,
      ((c.perform (.tryToken kind)).1 = .token (some t) ↔ c.peek = some t ∧ t.kind = kind) ∧
      ((c.perform (.tryToken kind)).1 = .token (some t) →
        (c.perform (.tryToken kind)).2.index = c.index + 1 ∧
        (c.perform (.tryToken kind)).2.frames = c.frames)) ∧
    ∀ op, (Refused op (c.perform op).1 ↔ c.Refuses op) ∧
      (c.Refuses op → (c.perform op).2 = c) := by
  have hhistory : ((start tokens).run ops).1 = history := congrArg Prod.fst hrun
  have hc : ((start tokens).run ops).2 = c := congrArg Prod.snd hrun
  have hframes : c.frames = (accounts ops).map Account.frame := hc ▸ frames_run tokens ops
  have htokens : c.tokens = tokens := hc ▸ tokens_run (start tokens) ops
  have hdepth := depth_run (start tokens) ops
  rw [hhistory, hc] at hdepth
  have hstart : (start tokens).depth = 0 := rfl
  refine ⟨?_, ?_, atEnd_iff_peek, by omega, fun kind t => ⟨?_, fun h => ?_⟩, fun op => ?_⟩
  · rw [← hc, ← hhistory]
    exact best_run (Nat.le_refl 0) ops
  · simp [atEnd, htokens]
  · exact (c.performs (.tryToken kind)).take_iff
  · have hop := c.performs (.tryToken kind)
    rw [h] at hop
    rw [hop.eq_of_take]
    exact ⟨rfl, rfl⟩
  · have hiff := (c.performs op).refused_iff hframes
    exact ⟨hiff, fun h => (c.performs op).eq_of_refused (hiff.2 h)⟩

/-! ### A cursor that goes back and forth -/

/-- A rule for a word. -/
def wordRule : Rule :=
  ⟨"word", .parser, [.ofName "WORD"], _, rfl, by simp, by simp, by decide⟩

/-- The cursor is moved past the end and back again, with failures in between. -/
def straySteps : List Operation :=
  [.pop, .tryToken "WORD", .push wordRule, .tryToken "END", .seek 5, .tryToken "WORD", .tokenAt 0,
    .pop, .store "WORD" (.list []), .push wordRule, .pop, .pop, .push wordRule, .seek 1]

theorem straySteps_keep : ∃ history c,
    (start #[⟨"WORD", "a", 0⟩, ⟨"END", ";", 1⟩]).run straySteps = (history, c) ∧
    c.index = 1 ∧ c.best = 5 ∧ c.depth = 3 - 2 ∧ ¬c.atEnd ∧
    (∀ t, (c.perform (.tryToken "END")).1 = .token (some t) ↔ t = ⟨"END", ";", 1⟩) ∧
    c.Refuses (.tryToken "WORD") ∧ (c.perform (.tryToken "WORD")).2 = c := by
  obtain ⟨⟨history, c⟩, hrun⟩ : ∃ x,
    (start #[⟨"WORD", "a", 0⟩, ⟨"END", ";", 1⟩]).run straySteps = x := ⟨_, rfl⟩
  obtain ⟨hbest, hend, -, ⟨-, hdepth⟩, htake, hrefused⟩ := keeps_cursor hrun
  have hpeek : c.peek = some ⟨"END", ";", 1⟩ := by cases hrun; rfl
  have hindex : c.index = 1 := by cases hrun; rfl
  have hplaces : (history.map (·.after.index)).foldl max 0 = 5 := by cases hrun; rfl
  have hcounts : history.countP (·.opens) = 3 ∧ history.countP (·.closes) = 2 := by
    cases hrun; exact ⟨rfl, rfl⟩
  have hword : c.Refuses (.tryToken "WORD") := by
    refine .tryToken fun t ht => ?_
    rw [hpeek] at ht
    cases ht
    decide
  refine ⟨history, c, hrun, hindex, hbest.trans hplaces, ?_, ?_, fun t => ?_, hword,
    (hrefused _).2 hword⟩
  · rw [hdepth, hcounts.1, hcounts.2]
  · rw [hend, hindex]
    decide
  · rw [(htake "END" t).1, hpeek]
    constructor
    · rintro ⟨h, -⟩
      exact (Option.some.inj h).symm
    · rintro rfl
      exact ⟨rfl, rfl⟩

end OrderedGrammar.Context
