import OrderedGrammar.Proofs.Matching.Frame

/-!
# Any use of a parse's state

The state of a parse is used by opening and closing frames, by taking and looking at tokens, by
moving the cursor and by keeping values, in whatever order and also where the state has no place
for it.  `Context.run` is the history of such a use.

An account is kept beside it of what has been fed into each open frame.  From a fresh state on, the
frames are at any time the ones that hold what their accounts say (`Context.frames_run`), so that
keeping a value fails only where there is no frame (`Context.Performs.of_store_error`).

## Main definitions

* `Context.Operation`, `Context.perform` : what can be done with a state, and what it answers.
* `Context.Performs` : what each operation does.
* `Context.Event`, `Context.run` : one operation that has been carried out, and all of them.
* `Context.Account`, `Context.accounts` : what has been fed into each open frame.
-/

namespace OrderedGrammar.Context

/-- What can be done with the state of a parse. -/
inductive Operation where
  /-- Opens a frame for an alternative. -/
  | push (rule : Rule)
  /-- Closes the innermost frame. -/
  | pop
  /-- Takes the next token if it is of the kind. -/
  | tryToken (kind : String)
  /-- Moves the cursor, also past the end. -/
  | seek (index : ℕ)
  /-- Looks at the token at an index. -/
  | tokenAt (index : ℕ)
  /-- Keeps a value in the innermost frame. -/
  | store (label : String) (value : Tree)

/-- What an operation answers. -/
inductive Answer where
  | done
  | frame (frame : Frame)
  | token (token : Option Token)
  | error (error : ContextError)

/-- Carries out an operation: its answer, and the state behind it. -/
def perform (c : Context) : Operation → Answer × Context
  | .push rule => (.frame (.empty rule), c.push rule)
  | .pop =>
    match c.pop with
    | .ok (f, c') => (.frame f, c')
    | .error e => (.error e, c)
  | .tryToken kind =>
    match c.tryToken kind with
    | some (t, c') => (.token (some t), c')
    | none => (.token none, c)
  | .seek index => (.done, c.seek index)
  | .tokenAt index => (.token (c.tokenAt index), c)
  | .store label value =>
    match c.store label value with
    | .ok c' => (.done, c')
    | .error e => (.error e, c)

/-- An operation that has been carried out, its answer, and the state behind it. -/
structure Event where
  operation : Operation
  answer : Answer
  after : Context

/-- The history of a state that operations are carried out on, and the state behind it. -/
def run (c : Context) : List Operation → List Event × Context
  | [] => ([], c)
  | op :: ops =>
    (⟨op, (c.perform op).1, (c.perform op).2⟩ :: ((c.perform op).2.run ops).1,
      ((c.perform op).2.run ops).2)

/-! ### One operation -/

/-- What an operation does to a state: its answer, and the state behind it. -/
inductive Performs (c : Context) : Operation → Answer → Context → Prop
  | push (rule : Rule) : Performs c (.push rule) (.frame (.empty rule)) (c.push rule)
  | pop {f : Frame} {rest : List Frame} : c.frames = f :: rest →
      Performs c .pop (.frame f) { c with frames := rest }
  | popRefused : c.frames = [] → Performs c .pop (.error .popWithoutFrame) c
  | take {t : Token} : c.peek = some t →
      Performs c (.tryToken t.kind) (.token (some t)) (c.seek (c.index + 1))
  | takeRefused {kind : String} : (∀ t, c.peek = some t → t.kind ≠ kind) →
      Performs c (.tryToken kind) (.token none) c
  | seek (index : ℕ) : Performs c (.seek index) .done (c.seek index)
  | look (index : ℕ) : Performs c (.tokenAt index) (.token (c.tokenAt index)) c
  | store {f f' : Frame} {rest : List Frame} {label : String} {value : Tree} :
      c.frames = f :: rest → f.store label value = .ok f' →
      Performs c (.store label value) .done { c with frames := f' :: rest }
  | storeRefused {label : String} {value : Tree} : c.frames = [] →
      Performs c (.store label value) (.error .storeWithoutFrame) c
  | storeFailed {f : Frame} {rest : List Frame} {label : String} {value : Tree}
      {e : ContextError} : c.frames = f :: rest → f.store label value = .error e →
      Performs c (.store label value) (.error e) c

/-- Operations do this and nothing else. -/
theorem performs (c : Context) (op : Operation) :
    Performs c op (c.perform op).1 (c.perform op).2 := by
  cases op with
  | push rule => exact .push rule
  | pop =>
    cases hframes : c.frames with
    | nil => simpa [perform, Context.pop, hframes] using .popRefused hframes
    | cons f rest => simpa [perform, Context.pop, hframes] using .pop hframes
  | tryToken kind =>
    by_cases hpeek : ∃ t, c.peek = some t ∧ t.kind = kind
    · obtain ⟨t, hpeek, rfl⟩ := hpeek
      simpa [perform, Context.tryToken, hpeek] using .take hpeek
    · have hnone : c.tryToken kind = none := by
        unfold Context.tryToken
        cases h : c.peek with
        | none => rfl
        | some t => exact if_neg fun hkind => hpeek ⟨t, h, hkind⟩
      rw [perform, hnone]
      exact .takeRefused fun t ht hkind => hpeek ⟨t, ht, hkind⟩
  | seek index => exact .seek index
  | tokenAt index => exact .look index
  | store label value =>
    cases hframes : c.frames with
    | nil => simpa [perform, Context.store, hframes] using .storeRefused hframes
    | cons f rest =>
      cases hstore : f.store label value with
      | error e =>
        simpa [perform, Context.store, hframes, hstore, bind, Except.bind] using
          .storeFailed hframes hstore
      | ok f' =>
        simpa [perform, Context.store, hframes, hstore, bind, Except.bind, pure, Except.pure]
          using .store hframes hstore

/-! ### What open frames have been fed -/

/-- The account of an open frame: its alternative, and what it has been fed since it was opened. -/
structure Account where
  rule : Rule
  fed : List (String × Tree)

/-- The frame that holds what its account says. -/
def Account.frame (a : Account) : Frame := .holding a.rule a.fed

/-- A frame that holds what its account says takes any value. -/
theorem Account.store_frame (a : Account) (label : String) (value : Tree) :
    a.frame.store label value = .ok (frame ⟨a.rule, a.fed ++ [(label, value)]⟩) :=
  Frame.store_holding a.rule label value

/-- The accounts behind an operation, the one of the innermost frame first. -/
def Operation.record : Operation → List Account → List Account
  | .push rule, accounts => ⟨rule, []⟩ :: accounts
  | .pop, accounts => accounts.tail
  | .store label value, a :: accounts => ⟨a.rule, a.fed ++ [(label, value)]⟩ :: accounts
  | _, accounts => accounts

/-- The accounts of the frames that operations leave open. -/
def accounts (ops : List Operation) : List Account := ops.foldl (fun as op => op.record as) []

section Accounts

variable {c c' : Context} {op : Operation} {answer : Answer} {as : List Account}

/-- A frame that holds what its account says is there if there is a frame at all. -/
theorem exists_account {f : Frame} {rest : List Frame} (h : c.frames = as.map Account.frame)
    (hframes : c.frames = f :: rest) :
    ∃ a as', as = a :: as' ∧ f = a.frame ∧ rest = as'.map Account.frame := by
  cases as with
  | nil => rw [h] at hframes; cases hframes
  | cons a as =>
    rw [h] at hframes
    cases hframes
    exact ⟨a, as, rfl, rfl, rfl⟩

theorem eq_nil_of_frames (h : c.frames = as.map Account.frame) (hframes : c.frames = []) :
    as = [] := by
  simpa [hframes] using h.symm

theorem store_ne_error {f : Frame} {rest : List Frame} {label : String} {value : Tree}
    {e : ContextError} (h : c.frames = as.map Account.frame) (hframes : c.frames = f :: rest) :
    f.store label value ≠ .error e := by
  obtain ⟨a, as, rfl, rfl, rfl⟩ := exists_account h hframes
  rw [Account.store_frame]
  exact nofun

/-- If the frames hold what their accounts say, they do so behind any operation. -/
theorem Performs.frames_eq (hop : Performs c op answer c') (h : c.frames = as.map Account.frame) :
    c'.frames = (op.record as).map Account.frame := by
  cases hop with
  | push rule => simp [Context.push, h, Operation.record, Account.frame]
  | pop hframes =>
    obtain ⟨a, as, rfl, rfl, rfl⟩ := exists_account h hframes
    rfl
  | popRefused hframes =>
    obtain rfl := eq_nil_of_frames h hframes
    exact h
  | take _ => exact h
  | takeRefused _ => exact h
  | seek index => exact h
  | look index => exact h
  | store hframes hstore =>
    obtain ⟨a, as, rfl, rfl, rfl⟩ := exists_account h hframes
    rw [Account.store_frame] at hstore
    cases hstore
    rfl
  | storeRefused hframes =>
    obtain rfl := eq_nil_of_frames h hframes
    exact h
  | storeFailed hframes hstore => exact absurd hstore (store_ne_error h hframes)

/-- Keeping a value fails only where there is no frame. -/
theorem Performs.of_store_error {label : String} {value : Tree} {e : ContextError}
    (hop : Performs c (.store label value) (.error e) c')
    (h : c.frames = as.map Account.frame) : c.frames = [] ∧ e = .storeWithoutFrame := by
  cases hop with
  | storeRefused hframes => exact ⟨hframes, rfl⟩
  | storeFailed hframes hstore => exact absurd hstore (store_ne_error h hframes)

/-- Every event is an operation on a state whose frames hold what their accounts say. -/
theorem exists_of_mem_run (h : c.frames = as.map Account.frame) {ops : List Operation} :
    ∀ e ∈ (c.run ops).1, ∃ (d : Context) (as' : List Account),
      d.frames = as'.map Account.frame ∧ Performs d e.operation e.answer e.after := by
  induction ops generalizing c as with
  | nil => simp [run]
  | cons op ops ih =>
    have hop := c.performs op
    exact List.forall_mem_cons.2 ⟨⟨c, as, h, hop⟩, ih (hop.frames_eq h)⟩

theorem frames_run_from (h : c.frames = as.map Account.frame) (ops : List Operation) :
    (c.run ops).2.frames = (ops.foldl (fun as op => op.record as) as).map Account.frame := by
  -- each operation hands on both a state and its accounts, so the induction is over all of them
  induction ops generalizing c as with
  | nil => exact h
  | cons op ops ih => exact ih ((c.performs op).frames_eq h)

theorem frames_start (tokens : Array Token) :
    (start tokens).frames = ([] : List Account).map Account.frame := rfl

/-- **The frames hold what they have been fed**, after any use of a fresh state. -/
theorem frames_run (tokens : Array Token) (ops : List Operation) :
    ((start tokens).run ops).2.frames = (accounts ops).map Account.frame :=
  frames_run_from (frames_start tokens) ops

end Accounts

end OrderedGrammar.Context
