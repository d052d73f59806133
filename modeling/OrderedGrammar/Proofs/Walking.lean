import OrderedGrammar.Proofs.Matching.Height
import OrderedGrammar.Walker.Basic

/-!
# Entering nodes

What a walk does with a node is what its handler does, or else a walk through the node's fields, if
there is room for the calls of it (`run_visitNodes_of_handler`, `run_visitNodes_of_none`).

## Main definitions

* `Walk.below` : the room that is left below a number of calls.
-/

namespace OrderedGrammar

namespace Walk

variable {κ ε σ : Type} {act : κ → (Tree → Walk κ ε σ Unit) → Node → Walk κ ε σ Unit}
  {w : Walker κ σ} {n : Node}

theorem run_enter (fuel : ℕ) (stack : Option (Stack κ ε)) :
    (enter act (fuel + 1) stack n).run w = (match w.handler? n.name with
      | some handler =>
        call stack (·.calls handler) fun stack => act handler (visitNodes (enter act fuel) stack) n
      | none => call stack (fun _ => ⟨2, 1⟩) fun stack =>
        children (visitNodes (enter act fuel) stack) n).run w := rfl

theorem run_enter_of_handler {handler : κ} (h : w.handler? n.name = some handler) (fuel : ℕ) :
    (enter act (fuel + 1) none n).run w =
      (act handler (visitNodes (enter act fuel) none) n).run w := by
  rw [run_enter, h]
  rfl

theorem run_enter_of_none (h : w.handler? n.name = none) (fuel : ℕ) :
    (enter act (fuel + 1) none n).run w =
      (children (visitNodes (enter act fuel) none) n).run w := by
  rw [run_enter, h]
  rfl

/-- Below a node there is less fuel, and enough for its fields. -/
theorem exists_fuel {m : Node} {fuel : ℕ} (h : m.toTree.height ≤ fuel) :
    ∃ k, fuel = k + 1 ∧ ∀ f ∈ m.fields, f.2.height ≤ k := by
  obtain ⟨k, rfl⟩ := Nat.exists_eq_add_of_le' ((Nat.le_add_left 1 _).trans h)
  exact ⟨k, rfl, Tree.fieldsHeight_le_iff.1 (Nat.le_of_add_le_add_right h)⟩

theorem height_le_of_itemsHeight {ms : List Node} {k : ℕ}
    (h : Tree.itemsHeight (ms.map Node.toTree) ≤ k) : ∀ m ∈ ms, m.toTree.height ≤ k :=
  fun _ hm => Tree.itemsHeight_le_iff.1 h _ (List.mem_map_of_mem hm)

/-- Below a node that holds a list of nodes, there is enough fuel for each of these. -/
theorem exists_fuel_of_list {name label : String} {ms : List Node} {fuel : ℕ}
    (h : (Node.toTree ⟨name, [(label, .list (ms.map Node.toTree))]⟩).height ≤ fuel) :
    ∃ k, fuel = k + 1 ∧ ∀ m ∈ ms, m.toTree.height ≤ k := by
  obtain ⟨k, rfl, hfields⟩ := exists_fuel (m := ⟨name, _⟩) h
  exact ⟨k, rfl, height_le_of_itemsHeight (hfields _ List.mem_cons_self)⟩

theorem visitNodes_node (enter : Option (Stack κ ε) → Node → Walk κ ε σ Unit)
    (stack : Option (Stack κ ε)) (n : Node) : visitNodes enter stack n.toTree =
      call stack (fun _ => ⟨1, 1⟩) fun stack => enter stack n := rfl

/-- A node with one field is walked through by visiting that. -/
theorem children_one (visit : Tree → Walk κ ε σ Unit) (name label : String) (t : Tree) :
    children visit ⟨name, [(label, t)]⟩ = visit t := by
  simp [children]

/-! ### Room -/

section Room

/-- The room that is left below a number of calls. -/
def below (room : Option ℕ) (calls : ℕ) : Option ℕ := room.map (· - calls)

theorem below_below (room : Option ℕ) (a b : ℕ) : below (below room a) b = below room (a + b) := by
  cases room with
  | none => rfl
  | some r => exact congrArg some (Nat.sub_sub r a b)

variable {room : Option ℕ} {k : ℕ}

theorem le_below {c : ℕ} (h : ∀ r ∈ room, k + c ≤ r) : ∀ r ∈ below room c, k ≤ r := by
  cases room with
  | none => nofun
  | some r =>
    rintro _ ⟨⟩
    exact Nat.le_sub_of_add_le (h r rfl)

variable {calls : κ → Calls} {overflow : ε} {taken : Stack κ ε → Calls} {c : Calls}
  {step : Option (Stack κ ε) → Walk κ ε σ Unit}

theorem call_of_le (htaken : ∀ r, taken ⟨r, calls, overflow⟩ = c) (h : ∀ r ∈ room, c.own ≤ r) :
    call (Stack.within calls overflow room) taken step =
      step (Stack.within calls overflow (below room c.below)) := by
  cases room with
  | none => rfl
  | some r =>
    have hle : ¬r < (taken ⟨r, calls, overflow⟩).own := by
      rw [htaken]
      exact Nat.not_lt.2 (h r rfl)
    exact (if_neg hle).trans (by rw [htaken]; rfl)

theorem call_of_lt (htaken : ∀ r, taken ⟨r, calls, overflow⟩ = c) {r : ℕ} (h : r < c.own) :
    call (Stack.within calls overflow (some r)) taken step = throw overflow := by
  have hlt : r < (taken ⟨r, calls, overflow⟩).own := by rwa [htaken]
  exact if_pos hlt

variable {fuel : ℕ}

/-- A node is handed to its handler if there is room for the handler's calls. -/
theorem run_visitNodes_of_handler {handler : κ} (hn : w.handler? n.name = some handler)
    (h : ∀ r ∈ room, (calls handler).own + 1 ≤ r) :
    (visitNodes (enter act (fuel + 1)) (Stack.within calls overflow room) n.toTree).run w =
      (act handler (visitNodes (enter act fuel)
        (Stack.within calls overflow (below room (1 + (calls handler).below)))) n).run w := by
  have hone : ∀ r ∈ room, (Calls.mk 1 1).own ≤ r := fun r hr => (Nat.le_add_left 1 _).trans (h r hr)
  rw [visitNodes_node, call_of_le (fun _ => rfl) hone, run_enter, hn]
  change (call _ _ _).run w = _
  rw [call_of_le (fun _ => rfl) (le_below h), below_below]

/-- A node without a handler is walked through if there is room for another call behind it. -/
theorem run_visitNodes_of_none (hn : w.handler? n.name = none) (h : ∀ r ∈ room, 3 ≤ r) :
    (visitNodes (enter act (fuel + 1)) (Stack.within calls overflow room) n.toTree).run w =
      (children (visitNodes (enter act fuel) (Stack.within calls overflow (below room 2))) n).run
        w := by
  have hone : ∀ r ∈ room, (Calls.mk 1 1).own ≤ r := fun r hr => (Nat.le_add_left 1 2).trans (h r hr)
  rw [visitNodes_node, call_of_le (fun _ => rfl) hone, run_enter, hn]
  change (call _ _ _).run w = _
  rw [call_of_le (c := ⟨2, 1⟩) (fun _ => rfl) (le_below h), below_below]
  rfl

/-- Without room for its calls, the visit of a node overflows. -/
theorem run_visitNodes_of_lt {r : ℕ}
    (h : r < (w.handler? n.name).elim 2 (fun handler => (calls handler).own) + 1) :
    (visitNodes (enter act (fuel + 1)) (Stack.within calls overflow (some r)) n.toTree).run w =
      .error overflow w := by
  rw [visitNodes_node]
  rcases Nat.eq_zero_or_pos r with rfl | hpos
  · rw [call_of_lt (fun _ => rfl) Nat.one_pos]
    rfl
  · have hlt := Nat.sub_lt_right_of_lt_add hpos h
    have hone : ∀ r' ∈ some r, (Calls.mk 1 1).own ≤ r' := fun r' hr' => Option.some.inj hr' ▸ hpos
    rw [call_of_le (fun _ => rfl) hone, run_enter]
    cases hn : w.handler? n.name with
    | none =>
      rw [hn] at hlt
      change (call (Stack.within calls overflow (some (r - 1))) _ _).run w = _
      rw [call_of_lt (c := ⟨2, 1⟩) (fun _ => rfl) hlt]
      rfl
    | some handler =>
      rw [hn] at hlt
      change (call (Stack.within calls overflow (some (r - 1))) _ _).run w = _
      rw [call_of_lt (fun _ => rfl) hlt]
      rfl

end Room

@[simp] theorem visitNodes_toTree (enter : Option (Stack κ ε) → Node → Walk κ ε σ Unit) (n : Node) :
    visitNodes enter none n.toTree = enter none n := rfl

/-! ### Whole walks -/

variable {t : Tree} {w' : Walker κ σ}

/-- A walk that comes to its end returns the state. -/
theorem run_walkWithin_of_ok {stack : Option (Stack κ ε)}
    (h : (call stack (fun _ => ⟨2, 2⟩) fun stack => visitWithin stack act t).run w = .ok () w') :
    (walkWithin stack act t).run w = .ok w'.state w' := by
  rw [walkWithin, EStateM.run_bind, h]
  rfl

theorem run_walkWithin_of_error {stack : Option (Stack κ ε)} {e : ε}
    (h : (call stack (fun _ => ⟨2, 2⟩) fun stack => visitWithin stack act t).run w = .error e w') :
    (walkWithin stack act t).run w = .error e w' := by
  rw [walkWithin, EStateM.run_bind, h]

theorem run_walk_of_ok (h : (visit act t).run w = .ok () w') :
    (walk act t).run w = .ok w'.state w' := run_walkWithin_of_ok h

theorem run_walk_of_error {e : ε} (h : (visit act t).run w = .error e w') :
    (walk act t).run w = .error e w' := run_walkWithin_of_error h

end Walk

end OrderedGrammar
