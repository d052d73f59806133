import OrderedGrammar.Proofs.Arithmetic.Completeness
import OrderedGrammar.Proofs.Arithmetic.Limits
import OrderedGrammar.Proofs.Walking

/-!
# Values of trees

Visiting the tree of a phrase puts the value on the integers' stack that the phrase comes to within
the limits of the walk, and leaves what is below it alone, or fails with the phrase's first error
(`Phrase.pushes`).
-/

namespace OrderedGrammar.Arithmetic

open Walk

/-! ### Steps of the evaluation -/

/-- Whether an evaluation ends with a value on top of the stack, or with an error. -/
def EndsWith (handlers : List (String × Handler)) (stack : List ℤ) (outcome : Except Error ℤ)
    (result : EStateM.Result Error (Walker Handler (List ℤ)) Unit) : Prop :=
  match outcome with
  | .ok v => result = .ok () ⟨handlers, v :: stack⟩
  | .error e => ∃ w, result = .error e w

/-- Whether a step puts a value on the stack, or ends with an error. -/
def Pushes (handlers : List (String × Handler)) (x : Eval Unit) (outcome : Except Error ℤ) : Prop :=
  ∀ stack, EndsWith handlers stack outcome (x.run ⟨handlers, stack⟩)

section Steps

variable {handlers : List (String × Handler)} {x : Eval Unit} {outcome : Except Error ℤ}

theorem pushes_push (v : ℤ) : Pushes handlers (push v) (.ok v) := fun _ => rfl

theorem pushes_throw (e : Error) : Pushes handlers (throw e) (.error e) := fun _ => ⟨_, rfl⟩

/-- A step goes on with the value that another one has put on the stack. -/
theorem Pushes.bind_pop (h : Pushes handlers x outcome) {next : ℤ → Eval Unit}
    {f : ℤ → Except Error ℤ} (hnext : ∀ v, Pushes handlers (next v) (f v)) :
    Pushes handlers (do x; let v ← pop; next v) (outcome.bind f) := by
  intro stack
  have hx := h stack
  cases outcome with
  | error e =>
    obtain ⟨w, hw⟩ := hx
    exact ⟨w, by rw [EStateM.run_bind, hw]⟩
  | ok v =>
    have hrun : (do x; let v ← pop; next v).run ⟨handlers, stack⟩ =
        (next v).run ⟨handlers, stack⟩ := by
      rw [EStateM.run_bind, hx]
      rfl
    rw [hrun]
    exact hnext v stack

variable {room : Option ℕ}

/-- A step that calls others is taken if there is room for its calls, and overflows if not. -/
theorem pushes_call {calls : Stack Handler Error → Calls} {c : Calls}
    (hcalls : ∀ r, calls ⟨r, Handler.calls, .overflow⟩ = c)
    {step : Option (Stack Handler Error) → Eval Unit}
    (hover : ∀ r ∈ room, r < c.own → outcome = .error .overflow)
    (h : (∀ r ∈ room, c.own ≤ r) →
      Pushes handlers (step (callStack (below room c.below))) outcome) :
    Pushes handlers (call (callStack room) calls step) outcome := by
  by_cases hroom : ∀ r ∈ room, c.own ≤ r
  · rw [call_of_le hcalls hroom]
    exact h hroom
  · obtain ⟨r, rfl, hlt⟩ : ∃ r, room = some r ∧ r < c.own := by simpa using hroom
    rw [call_of_lt hcalls hlt, hover r rfl hlt]
    exact pushes_throw _

/-- A token is visited in one call. -/
theorem pushes_token {enter : Option (Stack Handler Error) → Node → Eval Unit} {t : Token}
    (hover : ∀ r ∈ room, r < 1 → outcome = .error .overflow) (h : Pushes handlers x outcome) :
    Pushes handlers (do visitNodes enter (callStack room) (.token t); x) outcome := by
  have hvisit : (do visitNodes enter (callStack room) (.token t); x) =
      call (callStack room) (fun _ => ⟨1, 1⟩) fun _ => x := by
    cases room with
    | none => rfl
    | some r =>
      simp only [visitNodes, call, callStack, Option.map_some]
      split <;> rfl
  rw [hvisit]
  exact pushes_call (fun _ => rfl) hover fun _ => h

variable {digits : Option ℕ} {n : Node} {fuel : ℕ}

/-- There is as much less room below some calls. -/
theorem of_mem_below {calls k : ℕ} (h : ∀ r ∈ room, r < k + calls → outcome = .error .overflow) :
    ∀ r ∈ below room calls, r < k → outcome = .error .overflow := by
  cases room with
  | none => nofun
  | some r =>
    rintro _ ⟨⟩ hlt
    have hlt : r - calls < k := hlt
    exact h r rfl (by omega)

/-- What is pushed when a node is visited is what its handler pushes. -/
theorem pushes_visit_of_handler {handler : Handler}
    (hn : handlers.lookup (Text.lowercase n.name) = some handler)
    (hover : ∀ r ∈ room, r < handler.calls.own + 1 → outcome = .error .overflow)
    (h : (∀ r ∈ room, handler.calls.own + 1 ≤ r) → Pushes handlers (act digits handler
      (visitNodes (enter (act digits) fuel) (callStack (below room (1 + handler.calls.below)))) n)
        outcome) :
    Pushes handlers (visitNodes (enter (act digits) (fuel + 1)) (callStack room) n.toTree)
      outcome := by
  intro stack
  have hhandler : Walker.handler? ⟨handlers, stack⟩ n.name = some handler := hn
  by_cases hroom : ∀ r ∈ room, handler.calls.own + 1 ≤ r
  · rw [run_visitNodes_of_handler hhandler hroom]
    exact h hroom stack
  · obtain ⟨r, rfl, hlt⟩ : ∃ r, room = some r ∧ r < handler.calls.own + 1 := by simpa using hroom
    rw [hover r rfl hlt, run_visitNodes_of_lt (by rwa [hhandler])]
    exact ⟨_, rfl⟩

theorem pushes_visit_of_none (hn : handlers.lookup (Text.lowercase n.name) = none)
    (hover : ∀ r ∈ room, r < 3 → outcome = .error .overflow)
    (h : Pushes handlers
      (children (visitNodes (enter (act digits) fuel) (callStack (below room 2))) n) outcome) :
    Pushes handlers (visitNodes (enter (act digits) (fuel + 1)) (callStack room) n.toTree)
      outcome := by
  intro stack
  have hhandler : Walker.handler? ⟨handlers, stack⟩ n.name = none := hn
  by_cases hroom : ∀ r ∈ room, 3 ≤ r
  · rw [run_visitNodes_of_none hhandler hroom]
    exact h stack
  · obtain ⟨r, rfl, hlt⟩ : ∃ r, room = some r ∧ r < 3 := by simpa using hroom
    rw [hover r rfl hlt, run_visitNodes_of_lt (by rwa [hhandler])]
    exact ⟨_, rfl⟩

end Steps

/-! ### Handlers -/

section Handlers

variable (d : Dialect)

theorem lookup_factor : d.walker.handlers.lookup (Text.lowercase "factor") = some .factor := by
  cases d <;> rfl

theorem lookup_primary : d.walker.handlers.lookup (Text.lowercase "primary") = some .primary := by
  cases d <;> rfl

theorem lookup_tail (l : Level) : d.walker.handlers.lookup (Text.lowercase (d.tail l)) = none := by
  cases d <;> cases l <;> rfl

theorem lookup_named (l : Level) :
    Dialect.named.walker.handlers.lookup (Text.lowercase l.name) = none ∧
      Dialect.named.walker.handlers.lookup (Text.lowercase (Dialect.named.inner l)) =
        some (.chain l.label) := by
  cases l <;> exact ⟨rfl, rfl⟩

theorem lookup_grouped (l : Level) :
    Dialect.grouped.walker.handlers.lookup (Text.lowercase l.name) = some (.chain l.label) := by
  cases l <;> rfl

end Handlers

theorem operate_lexeme {l : Level} (op : Operator l) (a b : ℤ) :
    operate op.lexeme.2 a b = match op.apply a b with
      | some c => .ok c
      | none => .error .divisionByZero := by
  cases op with
  | divide =>
    simp only [operate, Operator.lexeme, Operator.apply]
    split <;> rfl
  | _ => rfl

/-! ### Numbers -/

theorem naturalFrom_eq {cs : List Char} (h : ∀ c ∈ cs, Text.isDecimal c) (acc : ℕ) :
    Text.naturalFrom? acc cs =
      some (cs.foldl (fun value c => 10 * value + (Text.digitValue? c).getD 0) acc) := by
  induction cs generalizing acc with
  | nil => rfl
  | cons c cs ih =>
    obtain ⟨hc, hcs⟩ := List.forall_mem_cons.1 h
    obtain ⟨v, hv⟩ := Option.isSome_iff_exists.1 hc
    rw [Text.naturalFrom?, hv, Option.bind_some, ih hcs, List.foldl_cons, hv, Option.getD_some]

/-- Digits are read as the number that they write. -/
theorem Numeral.integer_eq (n : Numeral) : Text.integer? n.digits = some (n.value : ℤ) := by
  obtain ⟨digits, hne, hdecimal⟩ := n
  obtain ⟨c, cs, rfl⟩ := List.exists_cons_of_ne_nil hne
  have hplus : ¬Text.isDecimal '+' := by decide
  have hminus : ¬Text.isDecimal '-' := by decide
  have hc := hdecimal c List.mem_cons_self
  have hnatural : Text.natural? (c :: cs) = some (Numeral.value ⟨c :: cs, hne, hdecimal⟩) :=
    naturalFrom_eq hdecimal 0
  rw [Text.integer?.eq_def]
  split
  · next heq => cases heq; exact absurd hc hplus
  · next heq => cases heq; exact absurd hc hminus
  · rw [hnatural]
    rfl

/-! ### Trees -/

/-- The nodes of phrases have no operator. -/
theorem IsTree.has_op {d : Dialect} {c : Category} {p : Phrase c} {m : Node} (h : IsTree d p m) :
    m.has "OP" = false := by
  cases h with
  | number _ => rfl
  | group _ => rfl
  | unsigned _ => rfl
  | @signed sign _ _ _ _ => cases sign <;> rfl
  | @row l _ _ _ _ _ _ => cases d <;> cases l <;> rfl

theorem act_chain (digits : Option ℕ) (visit : Tree → Eval Unit) (name label : String)
    (ms : List Node) : act digits (.chain label) visit
      ⟨name, [(label, .list (ms.map Node.toTree))]⟩ = chain visit 0 ms := by
  have hnodes : Node.getNodes ⟨name, [(label, .list (ms.map Node.toTree))]⟩ label = .ok ms :=
    Notation.getNodes_eq (by simp)
  simp [act, hnodes, access]


section Trees

variable {d : Dialect} {digits : Option ℕ} {fuel : ℕ} {outcome : Except Error ℤ}

theorem height_rowNode (d : Dialect) (l : Level) (ms : List Node) :
    (d.rowNode l ms).toTree.height = Tree.itemsHeight (ms.map Node.toTree) +
      match d with
      | .named => 2
      | .grouped => 1 := by
  cases d <;>
    simp only [Dialect.rowNode, Node.toTree, Tree.height, Tree.fieldsHeight, Nat.max_zero]

/-- With less room than a phrase takes at the least, there is not enough of it further down. -/
theorem Phrase.overflows {c : Category} (p : Phrase c) (room : Option ℕ) {calls own : ℕ}
    (hown : own ≤ numberCalls + calls) :
    ∀ r ∈ room, r < own → p.outcome d digits (below room calls) = .error .overflow := by
  rintro r rfl hlt
  have hpos : 0 < numberCalls := by decide
  have hleft : r - calls < numberCalls := by omega
  exact p.outcome_of_lt hleft

/-- The node of a row is evaluated operand by operand. -/
theorem pushes_row {l : Level} {ms : List Node} {room : Option ℕ}
    (hfuel : (d.rowNode l ms).toTree.height ≤ fuel)
    (hover : ∀ r ∈ room, r < d.rowCalls + 1 → outcome = .error .overflow)
    (h : ∀ fuel, (∀ m ∈ ms, m.toTree.height ≤ fuel) →
      Pushes d.walker.handlers (chain (visitNodes (enter (act digits) fuel)
        (callStack (below room d.rowCalls))) 0 ms) outcome) :
    Pushes d.walker.handlers (visitNodes (enter (act digits) fuel) (callStack room)
      (d.rowNode l ms).toTree) outcome := by
  -- with named tails the operands stand one node further down, which no handler is for
  cases d with
  | named =>
    rw [height_rowNode] at hfuel
    obtain ⟨k, rfl⟩ := Nat.exists_eq_add_of_le' ((Nat.le_add_left 2 _).trans hfuel)
    refine pushes_visit_of_none (lookup_named l).1
      (fun r hr hlt => hover r hr (hlt.trans (by decide))) ?_
    rw [Dialect.rowNode, children_one]
    have hbelow : below (below room 2) 4 = below room Dialect.named.rowCalls := below_below room 2 4
    have hinner : ∀ r ∈ below room 2, r < 5 → outcome = .error .overflow := of_mem_below hover
    refine pushes_visit_of_handler (n := ⟨Dialect.named.inner l, _⟩) (lookup_named l).2 hinner
      fun _ => ?_
    rw [act_chain]
    have hchain := h k (height_le_of_itemsHeight (Nat.le_of_add_le_add_right hfuel))
    rwa [← hbelow] at hchain
  | grouped =>
    obtain ⟨k, rfl, hitems⟩ := exists_fuel_of_list hfuel
    refine pushes_visit_of_handler (lookup_grouped l) hover fun _ => ?_
    rw [Dialect.rowNode, act_chain]
    exact h k hitems

/-- The number of a token is read if it does not have too many digits. -/
theorem pushes_number {handlers : List (String × Handler)} {n : Numeral} {text : String}
    (h : text = String.ofList n.digits) :
    Pushes handlers (do push (← number digits text)) (n.read digits) := by
  have hcount : n.digits.countP Text.isDecimal = n.digits.length :=
    List.countP_eq_length.2 n.isDecimal
  have hvalue : Text.integer? text.toList = some (n.value : ℤ) := by
    rw [h, String.toList_ofList, n.integer_eq]
  rw [number, hvalue, h, String.toList_ofList]
  cases digits with
  | none => exact pushes_push _
  | some most =>
    by_cases hlt : most < n.digits.length
    · simp only [excess?, Option.bind_some, hcount, Numeral.read, if_pos hlt]
      exact pushes_throw _
    · simp only [excess?, Option.bind_some, hcount, Numeral.read, if_neg hlt]
      exact pushes_push _

theorem act_primary_number (visit : Tree → Eval Unit) (t : Token) :
    act digits .primary visit ⟨"primary", [("NUMBER_LITERAL", .token t)]⟩ =
      (do push (← number digits t.text)) := by
  have hhas : Node.has ⟨"primary", [("NUMBER_LITERAL", .token t)]⟩ "NUMBER_LITERAL" = true := rfl
  have htext : Node.getText ⟨"primary", [("NUMBER_LITERAL", .token t)]⟩ "NUMBER_LITERAL" =
      .ok t.text := rfl
  simp [act, hhas, htext, access]

theorem act_primary_group (visit : Tree → Eval Unit) (m : Node) :
    act digits .primary visit ⟨"primary", [("expression", m.toTree)]⟩ = visit m.toTree := by
  have hhas : Node.has ⟨"primary", [("expression", m.toTree)]⟩ "NUMBER_LITERAL" = false := rfl
  have hnode : Node.getNode ⟨"primary", [("expression", m.toTree)]⟩ "expression" = .ok m := rfl
  simp [act, hhas, hnode, access]

theorem act_factor_unsigned (visit : Tree → Eval Unit) (m : Node) :
    act digits .factor visit ⟨"factor", [("primary", m.toTree)]⟩ = visit m.toTree := by
  have hhas : Node.has ⟨"factor", [("primary", m.toTree)]⟩ "MINUS_OP" = false := rfl
  have hnode : Node.getNode ⟨"factor", [("primary", m.toTree)]⟩ "primary" = .ok m := rfl
  simp [act, hhas, hnode, access]

theorem act_factor_signed (visit : Tree → Eval Unit) (sign : Operator .sum) (t : Token) (m : Node) :
    act digits .factor visit ⟨"factor", [(sign.lexeme.1, .token t), ("primary", m.toTree)]⟩ =
      match sign with
      | .plus => visit m.toTree
      | .minus => (do visit m.toTree; let v ← pop; push (-v)) := by
  have hnode : Node.getNode ⟨"factor", [(sign.lexeme.1, .token t), ("primary", m.toTree)]⟩
      "primary" = .ok m := by cases sign <;> rfl
  have hhas : Node.has ⟨"factor", [(sign.lexeme.1, .token t), ("primary", m.toTree)]⟩ "MINUS_OP" =
      (sign == .minus) := by cases sign <;> rfl
  cases sign <;> simp [act, hhas, hnode, access]

theorem chain_cons_of_has (visit : Tree → Eval Unit) (total : ℤ) {l : Level} (op : Operator l)
    {name label : String} {t : Token} (ht : t.text = op.lexeme.2) (m : Node) (ms : List Node) :
    chain visit total (⟨name, [("OP", .token t), (label, m.toTree)]⟩ :: ms) = (do
      visit (Node.toTree ⟨name, [("OP", .token t), (label, m.toTree)]⟩)
      let v ← pop
      match outcomeOf (op.apply total v) with
      | .ok total => chain visit total ms
      | .error e => throw e) := by
  have hhas : Node.has ⟨name, [("OP", .token t), (label, m.toTree)]⟩ "OP" = true := rfl
  have htext : Node.getText ⟨name, [("OP", .token t), (label, m.toTree)]⟩ "OP" = .ok t.text := rfl
  simp only [chain, hhas, htext, access, ht, operate_lexeme, if_true, pure_bind]
  refine congrArg _ (funext fun _ => congrArg _ (funext fun v => ?_))
  cases op.apply total v <;> rfl

theorem chain_cons_of_not_has (visit : Tree → Eval Unit) (total : ℤ) {m : Node}
    (hm : m.has "OP" = false) (ms : List Node) :
    chain visit total (m :: ms) = (do visit m.toTree; let v ← pop; chain visit v ms) := by
  simp [chain, hm]

/-- The node of an operand behind its operator has a token to be visited first. -/
theorem pushes_tail {l : Level} {t : Token} {m : Node} {room : Option ℕ}
    (hover : ∀ r ∈ room, r < 3 → outcome = .error .overflow)
    (h : Pushes d.walker.handlers (visitNodes (enter (act digits) fuel)
      (callStack (below room tailCalls)) m.toTree) outcome) :
    Pushes d.walker.handlers (visitNodes (enter (act digits) (fuel + 1)) (callStack room)
      (Node.toTree ⟨d.tail l, [("OP", .token t), (l.operandName, m.toTree)]⟩)) outcome := by
  refine pushes_visit_of_none (lookup_tail d l) hover ?_
  have hchildren (visit : Tree → Eval Unit) :
      children visit ⟨d.tail l, [("OP", .token t), (l.operandName, m.toTree)]⟩ =
        (do visit (.token t); visit m.toTree) := by
    simp [children]
  rw [hchildren]
  exact pushes_token (of_mem_below hover) h

theorem map_signed_none (x : Except Error ℤ) : x.map (signed none) = x := by
  cases x <;> rfl

theorem map_signed_plus (x : Except Error ℤ) : x.map (signed (some .plus)) = x := by
  cases x <;> rfl

mutual

/-- **Visiting the tree of a phrase pushes what the phrase comes to.** -/
theorem Phrase.pushes : ∀ {c : Category} (p : Phrase c) {m : Node} {fuel : ℕ} (room : Option ℕ),
    IsTree d p m → m.toTree.height ≤ fuel → Pushes d.walker.handlers
      (visitNodes (enter (act digits) fuel) (callStack room) m.toTree) (p.outcome d digits room)
  | _, .number n, _, fuel, room, .number ht, hfuel => by
    obtain ⟨k, rfl, -⟩ := exists_fuel hfuel
    refine pushes_visit_of_handler (lookup_primary d) ?_ fun hroom => ?_
    · rintro r rfl hlt
      exact Phrase.outcome_of_lt (.number n) hlt
    · rw [act_primary_number, Phrase.outcome, n.outcome_of_le hroom]
      exact pushes_number ht
  | _, .group body, _, fuel, room, .group hm, hfuel => by
    obtain ⟨k, rfl, hfields⟩ := exists_fuel hfuel
    refine pushes_visit_of_handler (lookup_primary d) (body.overflows room (by decide)) fun _ => ?_
    rw [act_primary_group]
    exact body.pushes _ hm (hfields _ List.mem_cons_self)
  | _, .factor none operand, _, fuel, room, .unsigned hm, hfuel => by
    obtain ⟨k, rfl, hfields⟩ := exists_fuel hfuel
    rw [Phrase.outcome, map_signed_none]
    refine pushes_visit_of_handler (lookup_factor d) (operand.overflows room (by decide))
      fun _ => ?_
    rw [act_factor_unsigned]
    exact operand.pushes _ hm (hfields _ List.mem_cons_self)
  | _, .factor (some sign) operand, _, fuel, room, .signed hm, hfuel => by
    obtain ⟨k, rfl, hfields⟩ := exists_fuel hfuel
    have hoperand := operand.pushes (below room innerCalls) hm
      (hfields _ (List.mem_cons_of_mem _ List.mem_cons_self))
    refine pushes_visit_of_handler (lookup_factor d) (fun r hr hlt => ?_) fun _ => ?_
    · rw [Phrase.outcome, operand.overflows room (by decide) r hr hlt]
      rfl
    · rw [act_factor_signed, Phrase.outcome]
      cases sign with
      | plus => rwa [map_signed_plus]
      | minus => exact hoperand.bind_pop fun v => pushes_push (-v)
  | _, .row first rest, _, fuel, room, .row hm hms, hfuel => by
    have hover : d.rowCalls + 1 ≤ numberCalls + d.rowCalls := by
      rw [Nat.add_comm]
      exact Nat.add_le_add_right (by decide) _
    refine pushes_row hfuel (fun r hr hlt => ?_) fun k hk => ?_
    · rw [Phrase.outcome, first.overflows room hover r hr hlt]
      rfl
    · obtain ⟨hfirst, hrest⟩ := List.forall_mem_cons.1 hk
      rw [chain_cons_of_not_has _ _ hm.has_op]
      exact (first.pushes _ hm hfirst).bind_pop fun v => rest.pushes v _ hms hrest

/-- So does going through the operands of a row behind the first. -/
theorem Rest.pushes : ∀ {l : Level} (rest : Rest l) {ms : List Node} {fuel : ℕ} (total : ℤ)
    (room : Option ℕ), AreTails d rest ms → (∀ m ∈ ms, m.toTree.height ≤ fuel) →
      Pushes d.walker.handlers
        (chain (visitNodes (enter (act digits) fuel) (callStack room)) total ms)
        (rest.outcome d digits total room)
  | _, .nil, _, _, total, _, .nil, _ => pushes_push total
  | l, .cons op operand rest, _, fuel, total, room, .cons ht hm hms, hfuel => by
    obtain ⟨htail, hrest⟩ := List.forall_mem_cons.1 hfuel
    obtain ⟨k, rfl, hfields⟩ := exists_fuel htail
    have hoperand := operand.pushes (below room tailCalls) hm
      (hfields _ (List.mem_cons_of_mem _ List.mem_cons_self))
    -- the value of the operand is popped before the operator is applied, so that the stack is as
    -- it was when the next operand is visited
    rw [chain_cons_of_has _ _ _ ht, Rest.outcome]
    refine (pushes_tail (operand.overflows room (by decide)) hoperand).bind_pop fun v => ?_
    cases outcomeOf (op.apply total v) with
    | error e => exact pushes_throw e
    | ok total => exact rest.pushes total room hms hrest

end

/-- What is on the stack after a walk through the tree of an expression. -/
theorem evaluate_eq {e : Expression} {m : Node} (h : IsTree d e m) (limits : Limits) :
    evaluate limits d.walker m.toTree =
      (e.outcome d limits.digits (below limits.calls walkCalls)).map ([·]) := by
  have hstart : d.walker = ⟨d.walker.handlers, []⟩ := by cases d <;> rfl
  have hover : ∀ r ∈ limits.calls, r < walkCalls → e.outcome d limits.digits
      (below limits.calls walkCalls) = .error .overflow := e.overflows limits.calls (by decide)
  have hrun : EndsWith d.walker.handlers []
      (e.outcome d limits.digits (below limits.calls walkCalls))
      ((call (callStack limits.calls) (fun _ => ⟨2, 2⟩) fun stack =>
        visitWithin stack (act limits.digits) m.toTree).run d.walker) := by
    rw [hstart]
    exact pushes_call (fun _ => rfl) hover (fun _ => e.pushes _ h le_rfl) []
  rw [evaluate]
  cases hv : e.outcome d limits.digits (below limits.calls walkCalls) with
  | error e =>
    rw [hv] at hrun
    obtain ⟨w, hw⟩ := hrun
    rw [run_walkWithin_of_error hw]
    rfl
  | ok v =>
    rw [hv] at hrun
    rw [run_walkWithin_of_ok hrun]
    rfl

end Trees

end OrderedGrammar.Arithmetic
