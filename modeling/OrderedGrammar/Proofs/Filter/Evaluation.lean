import OrderedGrammar.Proofs.Filter.Soundness
import OrderedGrammar.Proofs.Notation.Emission
import OrderedGrammar.Proofs.Walking

/-!
# The predicates of trees

Visiting the tree of a condition puts one predicate on the stack and leaves what is below it alone
(`Phrase.pushes`).  The predicate is the condition's answer, for every record and with the errors
that records lead to.  As all number literals are integers, the walk fails only where it comes to
its limits; where it has no room for all of its calls, it overflows (`Phrase.overflows`).

## Main definitions

* `Pushes` : a step puts a predicate on the stack.
* `Phrase.calls` : the calls that a visit of a phrase's tree takes.
* `Phrase.Fits` : whether a phrase can be built within limits.
-/

namespace OrderedGrammar.Filter

open Walk

/-! ### Tokens -/

section Tokens

variable {t : Token}

theorem columnName_eq {o : Operand} (h : o.IsToken t) : columnName t = o.name := by
  rw [columnName, h.2, Operand.name]

theorem excess_eq_none {digits : Option ℕ} {cs : List Char}
    (h : ∀ most ∈ digits, cs.countP Text.isDecimal ≤ most) : excess? digits cs = none := by
  cases digits with
  | none => rfl
  | some most => exact if_neg (Nat.not_lt.2 (h most rfl))

/-- The literal of a token is the value of the operand that it writes. -/
theorem literal_eq {digits : Option ℕ} {o : Operand} (h : o.IsToken t)
    (hshort : o.IsShort digits) : literal digits t = pure o.value := by
  obtain ⟨hkind, htext⟩ := h
  obtain ⟨kind, text, hread⟩ := o
  obtain rfl : t.text = text := htext
  have hkind : t.kind = kind.name := hkind
  by_cases hnumber : kind = .number
  · obtain ⟨n, hn⟩ := Option.isSome_iff_exists.1 (hread hnumber)
    have hint : Text.groupedInteger? (Text.trim t.text.toList) = some n := hn
    have hvalue : Operand.value ⟨kind, t.text, hread⟩ = .int n := by
      rw [Operand.value, dif_pos hnumber]
      simp only [hn, Option.get_some]
    have hliteral : t.kind = "LITERAL_NUMBER" := by
      rw [hkind, hnumber]
      rfl
    have hcount : ∀ most ∈ digits, t.text.toList.countP Text.isDecimal ≤ most := by
      simpa [Operand.IsShort, Operand.digits, hnumber] using hshort
    rw [literal, if_pos hliteral, hint, hvalue]
    simp only [excess_eq_none hcount]
  · have hliteral : t.kind ≠ "LITERAL_NUMBER" := by
      rw [hkind]
      cases kind with
      | number => exact absurd rfl hnumber
      | string | identifier => decide
    rw [literal, if_neg hliteral, Operand.value, dif_neg hnumber]
    rfl

theorem comparison_eq {c : Comparison} (h : t.kind = c.kind) : comparison t = pure c := by
  rcases c with _ | _ | (_ | _ | _ | _) <;>
  · rw [comparison, h]
    rfl

end Tokens

/-! ### Values -/

/-- A comparison by order, found out by two questions, is what it says. -/
theorem Order.decide_eq {α : Type} [LinearOrder α] (order : Order) (a b : α) :
    order.decide (a < b) (a = b) = Decidable.decide (order.Holds a b) := by
  rw [Bool.eq_iff_iff, decide_eq_true_iff]
  cases order with
  | less => exact decide_eq_true_iff
  | lessOrEqual => simp [Order.decide, Order.Holds, le_iff_lt_or_eq]
  | greater =>
    simp only [Order.decide, Order.Holds, Bool.and_eq_true, Bool.not_eq_true',
      decide_eq_false_iff_not, not_lt]
    exact ⟨fun h => lt_of_le_of_ne h.1 (Ne.symm h.2), fun h => ⟨h.le, h.ne'⟩⟩
  | greaterOrEqual => simp [Order.decide, Order.Holds]

theorem Comparison.compare_eq (c : Comparison) (a b : Value) : c.compare a b = c.eval a b := by
  cases c with
  | equal => rfl
  | notEqual => rfl
  | order o =>
    cases a with
    | int a =>
      cases b with
      | int b => exact congrArg Except.ok (o.decide_eq a b)
      | text b => rfl
    | text a =>
      cases b with
      | int b => rfl
      | text b => exact congrArg Except.ok (o.decide_eq a b)

theorem occursIn_eq (part whole : List Char) : occursIn part whole = decide (part <:+: whole) := by
  induction whole with
  | nil =>
    rw [occursIn, Bool.eq_iff_iff, List.isEmpty_iff, decide_eq_true_iff, List.infix_nil]
  | cons c whole ih =>
    rw [occursIn, ih, Bool.eq_iff_iff, Bool.or_eq_true, List.isPrefixOf_iff_prefix,
      decide_eq_true_iff, decide_eq_true_iff, List.infix_cons_iff]

theorem contains_eq (whole part : Value) : contains whole part = whole.includes part := by
  cases whole with
  | int n => rfl
  | text whole =>
    cases part with
    | int n => rfl
    | text part => exact congrArg Except.ok (occursIn_eq part.toList whole.toList)

theorem isBlank_eq (v : Value) : v.isBlank = decide (v = .int 0 ∨ v = .text "") := by
  cases v with
  | int n => simp [Value.isBlank]
  | text s => simp [Value.isBlank]

/-! ### Predicates -/

/-- The predicate of a comparison. -/
theorem comparison_predicate (left right : Operand) (operator : Comparison) :
    (fun record => do operator.compare (← column record left.name) right.value) =
      (Test.comparison left operator right).eval := by
  funext record
  rw [column, Test.eval, Test.left]
  cases record.lookup left.name with
  | none => rfl
  | some v => exact operator.compare_eq v right.value

/-- The predicate of a relation, given what it asks of the value. -/
theorem relation_predicate {left : Operand} {asked : Relation} {ask : Value → Except Error Bool}
    (h : ∀ v, ask v = asked.eval v) (negated : Bool) :
    negateIf negated (fun record => do ask (← column record left.name)) =
      (Test.relation left negated asked).eval := by
  funext record
  rw [negateIf, column, Test.eval, Test.left]
  cases record.lookup left.name with
  | none => rfl
  | some v =>
    have hask : (Except.ok v >>= fun v => ask v) = asked.eval v := h v
    simp only [hask]
    cases hasked : asked.eval v with
    | error e => cases negated <;> simp only [Test.holds, hasked] <;> rfl
    | ok answer => cases negated <;> cases answer <;> simp only [Test.holds, hasked] <;> rfl

/-- What is asked for an operand between two bounds. -/
theorem between_eq (low high : Operand) (v : Value) :
    (do if ← Order.lessOrEqual.compare low.value v then Order.lessOrEqual.compare v high.value
        else return false) = (Relation.between low high).eval v := by
  rw [Relation.eval, ← Comparison.compare_eq, ← Comparison.compare_eq]
  rfl

/-- The predicate of a row of operands. -/
def Level.fold : Level → List Predicate → Predicate
  | .disjunction => anyOf
  | .conjunction => allOf

theorem Level.fold_nil (l : Level) (record : Record) : l.fold [] record = .ok !l.decisive := by
  cases l <;> rfl

theorem Level.fold_cons (l : Level) (p : Predicate) (ps : List Predicate) (record : Record) :
    l.fold (p :: ps) record = l.join (p record) (l.fold ps record) := by
  cases l with
  | disjunction =>
    simp only [fold, anyOf]
    cases p record with
    | error e => rfl
    | ok answer => cases answer <;> rfl
  | conjunction =>
    simp only [fold, allOf]
    cases p record with
    | error e => rfl
    | ok answer => cases answer <;> rfl

/-! ### Steps of the walk -/

/-- Whether a step puts a predicate on the stack, and does nothing else. -/
def Pushes (x : Build Unit) (p : Predicate) : Prop :=
  ∀ stack, x.run ⟨walker.handlers, stack⟩ = .ok () ⟨walker.handlers, p :: stack⟩

/-- Whether there is no room for the calls of a step. -/
def Overflows {α : Type} (x : Build α) : Prop :=
  ∀ stack, ∃ w, x.run ⟨walker.handlers, stack⟩ = .error .overflow w

/-- The calls down to what a node has inside. -/
def innerCalls : ℕ := 3

section Steps

variable {digits room : Option ℕ} {n m : Node} {fuel r : ℕ} {handler : Handler} {p : Predicate}
  {visit : Tree → Build Unit}

theorem pushes_push (p : Predicate) : Pushes (push p) p := fun _ => rfl

theorem Overflows.bind {α β : Type} {x : Build α} (h : Overflows x) (f : α → Build β) :
    Overflows (x >>= f) := by
  intro stack
  obtain ⟨w, hw⟩ := h stack
  exact ⟨w, by rw [EStateM.run_bind, hw]⟩

/-- What is pushed when a node is visited is what its handler pushes. -/
theorem pushes_visit (hn : walker.handlers.lookup (Text.lowercase n.name) = some handler)
    (hroom : ∀ r ∈ room, handler.calls.own + 1 ≤ r)
    (h : Pushes (act digits handler (visitNodes (enter (act digits) fuel)
      (callStack (below room innerCalls))) n) p) :
    Pushes (visitNodes (enter (act digits) (fuel + 1)) (callStack room) n.toTree) p := by
  have hbelow : 1 + handler.calls.below = innerCalls := by cases handler <;> rfl
  intro stack
  rw [run_visitNodes_of_handler (w := ⟨walker.handlers, stack⟩) hn hroom, hbelow]
  exact h stack

/-- A visit overflows if its handler has no room, or overflows further down. -/
theorem overflows_visit (hn : walker.handlers.lookup (Text.lowercase n.name) = some handler)
    (h : handler.calls.own + 1 ≤ r → Overflows (act digits handler (visitNodes
      (enter (act digits) fuel) (callStack (some (r - innerCalls)))) n)) :
    Overflows (visitNodes (enter (act digits) (fuel + 1)) (callStack (some r)) n.toTree) := by
  intro stack
  have hhandler : Walker.handler? ⟨walker.handlers, stack⟩ n.name = some handler := hn
  by_cases hroom : handler.calls.own + 1 ≤ r
  · have hbelow : 1 + handler.calls.below = innerCalls := by cases handler <;> rfl
    have hall : ∀ r' ∈ some r, handler.calls.own + 1 ≤ r' := by
      rintro _ ⟨⟩
      exact hroom
    rw [run_visitNodes_of_handler hhandler hall, hbelow]
    exact h hroom stack
  · rw [run_visitNodes_of_lt (by rw [hhandler]; exact Nat.lt_of_not_le hroom)]
    exact ⟨_, rfl⟩

theorem predicates_cons (visit : Tree → Build Unit) (m : Node) (ms : List Node) :
    predicates visit (m :: ms) =
      (do visit m.toTree; pop) >>= fun p => predicates visit ms >>= fun ps => pure (p :: ps) :=
  List.mapM_cons

/-- The predicate of a node is popped again before the next node is visited. -/
theorem run_predicates_cons (hm : Pushes (visit m.toTree) p) (ms : List Node)
    (stack : List Predicate) : (predicates visit (m :: ms)).run ⟨walker.handlers, stack⟩ =
      (predicates visit ms >>= fun ps => pure (p :: ps)).run ⟨walker.handlers, stack⟩ := by
  have hpop : (do visit m.toTree; pop : Build Predicate).run ⟨walker.handlers, stack⟩ =
      .ok p ⟨walker.handlers, stack⟩ := by
    rw [EStateM.run_bind, hm stack]
    rfl
  rw [predicates_cons, EStateM.run_bind, hpop]

/-- The predicates that nodes push are collected, and the stack is as it was. -/
theorem run_predicates {ms : List Node} {ps : List Predicate}
    (h : List.Forall₂ (fun m p => Pushes (visit m.toTree) p) ms ps) (stack : List Predicate) :
    (predicates visit ms).run ⟨walker.handlers, stack⟩ = .ok ps ⟨walker.handlers, stack⟩ := by
  induction h with
  | nil => rfl
  | cons hm _ ih =>
    rw [run_predicates_cons hm, EStateM.run_bind, ih]
    rfl

end Steps

/-- The handler of a row. -/
def Level.handler : Level → Handler
  | .disjunction => .condition
  | .conjunction => .term

theorem lookup_comparison :
    walker.handlers.lookup (Text.lowercase "comparison_predicate") = some .comparison := by
  rfl

theorem lookup_group :
    walker.handlers.lookup (Text.lowercase "boolean_primary") = some .parentheses := by
  rfl

theorem lookup_row (l : Level) :
    walker.handlers.lookup (Text.lowercase l.name) = some l.handler := by
  cases l <;> rfl

/-- The handler of a row collects the predicates of its operands. -/
theorem act_row (digits : Option ℕ) (l : Level) (visit : Tree → Build Unit) (ms : List Node) :
    act digits l.handler visit ⟨l.name, [(l.connective, .list (ms.map Node.toTree))]⟩ =
      predicates visit ms >>= fun ps => push (l.fold ps) := by
  have hnodes : Node.getNodes ⟨l.name, [(l.connective, .list (ms.map Node.toTree))]⟩
      l.connective = .ok ms := Notation.getNodes_eq (by simp)
  cases l with
  | disjunction =>
    have hnodes : Node.getNodes _ "OR" = .ok ms := hnodes
    simp only [Level.handler, act, hnodes, access, pure_bind]
    rfl
  | conjunction =>
    have hnodes : Node.getNodes _ "AND" = .ok ms := hnodes
    simp only [Level.handler, act, hnodes, access, pure_bind]
    rfl

/-- A row pushes the predicate of its operands' predicates. -/
theorem pushes_row {digits : Option ℕ} {l : Level} {visit : Tree → Build Unit} {ms : List Node}
    {ps : List Predicate}
    (h : List.Forall₂ (fun m p => Pushes (visit m.toTree) p) ms ps) :
    Pushes (act digits l.handler visit ⟨l.name, [(l.connective, .list (ms.map Node.toTree))]⟩)
      (l.fold ps) := by
  intro stack
  rw [act_row, EStateM.run_bind, run_predicates h]
  rfl

/-! ### Tests -/

/-- The handler of a comparison reads the literal and asks for the column. -/
theorem act_comparison (digits : Option ℕ) (visit : Tree → Build Unit) {operator : Comparison}
    (a : Token) {t : Token} (b : Token) (ht : t.kind = operator.kind) :
    act digits .comparison visit ⟨"comparison_predicate",
      [("LHV", .token a), ("OPERATOR", .token t), ("RHV", .token b)]⟩ = (do
        let value ← literal digits b
        push fun record => do operator.compare (← column record (columnName a)) value) := by
  have hleft : Node.getToken ⟨"comparison_predicate",
      [("LHV", .token a), ("OPERATOR", .token t), ("RHV", .token b)]⟩ "LHV" = .ok a := rfl
  have hoperator : Node.getToken ⟨"comparison_predicate",
      [("LHV", .token a), ("OPERATOR", .token t), ("RHV", .token b)]⟩ "OPERATOR" = .ok t := rfl
  have hright : Node.getToken ⟨"comparison_predicate",
      [("LHV", .token a), ("OPERATOR", .token t), ("RHV", .token b)]⟩ "RHV" = .ok b := rfl
  simp only [act, hleft, hoperator, hright, access, pure_bind, comparison_eq ht]

/-- A comparison pushes its predicate. -/
theorem pushes_comparison {digits : Option ℕ} {visit : Tree → Build Unit}
    {left right : Operand} {operator : Comparison} {a t b : Token} (ha : left.IsToken a)
    (ht : t.kind = operator.kind) (hb : right.IsToken b)
    (hshort : right.IsShort digits) :
    Pushes (act digits .comparison visit ⟨"comparison_predicate",
      [("LHV", .token a), ("OPERATOR", .token t), ("RHV", .token b)]⟩)
      (Test.comparison left operator right).eval := by
  rw [act_comparison digits visit a b ht, literal_eq hb hshort, pure_bind, columnName_eq ha,
    comparison_predicate]
  exact pushes_push _

/-- The handler of a form. -/
def Form.handler : Form → Handler
  | .membership => .membership
  | .between => .between
  | .containment => .containment
  | .blank => .blank

theorem lookup_relation (f : Form) :
    walker.handlers.lookup (Text.lowercase f.name) = some f.handler := by
  cases f <;> rfl

section Relations

variable {f : Form} {a : Token} {mark : Option Token} {fields : Fields Tree} {label : String}
  {left : Operand} (ha : left.IsToken a) {visit : Tree → Build Unit} {digits : Option ℕ}

theorem lookup_relationNode (hleft : label ≠ "LHV") (hnot : label ≠ "NOT") :
    (relationNode f a mark fields).fields.lookup label = fields.lookup label := by
  have hleft : (label == "LHV") = false := by simpa using hleft
  have hnot : (label == "NOT") = false := by simpa using hnot
  cases mark with
  | none => simp [relationNode, negationFields, List.lookup_cons, hleft]
  | some t => simp [relationNode, negationFields, List.lookup_cons, hleft, hnot]

theorem has_not_relationNode (h : fields.lookup "NOT" = none) :
    (relationNode f a mark fields).has "NOT" = mark.isSome := by
  cases mark with
  | none => simp [Node.has, relationNode, negationFields, List.lookup_cons, h]
  | some t => rfl

theorem getToken_left : (relationNode f a mark fields).getToken "LHV" = .ok a := rfl

theorem getToken_relationNode {t : Token} (hleft : label ≠ "LHV") (hnot : label ≠ "NOT")
    (h : fields.lookup label = some (.token t)) :
    (relationNode f a mark fields).getToken label = .ok t := by
  have hget : (relationNode f a mark fields).get label = .ok (.token t) :=
    Notation.get_eq ((lookup_relationNode hleft hnot).trans h)
  rw [Node.getToken, hget]
  rfl

theorem getTokens_relationNode {ts : List Token} (hleft : label ≠ "LHV") (hnot : label ≠ "NOT")
    (h : fields.lookup label = some (.list (ts.map Tree.token))) :
    (relationNode f a mark fields).getTokens label = .ok ts :=
  Notation.getTokens_eq ((lookup_relationNode hleft hnot).trans h)

theorem act_membership (ts : List Token) :
    act digits .membership visit
      (relationNode .membership a mark [("RHV", .list (ts.map Tree.token))]) = (do
        let values ← ts.mapM (literal digits)
        push (negateIf mark.isSome fun record => do
          return values.contains (← column record (columnName a)))) := by
  have hnot : (relationNode .membership a mark [("RHV", .list (ts.map Tree.token))]).has "NOT" =
      mark.isSome := has_not_relationNode rfl
  have hright : (relationNode .membership a mark [("RHV", .list (ts.map Tree.token))]).getTokens
      "RHV" = .ok ts := getTokens_relationNode (by decide) (by decide) rfl
  simp only [act, getToken_left, hnot, hright, access, pure_bind]

theorem act_between (b c : Token) :
    act digits .between visit
      (relationNode .between a mark [("OP1", .token b), ("OP2", .token c)]) = (do
        let low ← literal digits b
        let high ← literal digits c
        push (negateIf mark.isSome fun record => do
          let value ← column record (columnName a)
          if ← Order.lessOrEqual.compare low value then Order.lessOrEqual.compare value high
          else return false)) := by
  have hnot : (relationNode .between a mark [("OP1", .token b), ("OP2", .token c)]).has "NOT" =
      mark.isSome := has_not_relationNode rfl
  have hlow : (relationNode .between a mark [("OP1", .token b), ("OP2", .token c)]).getToken
      "OP1" = .ok b := getToken_relationNode (by decide) (by decide) rfl
  have hhigh : (relationNode .between a mark [("OP1", .token b), ("OP2", .token c)]).getToken
      "OP2" = .ok c := getToken_relationNode (by decide) (by decide) rfl
  simp only [act, getToken_left, hnot, hlow, hhigh, access, pure_bind]

theorem act_containment (b : Token) :
    act digits .containment visit (relationNode .containment a mark [("RHV", .token b)]) = (do
      let value ← literal digits b
      push (negateIf mark.isSome fun record => do
        contains (← column record (columnName a)) value)) := by
  have hnot : (relationNode .containment a mark [("RHV", .token b)]).has "NOT" = mark.isSome :=
    has_not_relationNode rfl
  have hright : (relationNode .containment a mark [("RHV", .token b)]).getToken "RHV" = .ok b :=
    getToken_relationNode (by decide) (by decide) rfl
  simp only [act, getToken_left, hnot, hright, access, pure_bind]

theorem act_blank (b : Token) :
    act digits .blank visit (relationNode .blank a mark [("ISBLANK", .token b)]) =
      push (negateIf mark.isSome fun record => do
        return (← column record (columnName a)).isBlank) := by
  have hnot : (relationNode .blank a mark [("ISBLANK", .token b)]).has "NOT" = mark.isSome :=
    has_not_relationNode rfl
  simp only [act, getToken_left, hnot, access, pure_bind]

theorem literals_eq {os : List Operand} {ts : List Token} (h : List.Forall₂ Operand.IsToken os ts)
    (hshort : ∀ o ∈ os, o.IsShort digits) :
    ts.mapM (literal digits) = pure (os.map Operand.value) := by
  induction h with
  | nil => rfl
  | cons ho _ ih =>
    obtain ⟨hfirst, hothers⟩ := List.forall_mem_cons.1 hshort
    rw [List.mapM_cons, literal_eq ho hfirst, ih hothers, pure_bind, pure_bind, List.map_cons]

include ha

theorem pushes_membership {first : Operand} {others : List Operand} {ts : List Token}
    (hts : List.Forall₂ Operand.IsToken (first :: others) ts)
    (hshort : ∀ o ∈ first :: others, o.IsShort digits) :
    Pushes (act digits .membership visit
      (relationNode .membership a mark [("RHV", .list (ts.map Tree.token))]))
      (Test.relation left mark.isSome (.among first others)).eval := by
  have hask (v : Value) : (pure (((first :: others).map Operand.value).contains v) :
      Except Error Bool) = (Relation.among first others).eval v :=
    congrArg Except.ok (List.contains_eq_mem v _)
  rw [act_membership, literals_eq hts hshort, pure_bind, columnName_eq ha,
    relation_predicate hask]
  exact pushes_push _

theorem pushes_between {low high : Operand} {b c : Token} (hb : low.IsToken b)
    (hc : high.IsToken c) (hlow : low.IsShort digits) (hhigh : high.IsShort digits) :
    Pushes (act digits .between visit
      (relationNode .between a mark [("OP1", .token b), ("OP2", .token c)]))
      (Test.relation left mark.isSome (.between low high)).eval := by
  rw [act_between, literal_eq hb hlow, literal_eq hc hhigh, pure_bind, pure_bind, columnName_eq ha,
    relation_predicate (between_eq low high)]
  exact pushes_push _

theorem pushes_containment {part : Operand} {b : Token} (hb : part.IsToken b)
    (hshort : part.IsShort digits) :
    Pushes (act digits .containment visit (relationNode .containment a mark [("RHV", .token b)]))
      (Test.relation left mark.isSome (.containing part)).eval := by
  have hask (v : Value) : contains v part.value = (Relation.containing part).eval v :=
    contains_eq v part.value
  rw [act_containment, literal_eq hb hshort, pure_bind, columnName_eq ha, relation_predicate hask]
  exact pushes_push _

theorem pushes_blank (b : Token) :
    Pushes (act digits .blank visit (relationNode .blank a mark [("ISBLANK", .token b)]))
      (Test.relation left mark.isSome .blank).eval := by
  have hask (v : Value) : (pure v.isBlank : Except Error Bool) = Relation.blank.eval v :=
    congrArg Except.ok (isBlank_eq v)
  rw [act_blank, columnName_eq ha, relation_predicate hask]
  exact pushes_push _

end Relations

/-- The handler of a test. -/
def Test.handler : Test → Handler
  | .comparison _ _ _ => .comparison
  | .relation _ _ asked => asked.form.handler

/-- The calls that a visit of a test's tree takes. -/
def Test.calls (t : Test) : ℕ := t.handler.calls.own + 1

/-- Visiting the tree of a test pushes the test's answer if there is room. -/
theorem Test.pushes {t : Test} {m : Node} {digits room : Option ℕ} (h : t.IsTree m)
    (hroom : ∀ r ∈ room, t.calls ≤ r) (hshort : ∀ o ∈ t.compared, o.IsShort digits) (fuel : ℕ) :
    Pushes (visitNodes (enter (act digits) (fuel + 1)) (callStack room) m.toTree) t.eval := by
  cases h with
  | comparison ha ht hb =>
    exact pushes_visit lookup_comparison hroom
      (pushes_comparison ha ht hb (hshort _ List.mem_cons_self))
  | relation ha hfields =>
    refine pushes_visit (lookup_relation _) hroom ?_
    cases hfields with
    | among hts => exact pushes_membership ha hts hshort
    | between hb hc =>
      obtain ⟨hlow, hhigh⟩ := List.forall_mem_cons.1 hshort
      exact pushes_between ha hb hc hlow (hhigh _ List.mem_cons_self)
    | containing hb => exact pushes_containment ha hb (hshort _ List.mem_cons_self)
    | blank b => exact pushes_blank ha b

theorem Test.overflows {t : Test} {m : Node} {digits : Option ℕ} {r : ℕ} (h : t.IsTree m)
    (hroom : r < t.calls) (fuel : ℕ) :
    Overflows (visitNodes (enter (act digits) (fuel + 1)) (callStack (some r)) m.toTree) := by
  cases h with
  | comparison ha ht hb =>
    exact overflows_visit lookup_comparison fun hle => absurd hroom (Nat.not_lt.2 hle)
  | relation ha hfields =>
    exact overflows_visit (lookup_relation _) fun hle => absurd hroom (Nat.not_lt.2 hle)

/-! ### Conditions -/

mutual

/-- The calls that a visit of a phrase's tree takes. -/
def Phrase.calls {c : Category} : Phrase c → ℕ
  | .test t => t.calls
  | .group body => body.calls + innerCalls
  | .row first rest => max first.calls rest.calls + innerCalls

/-- The calls that visits of the operands behind the first one take. -/
def Rest.calls {l : Level} : Rest l → ℕ
  | .nil => 0
  | .cons operand rest => max operand.calls rest.calls

end

theorem Handler.three_le_own (handler : Handler) : 3 ≤ handler.calls.own := by
  cases handler <;> decide

/-- A visit of a phrase takes at least the calls of a test. -/
theorem Phrase.le_calls : ∀ {c : Category} (p : Phrase c), 4 ≤ p.calls
  | _, .test t => Nat.add_le_add_right t.handler.three_le_own 1
  | _, .group body => body.le_calls.trans (Nat.le_add_right _ _)
  | _, .row first _ =>
    first.le_calls.trans ((le_max_left _ _).trans (Nat.le_add_right _ _))

section Trees

variable {digits : Option ℕ}

mutual

/-- **Visiting the tree of a phrase pushes the phrase's answer** if there is room. -/
theorem Phrase.pushes : ∀ {c : Category} (p : Phrase c) {m : Node} {fuel : ℕ} {room : Option ℕ},
    IsTree p m → m.toTree.height ≤ fuel → (∀ r ∈ room, p.calls ≤ r) →
      (∀ o ∈ p.compared, o.IsShort digits) →
      Pushes (visitNodes (enter (act digits) fuel) (callStack room) m.toTree) p.eval
  | _, .test t, _, _, _, .test hm, hfuel, hroom, hshort => by
    obtain ⟨k, rfl, -⟩ := exists_fuel hfuel
    exact t.pushes hm hroom hshort k
  | _, .group body, _, _, _, .group hm, hfuel, hroom, hshort => by
    obtain ⟨k, rfl, hfields⟩ := exists_fuel hfuel
    have hbody := body.pushes hm (hfields _ List.mem_cons_self) (le_below hroom) hshort
    have hown : Handler.parentheses.calls.own + 1 ≤ body.calls + innerCalls :=
      body.le_calls.trans (Nat.le_add_right _ _)
    exact pushes_visit lookup_group (fun r hr => hown.trans (hroom r hr)) hbody
  | .row l, .row first rest, _, _, room, @IsTree.row _ _ _ m ms hm hms, hfuel, hroom, hshort => by
    obtain ⟨k, rfl, hnodes⟩ := exists_fuel_of_list hfuel
    obtain ⟨hfirst, hrest⟩ := List.forall_mem_cons.1 hnodes
    obtain ⟨hshort, hshorts⟩ := List.forall_mem_append.1 hshort
    have hbelow : ∀ r ∈ below room innerCalls, max first.calls rest.calls ≤ r := le_below hroom
    have hpush := first.pushes hm hfirst
      (fun r hr => (le_max_left _ _).trans (hbelow r hr)) hshort
    obtain ⟨ps, hps, heval⟩ := rest.pushes hms hrest
      (fun r hr => (le_max_right _ _).trans (hbelow r hr)) hshorts
    have hrow : l.fold (first.eval :: ps) = (Phrase.row first rest).eval := by
      funext record
      rw [Level.fold_cons, heval, Phrase.eval]
    have hown : l.handler.calls.own + 1 ≤ max first.calls rest.calls + innerCalls := by
      have hhandler : l.handler.calls.own + 1 ≤ 4 + innerCalls := by cases l <;> decide
      exact hhandler.trans (Nat.add_le_add_right (first.le_calls.trans (le_max_left _ _)) _)
    rw [← hrow]
    exact pushes_visit (lookup_row l) (fun r hr => hown.trans (hroom r hr))
      (pushes_row (.cons hpush hps))

/-- So do those of the operands of a row behind the first one. -/
theorem Rest.pushes : ∀ {l : Level} (rest : Rest l) {ms : List Node} {fuel : ℕ}
    {room : Option ℕ}, AreTails rest ms → (∀ m ∈ ms, m.toTree.height ≤ fuel) →
      (∀ r ∈ room, rest.calls ≤ r) → (∀ o ∈ rest.compared, o.IsShort digits) →
      ∃ ps, List.Forall₂ (fun m p =>
          Pushes (visitNodes (enter (act digits) fuel) (callStack room) m.toTree) p) ms ps ∧
        ∀ record, l.fold ps record = rest.eval record
  | l, .nil, _, _, _, .nil, _, _, _ => ⟨[], .nil, fun record => l.fold_nil record⟩
  | l, .cons operand rest, _, _, _, .cons hm hms, hfuel, hroom, hshort => by
    obtain ⟨hoperand, hrest⟩ := List.forall_mem_cons.1 hfuel
    obtain ⟨hshort, hshorts⟩ := List.forall_mem_append.1 hshort
    have hpush := operand.pushes hm hoperand
      (fun r hr => (le_max_left _ _).trans (hroom r hr)) hshort
    obtain ⟨ps, hps, heval⟩ := rest.pushes hms hrest
      (fun r hr => (le_max_right _ _).trans (hroom r hr)) hshorts
    refine ⟨operand.eval :: ps, .cons hpush hps, ?_⟩
    intro record
    rw [Level.fold_cons, heval, Rest.eval]

end

/-- If there is no room for the operands of a row, the first one overflows or those behind it do. -/
theorem overflows_predicates {visit : Tree → Build Unit} {m : Node} {ms : List Node}
    {calls calls' r : ℕ} (hroom : r < max calls calls') {p : Predicate}
    (hpush : calls ≤ r → Pushes (visit m.toTree) p)
    (hover : r < calls → Overflows (visit m.toTree))
    (hrest : r < calls' → Overflows (predicates visit ms)) :
    Overflows (predicates visit (m :: ms)) := by
  by_cases hlt : r < calls
  · rw [predicates_cons]
    exact ((hover hlt).bind _).bind _
  · have hlt' : r < calls' := (lt_max_iff.1 hroom).resolve_left hlt
    intro stack
    rw [run_predicates_cons (hpush (Nat.le_of_not_lt hlt))]
    exact (hrest hlt').bind _ stack

mutual

/-- Without room for all of its calls, the visit overflows. -/
theorem Phrase.overflows : ∀ {c : Category} (p : Phrase c) {m : Node} {fuel r : ℕ},
    IsTree p m → m.toTree.height ≤ fuel → r < p.calls → (∀ o ∈ p.compared, o.IsShort digits) →
      Overflows (visitNodes (enter (act digits) fuel) (callStack (some r)) m.toTree)
  | _, .test t, _, _, _, .test hm, hfuel, hroom, _ => by
    obtain ⟨k, rfl, -⟩ := exists_fuel hfuel
    exact t.overflows hm hroom k
  | _, .group body, _, _, _, .group hm, hfuel, hroom, hshort => by
    obtain ⟨k, rfl, hfields⟩ := exists_fuel hfuel
    exact overflows_visit lookup_group fun hle => body.overflows hm
      (hfields _ List.mem_cons_self) (Nat.sub_lt_right_of_lt_add (le_trans (by decide) hle) hroom)
      hshort
  | .row l, .row first rest, _, _, r, @IsTree.row _ _ _ m ms hm hms, hfuel, hroom, hshort => by
    obtain ⟨k, rfl, hnodes⟩ := exists_fuel_of_list hfuel
    obtain ⟨hfirst, hrest⟩ := List.forall_mem_cons.1 hnodes
    obtain ⟨hshort, hshorts⟩ := List.forall_mem_append.1 hshort
    refine overflows_visit (lookup_row l) fun hle => ?_
    have hinner : innerCalls ≤ r := le_trans (by cases l <;> decide) hle
    rw [act_row]
    exact (overflows_predicates (Nat.sub_lt_right_of_lt_add hinner hroom)
      (fun h => first.pushes hm hfirst (fun _ hr => Option.some.inj hr ▸ h) hshort)
      (fun h => first.overflows hm hfirst h hshort)
      (fun h => rest.overflows hms hrest h hshorts)).bind _

/-- So do the visits of the operands of a row behind the first one. -/
theorem Rest.overflows : ∀ {l : Level} (rest : Rest l) {ms : List Node} {fuel r : ℕ},
    AreTails rest ms → (∀ m ∈ ms, m.toTree.height ≤ fuel) → r < rest.calls →
      (∀ o ∈ rest.compared, o.IsShort digits) →
      Overflows (predicates (visitNodes (enter (act digits) fuel) (callStack (some r))) ms)
  | _, .nil, _, _, _, .nil, _, hroom, _ => absurd hroom (Nat.not_lt_zero _)
  | _, .cons operand rest, _, _, _, .cons hm hms, hfuel, hroom, hshort => by
    obtain ⟨hoperand, hrest⟩ := List.forall_mem_cons.1 hfuel
    obtain ⟨hshort, hshorts⟩ := List.forall_mem_append.1 hshort
    exact overflows_predicates hroom
      (fun h => operand.pushes hm hoperand (fun _ hr => Option.some.inj hr ▸ h) hshort)
      (fun h => operand.overflows hm hoperand h hshort)
      (fun h => rest.overflows hms hrest h hshorts)

end

end Trees

/-- The calls in which a walk is started. -/
def walkCalls : ℕ := 2

/-- Whether a phrase can be built within limits. -/
structure Phrase.Fits (limits : Limits) {c : Category} (p : Phrase c) : Prop where
  calls_le : ∀ room ∈ limits.calls, p.calls + walkCalls ≤ room
  isShort : ∀ o ∈ p.compared, o.IsShort limits.digits

/-- What is on the stack after a walk through the tree of a condition. -/
theorem buildWithin_eq {f : Condition} {m : Node} (h : IsTree f m) {limits : Limits}
    (hfits : f.Fits limits) : buildWithin limits m.toTree = .ok [f.eval] := by
  have hwalk : ∀ room ∈ limits.calls, (Calls.mk walkCalls walkCalls).own ≤ room :=
    fun room hroom => (Nat.le_add_left _ _).trans (hfits.calls_le room hroom)
  have hrun : (call (callStack limits.calls) (fun _ => ⟨walkCalls, walkCalls⟩) fun stack =>
      visitWithin stack (act limits.digits) m.toTree).run walker =
      .ok () ⟨walker.handlers, [f.eval]⟩ := by
    rw [call_of_le (fun _ => rfl) hwalk]
    exact f.pushes h le_rfl (le_below hfits.calls_le) hfits.isShort []
  rw [buildWithin, run_walkWithin_of_ok hrun]

/-- A walk that does not fit its limits for its calls alone overflows. -/
theorem buildWithin_overflows {f : Condition} {m : Node} (h : IsTree f m) {limits : Limits}
    (hshort : ∀ o ∈ f.compared, o.IsShort limits.digits) (hfits : ¬f.Fits limits) :
    buildWithin limits m.toTree = .error .overflow := by
  obtain ⟨calls, digits⟩ := limits
  obtain ⟨room, rfl, hroom⟩ : ∃ room, calls = some room ∧ room < f.calls + walkCalls := by
    by_contra hall
    push Not at hall
    exact hfits ⟨hall, hshort⟩
  have hrun : Overflows (call (callStack (some room)) (fun _ => ⟨walkCalls, walkCalls⟩) fun stack =>
      visitWithin stack (act digits) m.toTree) := by
    by_cases hlt : room < walkCalls
    · rw [call_of_lt (fun _ => rfl) hlt]
      exact fun stack => ⟨_, rfl⟩
    · have hle : walkCalls ≤ room := Nat.le_of_not_lt hlt
      rw [call_of_le (fun _ => rfl) fun _ hr => Option.some.inj hr ▸ hle]
      exact f.overflows h le_rfl (Nat.sub_lt_right_of_lt_add hle hroom) hshort
  obtain ⟨w, hw⟩ := hrun []
  have hw : (call (callStack (some room)) _ _).run walker = .error .overflow w := hw
  rw [buildWithin, run_walkWithin_of_error hw]

end OrderedGrammar.Filter
