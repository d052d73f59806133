import Mathlib.Data.List.Nodup
import OrderedGrammar.Proofs.Walking
import OrderedGrammar.Walker.Script

/-!
# What a walk reaches, and in which order

The nodes of a tree in preorder, each with the nodes around it.  A walk whose handlers add the names
of their nodes and go on through the fields adds the names of all nodes that have a handler, in
preorder; if the handlers do not go on, it adds those of the nodes with a handler around which no
other node has one.  Handlers that only go on are as good as none (`Script.collects_preorder`).

## Main definitions

* `Tree.preorder` : the nodes of a tree, from the outside in and from left to right.
* `Script.register` : adds handlers one after the other.
* `Script.Collects` : the texts that a walk with the handlers adds.
-/

namespace OrderedGrammar

/-! ### Nodes in preorder -/

/-- A node as it is met in a tree: its name, and the names of the nodes around it, the nearest one
first. -/
structure NodePlace where
  name : String
  around : List String

namespace Tree

mutual

/-- The nodes of a tree that stands inside others: each comes before the nodes in its fields. -/
def preorder (around : List String) : Tree → List NodePlace
  | .token _ => []
  | .node name fields => ⟨name, around⟩ :: fieldsPreorder (name :: around) fields
  | .list items => itemsPreorder around items

/-- The nodes in all fields, in the order of the fields. -/
def fieldsPreorder (around : List String) : Fields Tree → List NodePlace
  | [] => []
  | (_, value) :: rest => preorder around value ++ fieldsPreorder around rest

/-- The nodes in all items of a list, in order. -/
def itemsPreorder (around : List String) : List Tree → List NodePlace
  | [] => []
  | item :: items => preorder around item ++ itemsPreorder around items

end

mutual

/-- What is around a tree is around all its nodes. -/
theorem mem_around_of_preorder {a : String} : ∀ (t : Tree) {around : List String}, a ∈ around →
    ∀ p ∈ t.preorder around, a ∈ p.around
  | .token _, _, _ => by simp [preorder]
  | .node name fields, around, ha => by
    rw [preorder, List.forall_mem_cons]
    exact ⟨ha, mem_around_of_fieldsPreorder fields (List.mem_cons_of_mem _ ha)⟩
  | .list items, _, ha => mem_around_of_itemsPreorder items ha

theorem mem_around_of_fieldsPreorder {a : String} : ∀ (fields : Fields Tree)
    {around : List String}, a ∈ around → ∀ p ∈ fieldsPreorder around fields, a ∈ p.around
  | [], _, _ => by simp [fieldsPreorder]
  | (_, value) :: rest, around, ha => by
    rw [fieldsPreorder, List.forall_mem_append]
    exact ⟨mem_around_of_preorder value ha, mem_around_of_fieldsPreorder rest ha⟩

theorem mem_around_of_itemsPreorder {a : String} : ∀ (items : List Tree) {around : List String},
    a ∈ around → ∀ p ∈ itemsPreorder around items, a ∈ p.around
  | [], _, _ => by simp [itemsPreorder]
  | item :: items, around, ha => by
    rw [itemsPreorder, List.forall_mem_append]
    exact ⟨mem_around_of_preorder item ha, mem_around_of_itemsPreorder items ha⟩

end

end Tree

/-- The names of those of the nodes that are shown. -/
def namesOf (shown : NodePlace → Bool) (places : List NodePlace) : List String :=
  (places.filter shown).map (·.name)

section NamesOf

variable {shown : NodePlace → Bool} {places : List NodePlace} {p : NodePlace}

theorem namesOf_append (places' : List NodePlace) :
    namesOf shown (places ++ places') = namesOf shown places ++ namesOf shown places' := by
  rw [namesOf, List.filter_append, List.map_append]
  rfl

theorem namesOf_cons_of_shown (h : shown p) :
    namesOf shown (p :: places) = p.name :: namesOf shown places := by
  rw [namesOf, List.filter_cons_of_pos h]
  rfl

theorem namesOf_cons_of_not_shown (h : ¬shown p) :
    namesOf shown (p :: places) = namesOf shown places := by
  rw [namesOf, List.filter_cons_of_neg h]
  rfl

theorem namesOf_eq_nil (h : ∀ p ∈ places, ¬shown p) : namesOf shown places = [] := by
  rw [namesOf, List.filter_eq_nil_iff.2 h]
  rfl

end NamesOf

namespace Script

open Walk

/-! ### Handlers that are added -/

/-- Adds handlers one after the other. -/
def register : List (String × List Instruction) → Handlers → Except DuplicateHandler Handlers
  | [], w => .ok w
  | (name, script) :: rest, w => do register rest (← w.add name script)

theorem handler?_congr {w : Handlers} {name name' : String}
    (h : Text.lowercase name = Text.lowercase name') : w.handler? name = w.handler? name' := by
  rw [Walker.handler?, Walker.handler?, h]

/-- Handlers can be added for names that differ in more than case, and are found then. -/
theorem exists_register {handlers : List (String × List Instruction)} {w : Handlers}
    (hnodup : (handlers.map (Text.lowercase ·.1)).Nodup)
    (hnew : ∀ x ∈ handlers, w.handler? x.1 = none) :
    ∃ w', register handlers w = .ok w' ∧ w'.state = w.state ∧
      (∀ x ∈ handlers, w'.handler? x.1 = some x.2) ∧
      ∀ name, Text.lowercase name ∉ handlers.map (Text.lowercase ·.1) →
        w'.handler? name = w.handler? name := by
  induction handlers generalizing w with
  | nil => exact ⟨w, rfl, rfl, by simp, fun _ _ => rfl⟩
  | cons x handlers ih =>
    obtain ⟨name, script⟩ := x
    obtain ⟨hfresh, hnodup⟩ := List.nodup_cons.1 hnodup
    obtain ⟨hnone, hnew⟩ := List.forall_mem_cons.1 hnew
    have hadd : w.add name script =
        .ok ⟨(Text.lowercase name, script) :: w.handlers, w.state⟩ := by
      rw [Walker.add, hnone]
      rfl
    have hfound (name' : String) : Walker.handler?
        (⟨(Text.lowercase name, script) :: w.handlers, w.state⟩ : Handlers) name' =
          if Text.lowercase name' = Text.lowercase name then some script
          else w.handler? name' :=
      Fields.lookup_cons _ _ _ _
    obtain ⟨w', hregister, hstate, hadded, hothers⟩ :=
      ih (w := ⟨(Text.lowercase name, script) :: w.handlers, w.state⟩) hnodup fun x hx => by
        -- the names differ in more than case, so that the new handler hides none of the others
        have hne : Text.lowercase x.1 ≠ Text.lowercase name := fun heq =>
          hfresh (List.mem_map.2 ⟨x, hx, heq⟩)
        rw [hfound, if_neg hne, hnew x hx]
    refine ⟨w', ?_, hstate, List.forall_mem_cons.2 ⟨?_, hadded⟩, fun name' hname' => ?_⟩
    · rw [register, hadd]
      exact hregister
    · rw [hothers name hfresh, hfound, if_pos rfl]
    · rw [List.map_cons, List.mem_cons, not_or] at hname'
      rw [hothers name' hname'.2, hfound, if_neg hname'.1]

/-! ### Texts that a step adds -/

/-- The step adds the texts in order and leaves the handlers as they are, so that the same ones
serve all nodes of a walk. -/
def Adds (h : List (String × List Instruction)) (x : Act Unit) (texts : List String) : Prop :=
  ∀ earlier, x.run ⟨h, earlier⟩ = .ok () ⟨h, texts.reverse ++ earlier⟩

section Adds

variable {h : List (String × List Instruction)} {x y : Act Unit} {texts texts' : List String}

theorem adds_pure : Adds h (pure ()) [] := fun _ => rfl

theorem adds_append (text : String) : Adds h (append text) [text] := fun _ => rfl

theorem Adds.then (hx : Adds h x texts) (hy : Adds h y texts') :
    Adds h (x >>= fun _ => y) (texts ++ texts') := fun earlier => by
  rw [EStateM.run_bind, hx earlier, List.reverse_append, List.append_assoc]
  exact hy _

variable {visit : Tree → Act Unit} {n : Node}

/-- A handler that adds the name of its node. -/
theorem adds_log : Adds h (handle [.log] visit n) [n.name] :=
  (adds_append n.name).then adds_pure

/-- A handler that goes on through the fields. -/
theorem adds_children (hfields : Adds h (Walk.children visit n) texts) :
    Adds h (handle [.children] visit n) texts := by
  simpa [handle, actAll, act] using hfields.then adds_pure

/-- A handler that adds the name of its node and goes on through the fields. -/
theorem adds_log_children (hfields : Adds h (Walk.children visit n) texts) :
    Adds h (handle [.log, .children] visit n) (n.name :: texts) :=
  (adds_append n.name).then (adds_children hfields)

theorem adds_enter_of_handler {script : List Instruction} {fuel : ℕ}
    (hlookup : h.lookup (Text.lowercase n.name) = some script)
    (hscript : Adds h (handle script (visitNodes (enter handle fuel) none) n) texts) :
    Adds h (enter handle (fuel + 1) none n) texts := fun earlier => by
  rw [run_enter_of_handler (w := ⟨h, earlier⟩) hlookup]
  exact hscript earlier

theorem adds_enter_of_none {fuel : ℕ} (hlookup : h.lookup (Text.lowercase n.name) = none)
    (hfields : Adds h (Walk.children (visitNodes (enter handle fuel) none) n) texts) :
    Adds h (enter handle (fuel + 1) none n) texts := fun earlier => by
  rw [run_enter_of_none (w := ⟨h, earlier⟩) hlookup]
  exact hfields earlier

end Adds

/-! ### A walk goes through the nodes in preorder -/

section Preorder

variable {h : List (String × List Instruction)} {shown : NodePlace → Bool}
  {Reached : List String → Prop}

/-- Entering a node that is reached adds the names of its shown nodes, provided that going through
its fields does so as soon as they are reached. -/
def EntersInPreorder (h : List (String × List Instruction)) (shown : NodePlace → Bool)
    (Reached : List String → Prop) : Prop :=
  ∀ fuel (n : Node) around, Reached around →
    (Reached (n.name :: around) → Adds h (Walk.children (visitNodes (enter handle fuel) none) n)
      (namesOf shown (Tree.fieldsPreorder (n.name :: around) n.fields))) →
    Adds h (enter handle (fuel + 1) none n) (namesOf shown (n.toTree.preorder around))

mutual

/-- A walk through a tree adds the names of its shown nodes in preorder. -/
theorem adds_preorder (henter : EntersInPreorder h shown Reached) : ∀ (t : Tree)
    {around : List String} {fuel : ℕ}, Reached around → t.height ≤ fuel →
    Adds h (visitNodes (enter handle fuel) none t) (namesOf shown (t.preorder around))
  | .token _, _, _, _, _ => adds_pure
  | .node name fields, around, fuel, hreached, hheight => by
    obtain ⟨k, rfl, hk⟩ := exists_fuel (m := ⟨name, fields⟩) hheight
    exact henter k ⟨name, fields⟩ around hreached fun hbelow =>
      adds_fieldsPreorder henter fields name hbelow hk
  | .list items, _, _, hreached, hheight =>
    adds_itemsPreorder henter items hreached (Tree.itemsHeight_le_iff.1 hheight)

theorem adds_fieldsPreorder (henter : EntersInPreorder h shown Reached) : ∀ (fields : Fields Tree)
    (name : String) {around : List String} {fuel : ℕ}, Reached around →
    (∀ f ∈ fields, f.2.height ≤ fuel) →
    Adds h (Walk.children (visitNodes (enter handle fuel) none) ⟨name, fields⟩)
      (namesOf shown (Tree.fieldsPreorder around fields))
  | [], _, _, _, _, _ => adds_pure
  | (_, value) :: rest, name, _, _, hreached, hheight => by
    rw [Tree.fieldsPreorder, namesOf_append]
    exact (adds_preorder henter value hreached (List.forall_mem_cons.1 hheight).1).then
      (adds_fieldsPreorder henter rest name hreached (List.forall_mem_cons.1 hheight).2)

theorem adds_itemsPreorder (henter : EntersInPreorder h shown Reached) : ∀ (items : List Tree)
    {around : List String} {fuel : ℕ}, Reached around → (∀ t ∈ items, t.height ≤ fuel) →
    Adds h (visitItems (enter handle fuel) none items)
      (namesOf shown (Tree.itemsPreorder around items))
  | [], _, _, _, _ => adds_pure
  | item :: items, _, _, hreached, hheight => by
    rw [visitItems, Tree.itemsPreorder, namesOf_append]
    exact (adds_preorder henter item hreached (List.forall_mem_cons.1 hheight).1).then
      (adds_itemsPreorder henter items hreached (List.forall_mem_cons.1 hheight).2)

end

end Preorder

/-! ### Handlers that add the names of their nodes -/

/-- The name is one of those that have handlers, in which case does not count. -/
def Handled (names : List String) (name : String) : Prop :=
  Text.lowercase name ∈ names.map Text.lowercase

instance (names : List String) : DecidablePred (Handled names) :=
  fun _ => inferInstanceAs (Decidable (_ ∈ _))

/-- There is a handler for the node. -/
def showsHandled (names : List String) (p : NodePlace) : Bool := decide (Handled names p.name)

/-- There is a handler for the node, and for none of those around it. -/
def showsOutermost (names : List String) (p : NodePlace) : Bool :=
  decide (Handled names p.name ∧ ∀ a ∈ p.around, ¬Handled names a)

/-- The script is the handler of the names; other names have none, or one that only goes on. -/
structure Serves (h : List (String × List Instruction)) (names : List String)
    (script : List Instruction) : Prop where
  handled : ∀ name, Handled names name → h.lookup (Text.lowercase name) = some script
  others : ∀ name, ¬Handled names name →
    h.lookup (Text.lowercase name) = none ∨ h.lookup (Text.lowercase name) = some [.children]

section Serves

variable {h : List (String × List Instruction)} {names : List String}
  {script : List Instruction} {n : Node} {fuel : ℕ} {texts : List String}

/-- A node without a handler of its own is walked through. -/
theorem Serves.adds_enter_of_not_handled (hserves : Serves h names script)
    (hname : ¬Handled names n.name)
    (hfields : Adds h (Walk.children (visitNodes (enter handle fuel) none) n) texts) :
    Adds h (enter handle (fuel + 1) none n) texts := by
  rcases hserves.others n.name hname with hnone | hpassing
  · exact adds_enter_of_none hnone hfields
  · exact adds_enter_of_handler hpassing (adds_children hfields)

theorem Serves.entersInPreorder_handled (hserves : Serves h names [.log, .children]) :
    EntersInPreorder h (showsHandled names) fun _ => True := fun fuel n around _ hfields => by
  have hbelow := hfields trivial
  rw [Node.toTree, Tree.preorder]
  by_cases hname : Handled names n.name
  · rw [namesOf_cons_of_shown (by simpa [showsHandled] using hname)]
    exact adds_enter_of_handler (hserves.handled _ hname) (adds_log_children hbelow)
  · rw [namesOf_cons_of_not_shown (by simpa [showsHandled] using hname)]
    exact hserves.adds_enter_of_not_handled hname hbelow

theorem Serves.entersInPreorder_outermost (hserves : Serves h names [.log]) :
    EntersInPreorder h (showsOutermost names) fun around => ∀ a ∈ around, ¬Handled names a :=
  fun fuel n around haround hfields => by
  rw [Node.toTree, Tree.preorder]
  by_cases hname : Handled names n.name
  · -- the node is around all those below it, so that none of them is shown
    have hbelow : namesOf (showsOutermost names)
        (Tree.fieldsPreorder (n.name :: around) n.fields) = [] :=
      namesOf_eq_nil fun p hp hshown => (of_decide_eq_true hshown).2 n.name
        (Tree.mem_around_of_fieldsPreorder n.fields List.mem_cons_self p hp) hname
    rw [namesOf_cons_of_shown (decide_eq_true ⟨hname, haround⟩), hbelow]
    exact adds_enter_of_handler (hserves.handled _ hname) adds_log
  · rw [namesOf_cons_of_not_shown fun hshown => hname (of_decide_eq_true hshown).1]
    exact hserves.adds_enter_of_not_handled hname
      (hfields (List.forall_mem_cons.2 ⟨hname, haround⟩))

end Serves

/-- All handlers can be added to a walker that has none, and a walk with them adds the texts in
order. -/
def Collects (handlers : List (String × List Instruction)) (t : Tree) (texts : List String) :
    Prop :=
  ∃ w w' : Handlers, register handlers (.start []) = .ok w ∧
    (Walk.walk handle t).run w = .ok texts.reverse w'

/-- Handlers for names, with one script for all of them. -/
def each (names : List String) (script : List Instruction) : List (String × List Instruction) :=
  names.map (·, script)

theorem map_each (names : List String) (script : List Instruction) :
    (each names script).map (Text.lowercase ·.1) = names.map Text.lowercase := by
  simp [each]

/-- Names that differ in more than case can have handlers, and others that only go on. -/
theorem exists_serves {names further : List String} (script : List Instruction)
    (hnodup : ((names ++ further).map Text.lowercase).Nodup) :
    ∃ w : Handlers, register (each names script ++ each further [.children]) (.start []) = .ok w ∧
      w.state = [] ∧ Serves w.handlers names script := by
  have hkeys : (each names script ++ each further [.children]).map (Text.lowercase ·.1) =
      (names ++ further).map Text.lowercase := by
    rw [List.map_append, map_each, map_each, List.map_append]
  obtain ⟨w, hregister, hstate, hadded, hothers⟩ :=
    exists_register (w := .start []) (hkeys ▸ hnodup) fun _ _ => rfl
  have hfound {name' name : String} {script' : List Instruction}
      (hmem : (name', script') ∈ each names script ++ each further [.children])
      (heq : Text.lowercase name' = Text.lowercase name) : w.handler? name = some script' :=
    (handler?_congr heq.symm).trans (hadded (name', script') hmem)
  refine ⟨w, hregister, hstate, fun name hname => ?_, fun name hname => ?_⟩
  · obtain ⟨name', hmem, heq⟩ := List.mem_map.1 hname
    exact hfound (List.mem_append_left _ (List.mem_map_of_mem hmem)) heq
  · by_cases hfurther : Handled further name
    · obtain ⟨name', hmem, heq⟩ := List.mem_map.1 hfurther
      exact .inr (hfound (List.mem_append_right _ (List.mem_map_of_mem hmem)) heq)
    · refine .inl ((hothers name ?_).trans rfl)
      rw [hkeys, List.map_append, List.mem_append, not_or]
      exact ⟨hname, hfurther⟩

/-- A walk collects what visiting the tree adds. -/
theorem collects_of_adds {handlers : List (String × List Instruction)} {w : Handlers} {t : Tree}
    {texts : List String} (hregister : register handlers (.start []) = .ok w)
    (hstate : w.state = [])
    (hadds : Adds w.handlers (visitNodes (enter handle t.height) none t) texts) :
    Collects handlers t texts := by
  have hw : w = ⟨w.handlers, []⟩ := by rw [← hstate]
  have hvisit : (visit handle t).run w = .ok () ⟨w.handlers, texts.reverse ++ []⟩ := by
    rw [hw]
    exact hadds []
  rw [List.append_nil] at hvisit
  exact ⟨w, _, hregister, run_walk_of_ok hvisit⟩

/-- **A walk reaches every node once and in order.**  Handlers that add the names of their nodes and
go on collect the names of all nodes with a handler in preorder, and handlers that do not go on
collect those of the nodes with a handler around which no node has one.  Handlers of further names
that only go on change nothing. -/
theorem collects_preorder (names further : List String)
    (hnodup : ((names ++ further).map Text.lowercase).Nodup) (t : Tree) :
    (Collects (each names [.log, .children]) t
        (namesOf (showsHandled names) (t.preorder [])) ∧
      Collects (each names [.log, .children] ++ each further [.children]) t
        (namesOf (showsHandled names) (t.preorder []))) ∧
    Collects (each names [.log]) t (namesOf (showsOutermost names) (t.preorder [])) ∧
      Collects (each names [.log] ++ each further [.children]) t
        (namesOf (showsOutermost names) (t.preorder [])) := by
  have hhandled (further : List String) (h : ((names ++ further).map Text.lowercase).Nodup) :
      Collects (each names [.log, .children] ++ each further [.children]) t
        (namesOf (showsHandled names) (t.preorder [])) := by
    obtain ⟨w, hregister, hstate, hserves⟩ := exists_serves [.log, .children] h
    exact collects_of_adds hregister hstate
      (adds_preorder hserves.entersInPreorder_handled t trivial le_rfl)
  have houtermost (further : List String) (h : ((names ++ further).map Text.lowercase).Nodup) :
      Collects (each names [.log] ++ each further [.children]) t
        (namesOf (showsOutermost names) (t.preorder [])) := by
    obtain ⟨w, hregister, hstate, hserves⟩ := exists_serves [.log] h
    exact collects_of_adds hregister hstate
      (adds_preorder hserves.entersInPreorder_outermost t (by simp) le_rfl)
  have hnames : ((names ++ []).map Text.lowercase).Nodup := by
    rw [List.map_append] at hnodup ⊢
    simpa using hnodup.of_append_left
  have hnone : each [] [.children] = [] := rfl
  have hall := hhandled [] hnames
  have houter := houtermost [] hnames
  rw [hnone, List.append_nil] at hall houter
  exact ⟨⟨hall, hhandled further hnodup⟩, houter, houtermost further hnodup⟩

/-- Names in several cases, with nodes of other names around and below them. -/
def nested : Tree :=
  .node "Group" [("FIRST", .node "wrap" [("ITEMS", .list [.node "Leaf" [], .node "group" []])]),
    ("NEXT", .list [.node "WRAP" [("ITEM", .node "GROUP" [("ITEM", .node "leaf" [])])]])]

theorem collects_nested :
    ((["group", "LEAF"] ++ ["Wrap"]).map Text.lowercase).Nodup ∧
    Collects (each ["group", "LEAF"] [.log, .children] ++ each ["Wrap"] [.children]) nested
      ["Group", "Leaf", "group", "GROUP", "leaf"] ∧
    Collects (each ["LEAF"] [.log]) nested ["Leaf", "leaf"] ∧
    Collects (each ["group", "LEAF"] [.log]) nested ["Group"] :=
  ⟨by decide +kernel, (collects_preorder _ ["Wrap"] (by decide +kernel) nested).1.2,
    (collects_preorder ["LEAF"] [] (by decide +kernel) nested).2.1,
    (collects_preorder ["group", "LEAF"] [] (by decide +kernel) nested).2.1⟩

end Script

end OrderedGrammar
