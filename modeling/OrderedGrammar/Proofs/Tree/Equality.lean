import Mathlib.Data.List.Forall2
import Mathlib.Data.List.Sort
import Mathlib.Data.Option.Basic
import Mathlib.Data.String.Basic
import Mathlib.Logic.Relation
import OrderedGrammar.Tree.Path

/-!
# When trees are alike

A tree has a canonical form, in which the fields of each node are sorted by their labels and all
tokens stand at the start of the text.  Two trees are alike iff they have the same canonical form
(`Tree.alike_iff_canonical_eq`), so that being alike is an equivalence and does not see in which
order fields were stored and where tokens stand.  It sees all else, at every place in a tree
(`Tree.alike_at?`).

All of this is about trees whose fields have different labels, as those of nodes have that collect
their fields by `Fields.set`.

## Main definitions

* `Tree.HasDistinctLabels` : whether the fields of each node have different labels.
* `Tree.canonical` : the canonical form.
* `Tree.Rearranges` : one change of the order of fields or of the place of a token.
* `Tree.Differs` : how what stands at one place of two trees can differ.
-/

namespace OrderedGrammar

/-! ### Fields by their labels -/

namespace Fields

variable {α : Type} {fields fields' : Fields α} {label : String} {value : α}

/-- The fields in the order of their labels. -/
def sorted (fields : Fields α) : Fields α := fields.insertionSort fun f f' => f.1 ≤ f'.1

theorem lookup_eq_some_iff (h : (fields.map (·.1)).Nodup) :
    fields.lookup label = some value ↔ (label, value) ∈ fields := by
  induction fields with
  | nil => simp
  | cons f rest ih =>
    obtain ⟨a, v⟩ := f
    obtain ⟨ha, hrest⟩ := List.nodup_cons.1 h
    rw [lookup_cons, List.mem_cons, Prod.mk.injEq]
    by_cases hlabel : label = a
    · subst hlabel
      have hnotMem : (label, value) ∉ rest := fun hmem => ha (List.mem_map_of_mem (f := (·.1)) hmem)
      simp [hnotMem, eq_comm]
    · simp [hlabel, ih hrest]

/-- What stands under a label does not depend on the order of fields. -/
theorem lookup_eq_of_perm (h : (fields.map (·.1)).Nodup) (hperm : fields.Perm fields')
    (label : String) : fields.lookup label = fields'.lookup label := by
  have h' : (fields'.map (·.1)).Nodup := (hperm.map _).nodup_iff.1 h
  ext value
  rw [lookup_eq_some_iff h, lookup_eq_some_iff h', hperm.mem_iff]

theorem sorted_perm (fields : Fields α) : (sorted fields).Perm fields :=
  List.perm_insertionSort _ fields

theorem pairwise_sorted (fields : Fields α) : (sorted fields).Pairwise fun f f' => f.1 ≤ f'.1 :=
  have : Std.Total fun f f' : String × α => f.1 ≤ f'.1 := ⟨fun f f' => le_total f.1 f'.1⟩
  have : IsTrans (String × α) fun f f' => f.1 ≤ f'.1 := ⟨fun _ _ _ => le_trans⟩
  List.pairwise_insertionSort _ fields

/-- Fields with different labels are sorted in the same way iff they are the same up to order. -/
theorem sorted_eq_sorted_iff (h : (fields.map (·.1)).Nodup) :
    sorted fields = sorted fields' ↔ fields.Perm fields' := by
  constructor
  · intro heq
    exact (sorted_perm fields).symm.trans (heq ▸ sorted_perm fields')
  · intro hperm
    have hsame : (sorted fields).Perm (sorted fields') :=
      (sorted_perm fields).trans (hperm.trans (sorted_perm fields').symm)
    refine hsame.eq_of_pairwise (fun f f' hf hf' hle hle' => ?_) (pairwise_sorted fields)
      (pairwise_sorted fields')
    exact List.inj_on_of_nodup_map h ((sorted_perm fields).mem_iff.1 hf)
      ((hperm.trans (sorted_perm fields').symm).mem_iff.2 hf') (le_antisymm hle hle')

/-- As many fields with different labels, all of which are among the others, are the others. -/
theorem perm_iff (h : (fields.map (·.1)).Nodup) :
    fields.Perm fields' ↔ fields.length = fields'.length ∧ ∀ f ∈ fields, f ∈ fields' :=
  ⟨fun hperm => ⟨hperm.length_eq, fun _ hf => hperm.mem_iff.1 hf⟩, fun ⟨hlength, hsubset⟩ =>
    (List.subperm_of_subset h.of_map hsubset).perm_of_length_le hlength.ge⟩

end Fields

namespace Tree

/-! ### Canonical forms -/

/-- Whether the fields of each node have different labels. -/
inductive HasDistinctLabels : Tree → Prop
  | token (t : Token) : HasDistinctLabels (.token t)
  | node {name : String} {fields : Fields Tree} : (fields.map (·.1)).Nodup →
      (∀ f ∈ fields, HasDistinctLabels f.2) → HasDistinctLabels (.node name fields)
  | list {items : List Tree} : (∀ item ∈ items, HasDistinctLabels item) →
      HasDistinctLabels (.list items)

mutual

/-- The tree with the fields of each node sorted, and all tokens at the start of the text. -/
def canonical : Tree → Tree
  | .token t => .token { t with offset := 0 }
  | .node name fields => .node name (Fields.sorted (canonicalFields fields))
  | .list items => .list (canonicalItems items)

/-- The fields with their values in canonical form, not sorted. -/
def canonicalFields : Fields Tree → Fields Tree
  | [] => []
  | (label, value) :: rest => (label, canonical value) :: canonicalFields rest

/-- The items of a list in canonical form. -/
def canonicalItems : List Tree → List Tree
  | [] => []
  | item :: items => canonical item :: canonicalItems items

end

theorem canonicalFields_eq_map (fields : Fields Tree) :
    canonicalFields fields = fields.map fun f => (f.1, f.2.canonical) := by
  induction fields with
  | nil => rfl
  | cons f rest ih => rw [canonicalFields, ih, List.map_cons]

theorem canonicalItems_eq_map (items : List Tree) :
    canonicalItems items = items.map canonical := by
  induction items with
  | nil => rfl
  | cons item items ih => rw [canonicalItems, ih, List.map_cons]

@[simp] theorem labels_canonicalFields (fields : Fields Tree) :
    (canonicalFields fields).map (·.1) = fields.map (·.1) := by
  rw [canonicalFields_eq_map, List.map_map]
  rfl

theorem mem_canonicalFields {fields : Fields Tree} {label : String} {value : Tree} :
    (label, value) ∈ canonicalFields fields ↔
      ∃ v, (label, v) ∈ fields ∧ v.canonical = value := by
  simp [canonicalFields_eq_map]

theorem lookup_canonicalFields (fields : Fields Tree) (label : String) :
    (canonicalFields fields).lookup label = (fields.lookup label).map canonical := by
  induction fields with
  | nil => rfl
  | cons f rest ih =>
    rw [canonicalFields, Fields.lookup_cons, Fields.lookup_cons, ih]
    split <;> rfl

/-! ### Being alike, one level down -/

theorem itemsAlike_iff {items items' : List Tree} :
    itemsAlike items items' ↔ List.Forall₂ (fun a b => a.alike b) items items' := by
  induction items generalizing items' with
  | nil => cases items' <;> simp [itemsAlike]
  | cons item items ih => cases items' <;> simp [itemsAlike, ih]

theorem fieldsAlike_iff {fields fields' : Fields Tree} : fieldsAlike fields fields' ↔
    ∀ f ∈ fields, ∃ v, fields'.lookup f.1 = some v ∧ f.2.alike v := by
  induction fields with
  | nil => simp [fieldsAlike]
  | cons f rest ih =>
    obtain ⟨label, value⟩ := f
    rw [fieldsAlike, Bool.and_eq_true, ih, List.forall_mem_cons]
    refine and_congr_left fun _ => ?_
    cases fields'.lookup label <;> simp

theorem alike_node_iff {name name' : String} {fields fields' : Fields Tree} :
    (node name fields).alike (node name' fields') ↔ name = name' ∧
      fields.length = fields'.length ∧
        ∀ f ∈ fields, ∃ v, fields'.lookup f.1 = some v ∧ f.2.alike v := by
  rw [alike, Bool.and_eq_true, Bool.and_eq_true, beq_iff_eq, beq_iff_eq, fieldsAlike_iff, and_assoc]

theorem alike_list_iff {items items' : List Tree} :
    (list items).alike (list items') ↔ List.Forall₂ (fun a b => a.alike b) items items' := by
  rw [alike, itemsAlike_iff]

/-! ### Being alike, by canonical forms -/

/-- **Trees are alike iff they have the same canonical form.** -/
theorem alike_iff_canonical_eq {a b : Tree} (ha : a.HasDistinctLabels)
    (hb : b.HasDistinctLabels) : a.alike b ↔ a.canonical = b.canonical := by
  induction ha generalizing b with
  | token t =>
    cases hb with
    | token t' => simp [alike, Token.alike_iff, canonical]
    | node _ _ => simp [alike, canonical]
    | list _ => simp [alike, canonical]
  | @node name fields hnodup _ ih =>
    cases hb with
    | token t' => simp [alike, canonical]
    | @node name' fields' hnodup' hvalues' =>
      -- sorted fields are equal iff there are as many, and each is among the others
      have hnodup₁ : ((canonicalFields fields).map (·.1)).Nodup := by simpa using hnodup
      rw [alike_node_iff, canonical, canonical, Tree.node.injEq,
        Fields.sorted_eq_sorted_iff hnodup₁, Fields.perm_iff hnodup₁]
      refine and_congr_right fun _ => and_congr (by simp [canonicalFields_eq_map]) ?_
      rw [canonicalFields_eq_map fields, List.forall_mem_map]
      refine forall₂_congr fun f hf => ?_
      rw [mem_canonicalFields]
      refine exists_congr fun v => ?_
      rw [Fields.lookup_eq_some_iff hnodup']
      exact and_congr_right fun hv => (ih f hf (hvalues' _ hv)).trans eq_comm
    | list _ => simp [alike, canonical]
  | @list items _ ih =>
    cases hb with
    | token t' => simp [alike, canonical]
    | node _ _ => simp [alike, canonical]
    | @list items' hitems' =>
      rw [alike_list_iff, canonical, canonical, Tree.list.injEq, canonicalItems_eq_map,
        canonicalItems_eq_map, ← List.forall₂_eq_eq_eq, List.forall₂_map_left_iff,
        List.forall₂_map_right_iff, List.forall₂_iff_get, List.forall₂_iff_get]
      refine and_congr_right fun _ => forall₃_congr fun i _ _ => ?_
      exact ih _ (List.get_mem _ _) (hitems' _ (List.get_mem _ _))

/-! ### Other orders and other places -/

/-- One change, anywhere in a tree, of where a token stands or how the fields of a node are
ordered. -/
inductive Rearranges : Tree → Tree → Prop
  | offset (t : Token) (offset : Int) : Rearranges (.token t) (.token { t with offset })
  | order {name : String} {fields fields' : Fields Tree} : fields.Perm fields' →
      Rearranges (.node name fields) (.node name fields')
  | inField {name label : String} {before after : Fields Tree} {value value' : Tree} :
      Rearranges value value' → Rearranges (.node name (before ++ (label, value) :: after))
        (.node name (before ++ (label, value') :: after))
  | inItem {before after : List Tree} {item item' : Tree} : Rearranges item item' →
      Rearranges (.list (before ++ item :: after)) (.list (before ++ item' :: after))

/-- A change leaves the canonical form as it is. -/
theorem Rearranges.canonical_eq {a b : Tree} (h : Rearranges a b) (ha : a.HasDistinctLabels) :
    b.HasDistinctLabels ∧ a.canonical = b.canonical := by
  induction h with
  | offset t offset => exact ⟨.token _, rfl⟩
  | @order name fields fields' hperm =>
    cases ha with
    | node hnodup hvalues =>
      refine ⟨.node ((hperm.map _).nodup_iff.1 hnodup) fun f hf =>
        hvalues f (hperm.mem_iff.2 hf), ?_⟩
      rw [canonical, canonical, Tree.node.injEq,
        Fields.sorted_eq_sorted_iff (by simpa using hnodup), canonicalFields_eq_map,
        canonicalFields_eq_map]
      exact ⟨rfl, hperm.map _⟩
  | @inField name label before after value value' _ ih =>
    cases ha with
    | node hnodup hvalues =>
      rw [List.forall_mem_append, List.forall_mem_cons] at hvalues
      obtain ⟨hbefore, hvalue, hafter⟩ := hvalues
      obtain ⟨hvalue', heq⟩ := ih hvalue
      refine ⟨.node (by simpa using hnodup) ?_, ?_⟩
      · exact List.forall_mem_append.2 ⟨hbefore, List.forall_mem_cons.2 ⟨hvalue', hafter⟩⟩
      · simp [canonical, canonicalFields_eq_map, heq]
  | @inItem before after item item' _ ih =>
    cases ha with
    | list hitems =>
      rw [List.forall_mem_append, List.forall_mem_cons] at hitems
      obtain ⟨hbefore, hitem, hafter⟩ := hitems
      obtain ⟨hitem', heq⟩ := ih hitem
      refine ⟨.list ?_, ?_⟩
      · exact List.forall_mem_append.2 ⟨hbefore, List.forall_mem_cons.2 ⟨hitem', hafter⟩⟩
      · simp [canonical, canonicalItems_eq_map, heq]

/-- Any number of changes leave the canonical form as it is. -/
theorem canonical_eq_of_rearranged {a b : Tree} (h : Relation.ReflTransGen Rearranges a b)
    (ha : a.HasDistinctLabels) : b.HasDistinctLabels ∧ a.canonical = b.canonical := by
  induction h with
  | refl => exact ⟨ha, rfl⟩
  | tail _ hstep ih =>
    obtain ⟨hb, heq⟩ := ih
    obtain ⟨hc, heq'⟩ := hstep.canonical_eq hb
    exact ⟨hc, heq.trans heq'⟩

/-! ### Places in trees that are alike -/

theorem HasDistinctLabels.child? {a x : Tree} {step : PathStep} (ha : a.HasDistinctLabels)
    (h : a.child? step = some x) : x.HasDistinctLabels := by
  cases ha with
  | token t => cases h
  | node hnodup hvalues =>
    cases step with
    | field label => exact hvalues (label, x) ((Fields.lookup_eq_some_iff hnodup).1 h)
    | item index => cases h
  | list hitems =>
    cases step with
    | field label => cases h
    | item index => exact hitems x (List.mem_of_getElem? h)

theorem HasDistinctLabels.at? {a x : Tree} {path : List PathStep} (ha : a.HasDistinctLabels)
    (h : a.at? path = some x) : x.HasDistinctLabels := by
  induction path generalizing a with
  | nil => exact Option.some.inj h ▸ ha
  | cons step path ih =>
    obtain ⟨child, hchild, hx⟩ := Option.bind_eq_some_iff.1 h
    exact ih (ha.child? hchild) hx

theorem rel_canonical_iff {o o' : Option Tree} :
    Option.Rel (fun x y => x.canonical = y.canonical) o o' ↔
      o.map canonical = o'.map canonical := by
  cases o <;> cases o' <;> simp

/-- From trees with the same canonical form a step leads to such trees. -/
theorem canonical_child? {a b : Tree} (ha : a.HasDistinctLabels) (hb : b.HasDistinctLabels)
    (h : a.canonical = b.canonical) (step : PathStep) :
    Option.Rel (fun x y => x.canonical = y.canonical) (a.child? step) (b.child? step) := by
  cases ha with
  | token t =>
    cases hb with
    | token t' => exact .none
    | node _ _ => simp [canonical] at h
    | list _ => simp [canonical] at h
  | @node name fields hnodup _ =>
    cases hb with
    | token t' => simp [canonical] at h
    | @node name' fields' hnodup' _ =>
      cases step with
      | item index => exact .none
      | field label =>
        rw [canonical, canonical, Tree.node.injEq,
          Fields.sorted_eq_sorted_iff (by simpa using hnodup)] at h
        rw [child?, child?, rel_canonical_iff, ← lookup_canonicalFields, ← lookup_canonicalFields]
        exact Fields.lookup_eq_of_perm (by simpa using hnodup) h.2 label
    | list _ => simp [canonical] at h
  | @list items _ =>
    cases hb with
    | token t' => simp [canonical] at h
    | node _ _ => simp [canonical] at h
    | @list items' _ =>
      cases step with
      | field label => exact .none
      | item index =>
        rw [canonical, canonical, Tree.list.injEq, canonicalItems_eq_map,
          canonicalItems_eq_map] at h
        rw [child?, child?, rel_canonical_iff, ← List.getElem?_map, ← List.getElem?_map, h]

theorem canonical_at? {a b : Tree} (ha : a.HasDistinctLabels) (hb : b.HasDistinctLabels)
    (h : a.canonical = b.canonical) (path : List PathStep) :
    Option.Rel (fun x y => x.canonical = y.canonical) (a.at? path) (b.at? path) := by
  induction path generalizing a b with
  | nil => exact .some h
  | cons step path ih =>
    have hchild := canonical_child? ha hb h step
    rw [at?, at?]
    generalize hx : a.child? step = x at *
    generalize hy : b.child? step = y at *
    cases hchild with
    | none => exact .none
    | some h => exact ih (ha.child? hx) (hb.child? hy) h

/-- **Trees that are alike have the same places, and alike trees there.** -/
theorem alike_at? {a b : Tree} (ha : a.HasDistinctLabels) (hb : b.HasDistinctLabels)
    (h : a.alike b) (path : List PathStep) :
    Option.Rel (fun x y => x.alike y) (a.at? path) (b.at? path) := by
  have hplace := canonical_at? ha hb ((alike_iff_canonical_eq ha hb).1 h) path
  generalize hx : a.at? path = x at *
  generalize hy : b.at? path = y at *
  cases hplace with
  | none => exact .none
  | some h => exact .some ((alike_iff_canonical_eq (ha.at? hx) (hb.at? hy)).2 h)

/-- How what stands at one place of two trees can differ. -/
inductive Differs : Option Tree → Option Tree → Prop
  /-- The items of lists are not alike in order. -/
  | items {items items' : List Tree} : ¬List.Forall₂ (fun a b => a.alike b) items items' →
      Differs (some (.list items)) (some (.list items'))
  /-- Only one of them is in a list. -/
  | single {value : Tree} {items : List Tree} : (∀ items, value ≠ .list items) →
      Differs (some value) (some (.list items))
  /-- Only one of them is there. -/
  | missing {value : Tree} : Differs none (some value)
  /-- Only one of them is a node. -/
  | token {t : Token} {name : String} {fields : Fields Tree} :
      Differs (some (.token t)) (some (.node name fields))

theorem not_alike_of_differs {a b : Tree} (ha : a.HasDistinctLabels) (hb : b.HasDistinctLabels)
    {path : List PathStep} (h : Differs (a.at? path) (b.at? path)) : ¬a.alike b := by
  intro halike
  have hrel := alike_at? ha hb halike path
  generalize a.at? path = x at *
  generalize b.at? path = y at *
  cases h with
  | items hitems =>
    cases hrel with
    | some h => exact hitems (alike_list_iff.1 h)
  | @single value items hvalue =>
    cases hrel with
    | some h =>
      cases value with
      | token t => simp [alike] at h
      | node _ _ => simp [alike] at h
      | list items => exact hvalue items rfl
  | missing => cases hrel
  | token =>
    cases hrel with
    | some h => simp [alike] at h

/-! ### The equivalence -/

/-- **Trees are alike up to the order of fields and the places of tokens.**  They are iff they have
the same canonical form.  So it is an equivalence, and stays when fields are put in other orders
and tokens in other places anywhere in both trees; but trees are not alike that differ at some place
in the order of a list, in what is a list, in what is there at all, or in what is a node. -/
theorem alike_up_to_arrangement {a b c : Tree} (ha : a.HasDistinctLabels)
    (hb : b.HasDistinctLabels) (hc : c.HasDistinctLabels) :
    (a.alike b ↔ a.canonical = b.canonical) ∧
    a.alike a ∧ (a.alike b → b.alike a) ∧ (a.alike b → b.alike c → a.alike c) ∧
    (∀ a' b', Relation.ReflTransGen Rearranges a a' → Relation.ReflTransGen Rearranges b b' →
      (a'.alike b' ↔ a.alike b)) ∧
    ∀ path, Differs (a.at? path) (b.at? path) ∨ Differs (b.at? path) (a.at? path) →
      ¬a.alike b := by
  have hsymm : a.alike b → b.alike a := by
    rw [alike_iff_canonical_eq ha hb, alike_iff_canonical_eq hb ha]
    exact Eq.symm
  refine ⟨alike_iff_canonical_eq ha hb, (alike_iff_canonical_eq ha ha).2 rfl, hsymm, ?_, ?_, ?_⟩
  · rw [alike_iff_canonical_eq ha hb, alike_iff_canonical_eq hb hc, alike_iff_canonical_eq ha hc]
    exact Eq.trans
  · intro a' b' haa' hbb'
    obtain ⟨ha', heqa⟩ := canonical_eq_of_rearranged haa' ha
    obtain ⟨hb', heqb⟩ := canonical_eq_of_rearranged hbb' hb
    rw [alike_iff_canonical_eq ha' hb', alike_iff_canonical_eq ha hb, heqa, heqb]
  · rintro path (h | h)
    · exact not_alike_of_differs ha hb h
    · exact fun halike => not_alike_of_differs hb ha h (hsymm halike)

/-! ### Sums -/

/-- A number where it stands. -/
def numberAt (text : String) (offset : Int) : Tree := .token ⟨"NUMBER", text, offset⟩

/-- The fields of a sum of two numbers. -/
def sumFields (first second : Tree) : Fields Tree :=
  [("TERMS", .list [first, second]), ("OP", .token ⟨"PLUS", "+", 2⟩)]

/-- A sum. -/
def oneAndTwo : Tree := .node "sum" (sumFields (numberAt "1" 0) (numberAt "2" 4))

/-- The same sum with its operator in front and its first number in another place. -/
def plusOneAndTwo : Tree := .node "sum" (sumFields (numberAt "1" 1) (numberAt "2" 4)).reverse

/-- A sum of the same numbers in another order. -/
def twoAndOne : Tree := .node "sum" (sumFields (numberAt "2" 0) (numberAt "1" 4))

theorem hasDistinctLabels_sum (a b : String) (i j : Int) {fields : Fields Tree}
    (hperm : (sumFields (numberAt a i) (numberAt b j)).Perm fields) :
    (node "sum" fields).HasDistinctLabels := by
  have hterms : HasDistinctLabels (.list [numberAt a i, numberAt b j]) :=
    .list (by simpa [numberAt] using ⟨.token _, .token _⟩)
  refine .node ((hperm.map (·.1)).nodup_iff.1 (by simp [sumFields])) fun f hf => ?_
  have hmem := hperm.mem_iff.2 hf
  rw [sumFields, List.mem_pair] at hmem
  rcases hmem with rfl | rfl
  · exact hterms
  · exact .token _

theorem oneAndTwo_alike : oneAndTwo.HasDistinctLabels ∧ plusOneAndTwo.HasDistinctLabels ∧
    twoAndOne.HasDistinctLabels ∧ Relation.ReflTransGen Rearranges oneAndTwo plusOneAndTwo ∧
    oneAndTwo.alike plusOneAndTwo ∧ plusOneAndTwo.alike oneAndTwo ∧
    oneAndTwo.canonical = plusOneAndTwo.canonical ∧
    Differs (plusOneAndTwo.at? [.field "TERMS"]) (twoAndOne.at? [.field "TERMS"]) ∧
    ¬plusOneAndTwo.alike twoAndOne := by
  have hone : oneAndTwo.HasDistinctLabels := hasDistinctLabels_sum _ _ _ _ (.refl _)
  have hplus : plusOneAndTwo.HasDistinctLabels :=
    hasDistinctLabels_sum _ _ _ _ (List.reverse_perm _).symm
  have htwo : twoAndOne.HasDistinctLabels := hasDistinctLabels_sum _ _ _ _ (.refl _)
  have hchanges : Relation.ReflTransGen Rearranges oneAndTwo plusOneAndTwo :=
    .tail (.single (@Rearranges.inField _ _ [] _ _ _ (@Rearranges.inItem [] _ _ _ (.offset _ 1))))
      (.order (List.reverse_perm _).symm)
  have hdiffers : Differs (plusOneAndTwo.at? [.field "TERMS"]) (twoAndOne.at? [.field "TERMS"]) :=
    .items (by rw [← itemsAlike_iff]; decide)
  obtain ⟨hcanonical, -, hsymm, -, harranged, -⟩ := alike_up_to_arrangement hone hplus htwo
  obtain ⟨-, hrefl, -, -, -, hplace⟩ := alike_up_to_arrangement hplus htwo hone
  have halike : oneAndTwo.alike plusOneAndTwo := (harranged _ _ hchanges .refl).1 hrefl
  exact ⟨hone, hplus, htwo, hchanges, halike, hsymm halike, hcanonical.1 halike, hdiffers,
    hplace _ (.inl hdiffers)⟩

end Tree

end OrderedGrammar
