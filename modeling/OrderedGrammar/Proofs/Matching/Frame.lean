import Mathlib.Data.List.Induction
import Mathlib.Data.List.Nodup
import OrderedGrammar.Proofs.Matching.Derivation

/-!
# What a frame holds

A frame stores one match after the other, in lists that are kept backwards.  `Frame.holding`
is the frame that has stored a whole sequence of matches, given without the order of the steps.
Storing one more match leads from one such frame to the next (`Frame.store_holding`) and never
fails, and what the frame hands on in the end is what its alternative makes of all matches
(`Frame.result_holding`).
-/

namespace OrderedGrammar

namespace Rule

variable {stored : List (String × Tree)} {label : String} {value : Tree}

/-- What a frame keeps under a label when all is stored. -/
def keptUnder (r : Rule) (stored : List (String × Tree)) (label : String) : Kept :=
  if r.enumerates label then .many ((valuesUnder label stored).flatMap Frame.spliced).reverse
  else .one ((valuesUnder label stored).getLastD (.list []))

theorem tree_keptUnder (r : Rule) (stored : List (String × Tree)) (label : String) :
    (r.keptUnder stored label).tree = r.fieldValue stored label := by
  simp only [keptUnder, fieldValue]
  split <;> simp [Kept.tree]

@[simp] theorem valuesUnder_append_self :
    valuesUnder label (stored ++ [(label, value)]) = valuesUnder label stored ++ [value] := by
  simp [valuesUnder]

theorem valuesUnder_append_of_ne {a : String} (h : a ≠ label) :
    valuesUnder a (stored ++ [(label, value)]) = valuesUnder a stored := by
  simp [valuesUnder, h.symm]

theorem valuesUnder_eq_nil (h : label ∉ stored.map (·.1)) : valuesUnder label stored = [] := by
  simp only [valuesUnder, List.map_eq_nil_iff, List.filter_eq_nil_iff, decide_eq_true_eq]
  intro entry hentry he
  exact h (List.mem_map.2 ⟨entry, hentry, he⟩)

theorem keptUnder_append_of_ne (r : Rule) {a : String} (h : a ≠ label) :
    r.keptUnder (stored ++ [(label, value)]) a = r.keptUnder stored a := by
  simp [keptUnder, valuesUnder_append_of_ne h]

@[simp] theorem mem_fieldLabels {a : String} :
    a ∈ fieldLabels stored ↔ a ∈ stored.map (·.1) ∧ a ≠ "" := by
  simp only [fieldLabels, List.mem_eraseDups, List.mem_filter, decide_eq_true_eq]

theorem fieldLabels_append (label : String) (value : Tree) :
    fieldLabels (stored ++ [(label, value)]) =
      if label = "" ∨ label ∈ fieldLabels stored then fieldLabels stored
      else fieldLabels stored ++ [label] := by
  by_cases he : label = ""
  · simp [fieldLabels, he]
  · have hfilter : (((stored ++ [(label, value)]).map (·.1)).filter (· ≠ "")) =
        (stored.map (·.1)).filter (· ≠ "") ++ [label] := by
      simp [he]
    simp only [fieldLabels, hfilter, List.eraseDups_append, he, false_or, List.mem_eraseDups]
    by_cases hm : label ∈ (stored.map (·.1)).filter (· ≠ "")
    · have : [label].removeAll ((stored.map (·.1)).filter (· ≠ "")) = [] := by
        simp only [List.removeAll, List.filter_cons, List.filter_nil, List.elem_eq_mem, hm,
          decide_true, Bool.not_true, Bool.false_eq_true, ↓reduceIte]
      simp only [this, List.eraseDups_nil, List.append_nil, hm, ↓reduceIte]
    · have : [label].removeAll ((stored.map (·.1)).filter (· ≠ "")) = [label] := by
        simp only [List.removeAll, List.filter_cons, List.filter_nil, List.elem_eq_mem, hm,
          decide_false, Bool.not_false, ↓reduceIte]
      simp only [this, hm, ↓reduceIte]
      rfl

theorem nodup_fieldLabels (stored : List (String × Tree)) : (fieldLabels stored).Nodup := by
  induction stored using List.reverseRecOn with
  | nil => exact List.nodup_nil
  | append_singleton stored entry ih =>
    obtain ⟨label, value⟩ := entry
    rw [fieldLabels_append]
    split
    · exact ih
    · next h =>
      rw [not_or] at h
      exact List.nodup_append.2 ⟨ih, List.nodup_singleton _, by
        intro a ha b hb
        rw [List.mem_singleton.1 hb]
        rintro rfl
        exact h.2 ha⟩

end Rule

namespace Fields

variable {α : Type} {labels : List String} {label : String} {f : String → α} {value : α}

theorem lookup_map (f : String → α) (label : String) :
    (labels.map fun a => (a, f a)).lookup label =
      if label ∈ labels then some (f label) else none := by
  induction labels with
  | nil => rfl
  | cons a labels ih =>
    rw [List.map_cons, lookup_cons, ih]
    by_cases h : label = a
    · simp [h]
    · simp [h]

theorem set_map_of_notMem (h : label ∉ labels) :
    set label value (labels.map fun a => (a, f a)) =
      (labels.map fun a => (a, f a)) ++ [(label, value)] := by
  induction labels with
  | nil => rfl
  | cons a labels ih =>
    obtain ⟨hne, hmem⟩ := List.ne_and_not_mem_of_not_mem_cons h
    simp [set, hne.symm, ih hmem]

theorem set_map_of_mem (h : label ∈ labels) (hnd : labels.Nodup) :
    set label value (labels.map fun a => (a, f a)) =
      labels.map fun a => (a, if a = label then value else f a) := by
  induction labels with
  | nil => cases h
  | cons a labels ih =>
    obtain ⟨hna, hnd⟩ := List.nodup_cons.1 hnd
    by_cases ha : a = label
    · subst ha
      have hrest : ∀ b ∈ labels, (b, f b) = (b, if b = a then value else f b) := by
        intro b hb
        rw [if_neg (by rintro rfl; exact hna hb)]
      simp only [List.map_cons, set, ↓reduceIte, List.cons.injEq, true_and]
      exact List.map_congr_left hrest
    · have hm : label ∈ labels := (List.mem_cons.1 h).resolve_left (Ne.symm ha)
      simp [set, ha, ih hm hnd]

end Fields

namespace Frame

variable {stored : List (String × Tree)}

/-- The frame of an alternative that has stored all of a sequence of matches. -/
def holding (r : Rule) (stored : List (String × Tree)) : Frame where
  rule := r
  fields := (Rule.fieldLabels stored).map fun label => (label, r.keptUnder stored label)
  value := if "" ∈ stored.map (·.1) then some (r.keptUnder stored "") else none

@[simp] theorem holding_nil (r : Rule) : holding r [] = empty r := rfl

@[simp] theorem rule_holding (r : Rule) : (holding r stored).rule = r := rfl

theorem kept?_holding (r : Rule) (label : String) :
    (holding r stored).kept? label =
      if label ∈ stored.map (·.1) then some (r.keptUnder stored label) else none := by
  by_cases h : label = ""
  · subst h; rfl
  · simp only [kept?, holding, h, ↓reduceIte, Fields.lookup_map, Rule.mem_fieldLabels, ne_eq,
      not_false_eq_true, and_true]

theorem keep_holding (r : Rule) (label : String) (value : Tree) :
    (holding r stored).keep label (r.keptUnder (stored ++ [(label, value)]) label) =
      holding r (stored ++ [(label, value)]) := by
  by_cases he : label = ""
  · -- the fields stay, and the value is exchanged
    subst he
    simp only [keep, holding, ↓reduceIte, Rule.fieldLabels_append, true_or, List.map_append,
      List.map_cons, List.map_nil, List.mem_append, List.mem_singleton, or_true, mk.injEq,
      true_and, and_true]
    refine List.map_congr_left fun a ha => ?_
    rw [Rule.keptUnder_append_of_ne r (Rule.mem_fieldLabels.1 ha).2]
  · have hkept : ∀ a, (if a = label then r.keptUnder (stored ++ [(label, value)]) label
        else r.keptUnder stored a) = r.keptUnder (stored ++ [(label, value)]) a := by
      intro a
      by_cases ha : a = label
      · simp [ha]
      · simp [ha, Rule.keptUnder_append_of_ne r ha]
    have hvalue : r.keptUnder (stored ++ [(label, value)]) "" = r.keptUnder stored "" :=
      Rule.keptUnder_append_of_ne r (Ne.symm he)
    simp only [keep, holding, he, ↓reduceIte, Rule.fieldLabels_append, false_or, List.map_append,
      List.map_cons, List.map_nil, List.mem_append, List.mem_singleton, Ne.symm he, or_false,
      mk.injEq, true_and, hvalue, and_true]
    by_cases hm : label ∈ Rule.fieldLabels stored
    · rw [Fields.set_map_of_mem hm (Rule.nodup_fieldLabels stored), if_pos hm]
      simp only [hkept]
    · rw [Fields.set_map_of_notMem hm, if_neg hm, List.map_append]
      congr 1
      refine List.map_congr_left fun a ha => ?_
      rw [Rule.keptUnder_append_of_ne r (by rintro rfl; exact hm ha)]

/-- Storing a match leads from a frame that holds some matches to the one that holds one more,
whatever the label and the match are. -/
theorem store_holding (r : Rule) (label : String) (value : Tree) :
    (holding r stored).store label value = .ok (holding r (stored ++ [(label, value)])) := by
  rw [← keep_holding, store, rule_holding, kept?_holding]
  by_cases hr : r.enumerates label
  · simp only [hr, ↓reduceIte]
    by_cases hm : label ∈ stored.map (·.1)
    · simp [hm, hr, Rule.keptUnder, List.flatMap_append]
    · simp [hm, hr, Rule.keptUnder, Rule.valuesUnder_eq_nil hm]
  · simp [hr, Rule.keptUnder]

theorem result_holding (r : Rule) (stored : List (String × Tree)) :
    (holding r stored).result = r.assemble stored := by
  simp only [result, holding, Rule.assemble]
  split
  · next h =>
    split at h
    · next hm =>
      rw [if_pos hm, ← Option.some.inj h, Rule.tree_keptUnder]
    · cases h
  · next h =>
    split at h
    · cases h
    · next hm =>
      rw [if_neg hm, List.map_map]
      simp only [Function.comp_def, Rule.tree_keptUnder]

end Frame

end OrderedGrammar
