/-!
# Labelled fields

What belongs to different labels, in the order in which the labels were first set.
-/

namespace OrderedGrammar

/-- Values by their labels. -/
abbrev Fields (α : Type) := List (String × α)

namespace Fields

variable {α : Type}

/-- Sets the field `label`: in its place if it is there, behind all others if it is not. -/
def set (label : String) (value : α) : Fields α → Fields α
  | [] => [(label, value)]
  | (a, v) :: rest => if a = label then (a, value) :: rest else (a, v) :: set label value rest

theorem lookup_cons (a b : String) (value : α) (fields : Fields α) :
    List.lookup a ((b, value) :: fields) = if a = b then some value else fields.lookup a := by
  rw [List.lookup_cons]
  by_cases h : a = b
  · simp [h]
  · rw [beq_eq_false_iff_ne.2 h]
    simp [h]

end Fields

end OrderedGrammar
