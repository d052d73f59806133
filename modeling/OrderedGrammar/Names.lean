/-!
# Sorted sets of names

Messages list names in the order of their code points and each of them once.
-/

namespace OrderedGrammar.Names

/-- Puts a name into a sorted list that may have it already. -/
def insert (name : String) : List String → List String
  | [] => [name]
  | n :: ns =>
    if name = n then n :: ns
    else if name < n then name :: n :: ns
    else n :: insert name ns

/-- The names in order and without repetition. -/
def sorted (names : List String) : List String := names.foldr insert []

theorem mem_insert {a name : String} {ns : List String} :
    a ∈ insert name ns ↔ a = name ∨ a ∈ ns := by
  induction ns with
  | nil => simp [insert]
  | cons n ns ih =>
    unfold insert
    split
    · next h => subst h; simp
    · split
      · simp
      · simp only [List.mem_cons, ih]
        constructor
        · rintro (h | h | h) <;> simp [h]
        · rintro (h | h | h) <;> simp [h]

theorem mem_sorted {a : String} {names : List String} : a ∈ sorted names ↔ a ∈ names := by
  induction names with
  | nil => simp [sorted]
  | cons n ns ih => simp [sorted, mem_insert] at ih ⊢; simp [ih]

theorem pairwise_insert {name : String} {ns : List String} (h : ns.Pairwise (· < ·)) :
    (insert name ns).Pairwise (· < ·) := by
  induction ns with
  | nil => exact List.pairwise_singleton _ _
  | cons n ns ih =>
    obtain ⟨hn, hns⟩ := List.pairwise_cons.1 h
    unfold insert
    split
    · exact h
    · next hne =>
      split
      · next hlt =>
        refine List.pairwise_cons.2 ⟨fun a ha => ?_, h⟩
        rcases List.mem_cons.1 ha with rfl | ha
        · exact hlt
        · exact String.lt_trans hlt (hn a ha)
      · next hnot =>
        refine List.pairwise_cons.2 ⟨fun a ha => ?_, ih hns⟩
        rcases mem_insert.1 ha with rfl | ha
        · exact Std.lt_of_le_of_ne (String.not_lt.1 hnot) (Ne.symm hne)
        · exact hn a ha

/-- The names are in order, and each of them comes once. -/
theorem pairwise_sorted (names : List String) : (sorted names).Pairwise (· < ·) := by
  induction names with
  | nil => exact .nil
  | cons n ns ih => exact pairwise_insert ih

end OrderedGrammar.Names
