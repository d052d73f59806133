/-!
# Lines

The lines of a text, a newline being what stands between two of them.
-/

namespace OrderedGrammar.Text

/-- The lines of a text, of which there is one at least. -/
def splitLines : List Char → List (List Char)
  | [] => [[]]
  | c :: cs =>
    if c = '\n' then [] :: splitLines cs
    else match splitLines cs with
      | [] => [[c]]
      | line :: lines => (c :: line) :: lines

/-- The lines of a text. -/
def lines (text : String) : List String := (splitLines text.toList).map String.ofList

theorem splitLines_of_not_mem {cs : List Char} (h : '\n' ∉ cs) : splitLines cs = [cs] := by
  induction cs with
  | nil => rfl
  | cons c cs ih =>
    obtain ⟨hc, hcs⟩ := List.ne_and_not_mem_of_not_mem_cons h
    simp [splitLines, hc.symm, ih hcs]

theorem splitLines_append_newline {cs : List Char} (h : '\n' ∉ cs) (rest : List Char) :
    splitLines (cs ++ '\n' :: rest) = cs :: splitLines rest := by
  induction cs with
  | nil => simp [splitLines]
  | cons c cs ih =>
    obtain ⟨hc, hcs⟩ := List.ne_and_not_mem_of_not_mem_cons h
    simp [splitLines, hc.symm, ih hcs]

/-- Lines that are joined are split again into the same lines. -/
theorem lines_intercalate {ls : List String} (hne : ls ≠ []) (h : ∀ l ∈ ls, '\n' ∉ l.toList) :
    lines ("\n".intercalate ls) = ls := by
  induction ls with
  | nil => exact absurd rfl hne
  | cons l ls ih =>
    obtain ⟨hl, hls⟩ := List.forall_mem_cons.1 h
    cases ls with
    | nil => simp [lines, splitLines_of_not_mem hl]
    | cons l' ls =>
      have hrest := ih (List.cons_ne_nil _ _) hls
      have hnewline : "\n".toList = ['\n'] := rfl
      rw [lines] at hrest
      rw [lines, String.intercalate_cons_cons, String.toList_append, String.toList_append,
        List.append_assoc, hnewline, List.singleton_append, splitLines_append_newline hl,
        List.map_cons, hrest, String.ofList_toList]

end OrderedGrammar.Text
