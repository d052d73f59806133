import OrderedGrammar.Proofs.Pattern.Groups

/-!
# Groups with higher numbers

In parentheses that keep a group, the groups of a pattern have numbers that are one higher, for they
are opened after that one.  Nothing else about the pattern depends on the numbers: it is made of its
alternatives in the same way, and is as wide.

## Main definitions

* `Pattern.shift`, `Part.shift`, `Item.shift`, `Opener.shift` : the same with higher numbers.
-/

namespace OrderedGrammar.Pattern

/-- The pattern with the numbers of all groups one higher. -/
def shift : Pattern → Pattern
  | .empty => .empty
  | .char set => .char set
  | .seq p q => .seq p.shift q.shift
  | .alt p q => .alt p.shift q.shift
  | .loop least most greedy p => .loop least most greedy p.shift
  | .group i p => .group (i + 1) p.shift
  | .again i rule => .again (i + 1) rule
  | .given i p q => .given (i + 1) p.shift q.shift
  | .anchor a => .anchor a
  | .look behind negated p => .look behind negated p.shift
  | .once p => .once p.shift

theorem shift_ofSeq (ps : List Pattern) : (ofSeq ps).shift = ofSeq (ps.map shift) := by
  induction ps with
  | nil => rfl
  | cons p ps ih =>
    cases ps with
    | nil => rfl
    | cons q ps => exact congrArg (seq p.shift) ih

theorem shift_ofAlts (ps : List Pattern) : (ofAlts ps).shift = ofAlts (ps.map shift) := by
  induction ps with
  | nil => rfl
  | cons p ps ih =>
    cases ps with
    | nil => rfl
    | cons q ps => exact congrArg (alt p.shift) ih

/-- A pattern is as wide as before if its groups are. -/
theorem width_shift {groups groups' : ℕ → Width} (h : ∀ i, groups' (i + 1) = groups i)
    (p : Pattern) : p.shift.width groups' = p.width groups := by
  induction p with
  | empty | char _ | anchor _ | look _ _ _ _ => rfl
  | again i _ => exact h i
  | seq p q ihp ihq | alt p q ihp ihq | given _ p q ihp ihq =>
    simp only [shift, width, ihp, ihq]
  | loop _ _ _ p ih | group _ p ih | once p ih => simp only [shift, width, ih]

namespace Part

/-- The part with the numbers of all groups one higher. -/
def shift : Part → Part
  | char set => char set
  | anchor sign a => anchor sign a
  | again index rule => again (index + 1) rule
  | other p => other p.shift

theorem pattern_shift (p : Part) : p.shift.pattern = p.pattern.shift := by
  cases p <;> rfl

theorem sequence_shift (parts : List Part) :
    sequence (parts.map shift) = (sequence parts).shift := by
  rw [sequence, sequence, shift_ofSeq, List.map_map, List.map_map]
  congr 2
  exact funext pattern_shift

theorem alike_shift (p q : Part) : p.shift.alike q.shift = p.alike q := by
  cases p <;> cases q <;> simp [alike, shift]

theorem splitCommon_shift (first : List Part) (others : List (List Part)) :
    splitCommon (first.map shift) (others.map (·.map shift)) =
      ((splitCommon first others).1.map shift, (splitCommon first others).2.map (·.map shift)) := by
  induction first generalizing others with
  | nil => rfl
  | cons p first ih =>
    have hall : ((others.map (·.map shift)).all fun q => q.head?.any p.shift.alike) =
        others.all fun q => q.head?.any p.alike := by
      rw [List.all_map]
      congr 1
      funext parts
      cases parts with
      | nil => rfl
      | cons q parts => exact alike_shift p q
    have htail : (others.map (·.map shift)).map (·.tail) =
        (others.map (·.tail)).map (·.map shift) := by
      simp
    rw [List.map_cons, splitCommon, splitCommon, hall, htail, ih]
    split <;> rfl

theorem items?_shift (parts : List Part) : items? (parts.map shift) = items? parts := by
  match parts with
  | [] => rfl
  | [p] => cases p <;> rfl
  | p :: q :: parts => cases p <;> rfl

theorem oneOf_shift (rule : CaseRule) (rest : List (List Part)) :
    oneOf rule (rest.map (·.map shift)) = (oneOf rule rest).shift := by
  have hitems : (rest.map (·.map shift)).mapM items? = rest.mapM items? := by
    induction rest with
    | nil => rfl
    | cons parts rest ih => rw [List.map_cons, List.mapM_cons, List.mapM_cons, ih, items?_shift]
  rw [oneOf, oneOf, hitems]
  cases rest.mapM items? with
  | some items => rfl
  | none =>
    dsimp only
    rw [shift, shift_ofAlts, List.map_map, List.map_map]
    congr 3
    exact funext sequence_shift

theorem ofAlternatives_shift (rule : CaseRule) (alternatives : List (List Part)) :
    ofAlternatives rule (alternatives.map (·.map shift)) =
      (ofAlternatives rule alternatives).map shift := by
  match alternatives with
  | [] => rfl
  | [only] => rfl
  | first :: next :: others =>
    have hsplit := splitCommon_shift first (next :: others)
    rw [List.map_cons] at hsplit
    simp only [List.map_cons, ofAlternatives, hsplit, oneOf_shift, List.map_append, List.map_nil]

end Part

/-- The item with the numbers of all groups one higher. -/
def Item.shift (item : Item) : Item := ⟨item.parts.map Part.shift, item.role⟩

/-- How a group is opened when the numbers of all groups are one higher. -/
def Opener.shift : Opener → Opener
  | .kept index => .kept (index + 1)
  | .given index => .given (index + 1)
  | .look behind negated mark => .look behind negated (mark.map (· + 1))
  | .whole => .whole
  | .plain => .plain
  | .flagged => .flagged
  | .once => .once

/-- One state of a group, and another in which the numbers of all groups are one higher. -/
structure Level.Shifts (l l' : Level) : Prop where
  flags_eq : l'.flags = l.flags
  alternatives_eq : l'.alternatives = l.alternatives.map (·.map Part.shift)
  items_eq : l'.items = l.items.map Item.shift

namespace Level.Shifts

variable {l l' : Level} (h : l.Shifts l')

theorem empty {opener opener' : Opener} {position position' : ℕ} {flags : Flags} :
    (Level.empty opener position flags).Shifts (Level.empty opener' position' flags) :=
  ⟨rfl, rfl, rfl⟩

include h

theorem sequence_eq : l'.sequence = l.sequence.map Part.shift := by
  rw [sequence, sequence, h.items_eq, ← List.map_reverse, List.flatMap_map, List.map_flatMap]
  rfl

theorem push (parts : List Part) (role : Role) :
    (l.push parts role).Shifts (l'.push (parts.map Part.shift) role) :=
  ⟨h.flags_eq, h.alternatives_eq, congrArg (Item.mk _ role :: ·) h.items_eq⟩

theorem nextAlternative : l.nextAlternative.Shifts l'.nextAlternative := by
  refine ⟨h.flags_eq, ?_, rfl⟩
  rw [Level.nextAlternative, Level.nextAlternative, List.map_cons, h.sequence_eq,
    h.alternatives_eq]

theorem parts_eq : l'.parts = l.parts.map Part.shift := by
  rw [parts, parts, h.flags_eq, h.sequence_eq, h.alternatives_eq, ← List.map_cons,
    ← List.map_reverse, Part.ofAlternatives_shift]

theorem choice_eq (index : ℕ) : l'.choice (index + 1) = (l.choice index).shift := by
  rw [choice, choice, h.alternatives_eq, h.sequence_eq, Part.sequence_shift]
  cases l.alternatives with
  | nil => rfl
  | cons yes others =>
    rw [List.map_cons]
    dsimp only
    rw [Part.sequence_shift]
    rfl

end Level.Shifts

end OrderedGrammar.Pattern
