import OrderedGrammar.Proofs.Pattern.Prefixes

/-!
# How far a match goes

Whatever a pattern is made of, the matcher goes on from a place behind some characters of the text
ahead of it (`Pattern.run_advances`, `Pattern.reaches_of_matchAt`): a condition on what lies ahead or
behind comes back to its place, and nothing else goes backwards.  Groups that the pattern does not
keep stay as they are.

What a group keeps lies between the places where the match starts and ends, unless the group stands
in such a condition (`Pattern.run_keepsBetween`).

## Main definitions

* `Cursor.Reaches` : a place is at or behind another one.
* `Pattern.State.Advances` : a state is behind another one, with a group as it was.
* `Pattern.keepsAside` : a pattern keeps a group in a condition on what lies ahead or behind.
* `Pattern.State.KeepsBetween` : a state is behind another one, and so is what a group has kept.
-/

namespace OrderedGrammar

/-- The place `d` is at or behind `c` in the same text. -/
def Cursor.Reaches (c d : Cursor) : Prop := ∃ a, a <+: c.after ∧ d = c.past a

namespace Cursor.Reaches

variable {c d e : Cursor}

theorem refl (c : Cursor) : c.Reaches c := ⟨[], List.nil_prefix, rfl⟩

theorem trans (h : c.Reaches d) (h' : d.Reaches e) : c.Reaches e := by
  obtain ⟨a, ha, rfl⟩ := h
  obtain ⟨b, hb, rfl⟩ := h'
  exact ⟨a ++ b, Pattern.append_isPrefix ha hb, past_past _ _ _⟩

theorem offset_le (h : c.Reaches d) : c.offset ≤ d.offset := by
  obtain ⟨a, -, rfl⟩ := h
  exact Nat.le_add_right _ _

/-- Of two places behind a third one, the one is behind the other. -/
theorem of_le (h : c.Reaches d) (h' : c.Reaches e) (hle : d.offset ≤ e.offset) : d.Reaches e := by
  obtain ⟨a, ha, rfl⟩ := h
  obtain ⟨b, hb, rfl⟩ := h'
  rw [offset_past, offset_past, Nat.add_le_add_iff_left] at hle
  obtain ⟨b, rfl⟩ := List.prefix_of_prefix_length_le ha hb hle
  refine ⟨b, ?_, (past_past c a b).symm⟩
  obtain ⟨rest, hrest⟩ := hb
  rw [after_past, ← hrest, List.append_assoc, List.drop_left]
  exact List.prefix_append b rest

/-- The text of a place is that of the places behind it. -/
theorem text_eq (h : c.Reaches d) : d.text = c.text := by
  obtain ⟨a, ⟨rest, hrest⟩, rfl⟩ := h
  simp [text, past, ← hrest]

/-- Between two places stand as many characters as their offsets are apart. -/
theorem length_slice (h : c.Reaches d) : (c.slice d).length = d.offset - c.offset := by
  obtain ⟨a, ha, rfl⟩ := h
  rw [slice_past ha, offset_past, Nat.add_sub_cancel_left]

end Cursor.Reaches

namespace Pattern

variable {i : ℕ} {s t u : State} {next : Next}

/-- The state `t` is at a place at or behind that of `s`, and the group `i` is as it was. -/
structure State.Advances (i : ℕ) (s t : State) : Prop where
  cursor : s.cursor.Reaches t.cursor
  entered : t.entered.lookup i = s.entered.lookup i
  left : t.left.lookup i = s.left.lookup i

namespace State.Advances

theorem refl (s : State) : s.Advances i s := ⟨.refl _, rfl, rfl⟩

theorem trans (h : s.Advances i t) (h' : t.Advances i u) : s.Advances i u :=
  ⟨h.cursor.trans h'.cursor, h'.entered.trans h.entered, h'.left.trans h.left⟩

/-- Going on to a place behind some characters leaves the groups alone. -/
theorem of_cursor {c : Cursor} (h : s.cursor.Reaches c) : s.Advances i (s.moveTo c) :=
  ⟨h, rfl, rfl⟩

/-- Coming back to the place of the start. -/
theorem return_to {c : Cursor} (h : (s.moveTo c).Advances i t) :
    s.Advances i (t.moveTo s.cursor) :=
  ⟨.refl _, h.entered, h.left⟩

end State.Advances

/-! ### What a step hands on -/

/-- A step hands on states that are so related to its own, and no others. -/
def HandsOn (R : State → State → Prop) (step : State → Next → Option State) : Prop :=
  ∀ {s next u}, step s next = some u → ∃ t, R s t ∧ next t = some u

theorem reaches_of_next? {c d : Cursor} {x : Char} (h : c.next? = some (x, d)) : c.Reaches d := by
  refine ⟨[x], ?_, Cursor.past_singleton h⟩
  unfold Cursor.next? at h
  split at h
  · cases h
  · next rest hafter =>
    cases h
    exact hafter ▸ ⟨rest, rfl⟩

theorem reaches_of_skip? {rule : CaseRule} {cs : List Char} {c d : Cursor}
    (h : skip? rule cs c = some d) : c.Reaches d := by
  induction cs generalizing c with
  | nil =>
    cases h
    exact .refl _
  | cons x cs ih =>
    rw [skip?] at h
    split at h
    · cases h
    · next y e hnext =>
      split at h
      · exact (reaches_of_next? hnext).trans (ih h)
      · cases h

theorem of_orElse {x y : Option State} (h : (x <|> y) = some u) : x = some u ∨ y = some u := by
  rw [Option.orElse_eq_orElse, Option.orElse_eq_or, Option.or_eq_some_iff] at h
  exact h.imp_right (·.2)

section Rounds

variable {R : State → State → Prop} (hrefl : ∀ s, R s s)
  (htrans : ∀ {s t u}, R s t → R t u → R s u) {step : State → Next → Option State}
  (hstep : HandsOn R step)

include hrefl htrans hstep

theorem requiredRounds_handsOn {n : ℕ} (h : requiredRounds step n s next = some u) :
    ∃ t, R s t ∧ next t = some u := by
  induction n generalizing s with
  | zero => exact ⟨s, hrefl s, h⟩
  | succ n ih =>
    obtain ⟨t, hst, h⟩ := hstep h
    obtain ⟨v, htv, h⟩ := ih h
    exact ⟨v, htrans hst htv, h⟩

theorem optionalRounds_handsOn {greedy : Bool} {ahead : List Char} {most : Option ℕ}
    (h : optionalRounds step greedy next ahead most s = some u) :
    ∃ t, R s t ∧ next t = some u := by
  -- a loop stops where it is, or goes on in one more round
  have hchoice {s : State} {onward : Next}
      (hmore : ∀ t, onward t = some u → ∃ v, R t v ∧ next v = some u)
      (h : (if greedy then step s onward <|> next s else next s <|> step s onward) = some u) :
      ∃ t, R s t ∧ next t = some u := by
    have heither : step s onward = some u ∨ next s = some u := by
      split at h
      · exact of_orElse h
      · exact (of_orElse h).symm
    rcases heither with h | h
    · obtain ⟨t, hst, h⟩ := hstep h
      obtain ⟨v, htv, h⟩ := hmore t h
      exact ⟨v, htrans hst htv, h⟩
    · exact ⟨s, hrefl s, h⟩
  induction ahead generalizing most s with
  | nil =>
    rw [optionalRounds] at h
    split at h
    · exact ⟨s, hrefl s, h⟩
    · exact hchoice (fun t ht => ⟨t, hrefl t, ht⟩) h
  | cons x ahead ih =>
    rw [optionalRounds] at h
    split at h
    · exact ⟨s, hrefl s, h⟩
    · refine hchoice (fun t ht => ?_) h
      split at ht
      · exact ⟨t, hrefl t, ht⟩
      · exact ih ht

end Rounds

/-! ### What a pattern hands on -/

namespace HandsOn

variable {R : State → State → Prop} {p q : Pattern}

theorem seq (htrans : ∀ {s t u}, R s t → R t u → R s u) (hp : HandsOn R p.run)
    (hq : HandsOn R q.run) : HandsOn R (Pattern.seq p q).run := by
  intro s next u h
  obtain ⟨t, hst, h⟩ := hp h
  obtain ⟨v, htv, h⟩ := hq h
  exact ⟨v, htrans hst htv, h⟩

theorem alt (hp : HandsOn R p.run) (hq : HandsOn R q.run) : HandsOn R (Pattern.alt p q).run := by
  intro s next u h
  rcases of_orElse h with h | h
  · exact hp h
  · exact hq h

/-- A loop hands on what its rounds lead to. -/
theorem loop (hrefl : ∀ s, R s s) (htrans : ∀ {s t u}, R s t → R t u → R s u) (least : ℕ)
    (most : Option ℕ) (greedy : Bool) (hp : HandsOn R p.run) :
    HandsOn R (Pattern.loop least most greedy p).run := by
  intro s next u h
  obtain ⟨t, hst, h⟩ := requiredRounds_handsOn hrefl htrans hp h
  obtain ⟨v, htv, h⟩ := optionalRounds_handsOn hrefl htrans hp h
  exact ⟨v, htrans hst htv, h⟩

theorem given (index : ℕ) (hp : HandsOn R p.run) (hq : HandsOn R q.run) :
    HandsOn R (Pattern.given index p q).run := by
  intro s next u h
  rw [run] at h
  split at h
  · exact hp h
  · exact hq h

theorem once (hp : HandsOn R p.run) : HandsOn R (Pattern.once p).run := by
  intro s next u h
  rw [run] at h
  split at h
  · cases h
  · next t hrun =>
    obtain ⟨t', hst, hsome⟩ := hp hrun
    cases hsome
    exact ⟨t, hst, h⟩

end HandsOn

/-- **The matcher goes forward**: it hands on places at or behind its own, and leaves a group alone
that the pattern does not keep. -/
theorem run_advances {p : Pattern} (hp : p.keeps i = false) : HandsOn (State.Advances i) p.run := by
  induction p with
  | empty => exact fun h => ⟨_, .refl _, h⟩
  | char set =>
    intro s next u h
    rw [run] at h
    split at h
    · cases h
    · next hnext =>
      split at h
      · exact ⟨_, .of_cursor (reaches_of_next? hnext), h⟩
      · cases h
  | seq p q ihp ihq =>
    obtain ⟨hp, hq⟩ := Bool.or_eq_false_iff.1 hp
    exact HandsOn.seq .trans (ihp hp) (ihq hq)
  | alt p q ihp ihq =>
    obtain ⟨hp, hq⟩ := Bool.or_eq_false_iff.1 hp
    exact HandsOn.alt (ihp hp) (ihq hq)
  | loop least most greedy p ih => exact HandsOn.loop .refl .trans least most greedy (ih hp)
  | group index p ih =>
    intro s next u h
    obtain ⟨hindex, hp⟩ := Bool.or_eq_false_iff.1 hp
    have hne : (i == index) = false := by
      rw [beq_eq_false_iff_ne] at hindex ⊢
      exact hindex.symm
    obtain ⟨t, ⟨hcursor, hentered, hleft⟩, h⟩ := ih hp h
    refine ⟨t.leave index, ⟨hcursor, ?_, ?_⟩, h⟩
    · rw [State.leave, hentered, State.enter, List.lookup_cons, hne]
    · rw [State.leave, List.lookup_cons, hne, hleft, State.enter]
  | again index rule =>
    intro s next u h
    rw [run] at h
    split at h
    · cases h
    · split at h
      · cases h
      · next hskip => exact ⟨_, .of_cursor (reaches_of_skip? hskip), h⟩
  | given index p q ihp ihq =>
    obtain ⟨hp, hq⟩ := Bool.or_eq_false_iff.1 hp
    exact HandsOn.given index (ihp hp) (ihq hq)
  | anchor a =>
    intro s next u h
    rw [run] at h
    split at h
    · exact ⟨s, .refl s, h⟩
    · cases h
  | look behind negated p ih =>
    intro s next u h
    unfold run at h
    dsimp only at h
    split at h
    · next t hfound =>
      -- the groups stay as they are where the condition is met
      obtain ⟨c, -, hrun⟩ := Option.bind_eq_some_iff.1 hfound
      obtain ⟨t', hst, hsome⟩ := ih hp hrun
      cases hsome
      exact ⟨_, .return_to hst, h⟩
    · exact ⟨s, .refl s, h⟩
    · cases h
  | once p ih => exact HandsOn.once (ih hp)

/-- There are groups that a pattern does not keep. -/
theorem exists_keeps_eq_false (p : Pattern) : ∃ n, ∀ i ≥ n, p.keeps i = false := by
  induction p with
  | empty | char | again | anchor => exact ⟨0, fun _ _ => rfl⟩
  | seq p q ihp ihq | alt p q ihp ihq | given _ p q ihp ihq =>
    obtain ⟨n, hn⟩ := ihp
    obtain ⟨m, hm⟩ := ihq
    exact ⟨max n m, fun i hi => Bool.or_eq_false_iff.2
      ⟨hn i ((le_max_left n m).trans hi), hm i ((le_max_right n m).trans hi)⟩⟩
  | loop _ _ _ p ih | look _ _ p ih | once p ih => exact ih
  | group index p ih =>
    obtain ⟨n, hn⟩ := ih
    refine ⟨max n (index + 1), fun i hi => Bool.or_eq_false_iff.2 ⟨?_, hn i (by omega)⟩⟩
    rw [beq_eq_false_iff_ne]
    omega

/-- A match ends at or behind the place where it starts, whatever the pattern keeps and where. -/
theorem reaches_of_matchAt {p : Pattern} {c : Cursor} (h : p.matchAt c = some s) :
    c.Reaches s.cursor := by
  obtain ⟨n, hn⟩ := p.exists_keeps_eq_false
  obtain ⟨t, hadvances, hsome⟩ := run_advances (hn n le_rfl) h
  cases hsome
  exact hadvances.cursor

/-! ### What a group keeps -/

/-- Whether the pattern keeps the group `index` in a condition on what lies ahead or behind. -/
def keepsAside (index : ℕ) : Pattern → Bool
  | .look _ _ p => p.keeps index
  | .seq p q | .alt p q | .given _ p q => p.keepsAside index || q.keepsAside index
  | .loop _ _ _ p | .group _ p | .once p => p.keepsAside index
  | .empty | .char _ | .again _ _ | .anchor _ => false

/-- What was last kept of a group in `t` was kept in `s`, or else at a place between the two. -/
def KeptBetween (c d : Cursor) (before after : Option Cursor) : Prop :=
  after = before ∨ ∃ e, after = some e ∧ c.Reaches e ∧ e.Reaches d

/-- The state `t` is at a place at or behind that of `s`, and the group `i` is as it was or has been
entered and left in between. -/
structure State.KeepsBetween (i : ℕ) (s t : State) : Prop where
  cursor : s.cursor.Reaches t.cursor
  entered : KeptBetween s.cursor t.cursor (s.entered.lookup i) (t.entered.lookup i)
  left : KeptBetween s.cursor t.cursor (s.left.lookup i) (t.left.lookup i)

theorem KeptBetween.trans {c d e : Cursor} {x y z : Option Cursor} (h : KeptBetween c d x y)
    (h' : KeptBetween d e y z) (hcd : c.Reaches d) (hde : d.Reaches e) : KeptBetween c e x z := by
  rcases h' with rfl | ⟨b, rfl, hdb, hbe⟩
  · exact h.imp_right fun ⟨b, hb, hcb, hbd⟩ => ⟨b, hb, hcb, hbd.trans hde⟩
  · exact .inr ⟨b, rfl, hcd.trans hdb, hbe⟩

namespace State.KeepsBetween

theorem of_advances (h : s.Advances i t) : s.KeepsBetween i t :=
  ⟨h.cursor, .inl h.entered, .inl h.left⟩

theorem refl (s : State) : s.KeepsBetween i s := .of_advances (.refl s)

theorem trans (h : s.KeepsBetween i t) (h' : t.KeepsBetween i u) : s.KeepsBetween i u :=
  ⟨h.cursor.trans h'.cursor, h.entered.trans h'.entered h.cursor h'.cursor,
    h.left.trans h'.left h.cursor h'.cursor⟩

/-- A group is entered at the one place and left at the other. -/
theorem group {index : ℕ} (h : (s.enter index).KeepsBetween i t) :
    s.KeepsBetween i (t.leave index) := by
  obtain ⟨hcursor, hentered, hleft⟩ := h
  refine ⟨hcursor, ?_, ?_⟩
  · rcases hentered with heq | hbetween
    · rw [State.leave, heq, State.enter, List.lookup_cons]
      split
      · exact .inr ⟨s.cursor, rfl, .refl _, hcursor⟩
      · exact .inl rfl
    · exact .inr hbetween
  · rw [State.leave, List.lookup_cons]
    split
    · exact .inr ⟨t.cursor, rfl, hcursor, .refl _⟩
    · exact hleft

end State.KeepsBetween

/-- A pattern that does not keep the group leaves it alone. -/
theorem run_keepsBetween_of_keeps {p : Pattern} (hp : p.keeps i = false) :
    HandsOn (State.KeepsBetween i) p.run := by
  intro s next u h
  obtain ⟨t, hst, h⟩ := run_advances hp h
  exact ⟨t, .of_advances hst, h⟩

/-- **What a group keeps is matched on the way**: unless the group stands in a condition on what
lies ahead or behind, it is entered and left between the place of the matcher and those that it
hands on. -/
theorem run_keepsBetween {p : Pattern} (hp : p.keepsAside i = false) :
    HandsOn (State.KeepsBetween i) p.run := by
  induction p with
  | empty | char | again | anchor => exact run_keepsBetween_of_keeps rfl
  | seq p q ihp ihq =>
    obtain ⟨hp, hq⟩ := Bool.or_eq_false_iff.1 hp
    exact HandsOn.seq .trans (ihp hp) (ihq hq)
  | alt p q ihp ihq =>
    obtain ⟨hp, hq⟩ := Bool.or_eq_false_iff.1 hp
    exact HandsOn.alt (ihp hp) (ihq hq)
  | loop least most greedy p ih => exact HandsOn.loop .refl .trans least most greedy (ih hp)
  | group index p ih =>
    intro s next u h
    obtain ⟨t, hst, h⟩ := ih hp h
    exact ⟨t.leave index, hst.group, h⟩
  | given index p q ihp ihq =>
    obtain ⟨hp, hq⟩ := Bool.or_eq_false_iff.1 hp
    exact HandsOn.given index (ihp hp) (ihq hq)
  | look behind negated p =>
    -- no group of the condition is the group `i`
    exact run_keepsBetween_of_keeps (p := .look behind negated p) hp
  | once p ih => exact HandsOn.once (ih hp)

end Pattern

end OrderedGrammar
