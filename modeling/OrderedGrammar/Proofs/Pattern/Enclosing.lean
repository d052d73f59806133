import OrderedGrammar.Proofs.Pattern.Alongside
import OrderedGrammar.Proofs.Scanning

/-!
# Patterns in parentheses

A lexicon does not read the pattern of a lexer rule on its own, but in parentheses, behind optional
whitespace.  **Of a pattern that is one on its own, what is read there is just that**: whitespace,
then one group for all of the pattern, which is the group `1` and has no other of that number inside
(`exists_body_of_read_enclose`).  A text that is no pattern on its own may close the parenthesis
early and be read otherwise.

A pattern that is about nothing but itself is read in parentheses exactly if it is on its own, and
then to the same, in a group and with the numbers of its own groups one higher
(`read_enclose_of_isSelfContained`).

The proof runs the reader over both texts, in step, until the pattern ends and its parenthesis is
closed (`Reader.ends_steps`).

## Main definitions

* `Reader.staysIn` : no construct that is read is about more than the pattern.
* `Reader.Ends` : where readers that are in step come to.
* `isSelfContained` : a text that, read as a pattern, is about nothing but itself.
-/

namespace OrderedGrammar.Pattern

namespace Reader

variable {exact : Prop} {whole : Level} {n : ℕ} {r r₁ q q₁ : Reader} {s s' t : Source}

/-- Whether none of the constructs that are read one after the other looks out. -/
def staysIn : ℕ → Reader → Source → Bool
  | 0, _, _ => true
  | fuel + 1, r, s =>
    match s.rest with
    | [] => true
    | c :: _ =>
      !r.looksOut c (s.drop 1) &&
        match r.step c (s.drop 1) with
        | .ok (r', s') => staysIn fuel r' s'
        | .error _ => true

/-- Whether reading leads to no pattern: it fails, or a group is open at its end. -/
def Unfinished (x : Reading Reader) : Prop := ∀ r, x = .ok r → r.outer ≠ []

/-- Where two readers come to that are in step: the one to the end of the pattern and the other to
the parenthesis that closes it, or one of them to no pattern. -/
inductive Ends (exact : Prop) (whole : Level) : Reading Reader → Reading Reader → Prop
  | closed {r q : Reader} : Alongside exact whole r q → r.outer = [] →
      q.current.opener = .kept 1 → Ends exact whole (.ok r) (.ok (q.leave whole []))
  | unfinished {x y : Reading Reader} : Unfinished x ∨ Unfinished y →
      (exact → Unfinished x ∧ Unfinished y) → Ends exact whole x y

theorem unfinished_error {e : Fault × Option ℕ} : Unfinished (.error e) := by
  intro r hr
  cases hr

theorem unfinished_ok (h : r.outer ≠ []) : Unfinished (.ok r) := by
  intro r' hr'
  cases hr'
  exact h

theorem steps_of_nil (h : s.rest = []) : steps n r s = .ok r := by
  cases n with
  | zero => rfl
  | succ n => rw [steps, h]

/-- The parenthesis closes the innermost group. -/
theorem steps_close {parent : Level} {outer : List Level} (hs : s.rest = [')'])
    (hr : r.outer = parent :: outer) : steps (n + 1) r s = .ok (r.leave parent outer) := by
  have hstep : r.step ')' (s.drop 1) = .ok (r.leave parent outer, s.drop 1) := by
    unfold step
    dsimp only
    rw [if_neg (by simp [isBlank]), if_neg (by simp), hr]
    rfl
  have hrest : (s.drop 1).rest = [] := by rw [Source.drop, hs]; rfl
  rw [steps, hs]
  dsimp only
  rw [hstep]
  exact steps_of_nil hrest

/-- At the end of the pattern, the parenthesis closes the pattern, or a group inside of it. -/
theorem ends_of_nil (h : Alongside exact whole r q) (hs : s.Closed n s') (hrest : s.rest = [])
    (m : ℕ) : Ends exact whole (.ok r) (steps (m + 1) q s') := by
  have hrest' : s'.rest = [')'] := by rw [hs.1, hrest, List.nil_append]
  rcases (nested_cons_iff.1 h.nested).2 with ⟨houter, houter', -, -, hopener⟩ | ⟨-, -, hnested⟩
  · rw [steps_close hrest' houter']
    exact .closed h houter hopener
  · obtain ⟨hr, hq⟩ := hnested.ne_nil
    obtain ⟨parent, outer, houter⟩ := List.exists_cons_of_ne_nil h.outer_ne_nil
    rw [houter, List.tail_cons] at hq
    obtain ⟨-, -, hleave, -⟩ := exists_leave q parent outer
    have hr' : Unfinished (.ok r) := unfinished_ok hr
    have hq' : Unfinished (.ok (q.leave parent outer)) := unfinished_ok (by rwa [hleave])
    rw [steps_close hrest' houter]
    exact .unfinished (.inl hr') fun _ => ⟨hr', hq'⟩

/-- Readers that are in step come to the end of the pattern in step, and exactly so if no construct
looks out. -/
theorem ends_steps {m : ℕ} (h : Alongside exact whole r q) (hs : s.Closed n s') (hm : n < m)
    (hin : exact → staysIn n r s) : Ends exact whole (steps n r s) (steps m q s') := by
  obtain ⟨m, rfl⟩ : ∃ k, m = k + 1 := ⟨m - 1, by omega⟩
  induction n generalizing r q s s' m with
  | zero => exact ends_of_nil h hs (List.eq_nil_of_length_eq_zero (Nat.le_zero.1 hs.2)) m
  | succ n ih =>
    obtain ⟨m, rfl⟩ : ∃ k, m = k + 1 := ⟨m - 1, by omega⟩
    cases hrest : s.rest with
    | nil =>
      rw [steps_of_nil hrest]
      exact ends_of_nil h hs hrest _
    | cons c rest =>
      have hdrop : (s.drop 1).Closed n (s'.drop 1) := hs.drop (by simp [hrest])
      simp only [staysIn, hrest, Bool.and_eq_true, Bool.not_eq_true'] at hin
      rw [steps, steps, hrest, hs.cons hrest]
      dsimp only
      have hagree := agree_step h hdrop fun hexact => (hin hexact).1
      revert hin hagree
      generalize r.step c (s.drop 1) = x
      generalize q.step c (s'.drop 1) = y
      intro hin hagree
      cases hagree with
      | both h₁ ht => exact ih h₁ ht (fun hexact => (hin hexact).2) m (Nat.lt_of_succ_lt_succ hm)
      | neither hy =>
        -- the pattern alone is refused; in parentheses the text may end inside of a group
        refine .unfinished (.inl unfinished_error) fun hexact =>
          ⟨unfinished_error, fun q₂ hq₂ => ?_⟩
        obtain ⟨⟨q₁, t'⟩, hstep, hq₂⟩ := exists_of_bind hq₂
        obtain ⟨hend, houter⟩ := hy hexact q₁ t' hstep
        rw [steps_of_nil hend] at hq₂
        cases hq₂
        exact houter
      | apart hno => exact .unfinished (.inr unfinished_error) fun hexact => absurd hexact hno
      | @spent r₁ q₁ t t' hr₁ ht hq₁ ht' =>
        have hr : Unfinished (steps n r₁ t) := by
          rw [steps_of_nil ht]
          exact unfinished_ok hr₁
        have hq : Unfinished (steps (m + 1) q₁ t') := by
          rw [steps_of_nil ht']
          exact unfinished_ok hq₁
        exact .unfinished (.inl hr) fun _ => ⟨hr, hq⟩

/-- Behind the whitespace in front, the reader of an enclosed pattern is in step with the reader of
the pattern alone. -/
theorem alongside_opened (exact : Prop) (caseless : Bool) :
    ∃ whole rule, whole.sequence = [.other (Pattern.star (.char (spaceSet rule)))] ∧
      whole.alternatives = [] ∧
      Alongside exact whole (start ⟨caseless, false, false, false, false⟩)
        (opened ⟨caseless, false, false, false, false⟩) :=
  ⟨_, _, rfl, rfl, .whole .empty rfl rfl rfl, Nat.le_refl 1,
    fun _ => ⟨rfl, rfl, rfl, rfl, ⟨rfl, rfl⟩, rfl⟩⟩

theorem leave_kept {index : ℕ} {parent : Level} {outer : List Level}
    (h : q.current.opener = .kept index) :
    q.leave parent outer =
      { q with
        current :=
          parent.push [.other (.group index (Part.sequence q.current.parts))] .atom
        outer
        widths := (index, (Part.sequence q.current.parts).width q.widthOf) :: q.widths } := by
  unfold leave
  dsimp only
  rw [h]
  rfl

theorem parts_leave_kept {index : ℕ} {set : Pattern} (hopener : q.current.opener = .kept index)
    (hsequence : whole.sequence = [.other set]) (halternatives : whole.alternatives = []) :
    (q.leave whole []).current.parts =
      [.other set, .other (.group index (Part.sequence q.current.parts))] := by
  rw [leave_kept hopener, Level.parts, Level.sequence_push, hsequence, Level.push, halternatives]
  rfl

theorem Unfinished.finish_ne {x : Reading Reader} (h : Unfinished x) (p : Pattern) :
    x >>= finish ≠ .ok p := by
  intro hp
  obtain ⟨r, hr, hfinish⟩ := exists_of_bind hp
  exact h r hr (of_finish hfinish).1

/-- Without conditions on the numbers of groups, all that a pattern is refused for at its end is a
condition on what lies behind. -/
theorem isOk_finish (houter : r.outer = []) (hconditions : r.conditions = []) :
    r.finish.isOk = !r.badLookbehind.isSome := by
  rw [finish, houter, hconditions]
  cases r.badLookbehind <;> rfl

namespace Ends

variable {x y : Reading Reader} {p p' : Pattern} (h : Ends exact whole x y)

include h

/-- Where both are patterns, the readers have come to the end of the one in step. -/
theorem exists_of_finish (hx : x >>= finish = .ok p) (hy : y >>= finish = .ok p') :
    ∃ r q, Alongside exact whole r q ∧ q.current.opener = .kept 1 ∧
      p = Part.sequence r.current.parts ∧ p' = Part.sequence (q.leave whole []).current.parts := by
  cases h with
  | closed halongside _ hopener =>
    exact ⟨_, _, halongside, hopener, (of_finish hx).2, (of_finish hy).2⟩
  | unfinished hor =>
    exact (hor.elim (fun hx' => hx'.finish_ne p hx) fun hy' => hy'.finish_ne p' hy).elim

/-- One is a pattern exactly if the other is. -/
theorem isOk_finish_eq (hexact : exact) : (y >>= finish).isOk = (x >>= finish).isOk := by
  have hnone {x : Reading Reader} (hx : Unfinished x) : (x >>= finish).isOk = false := by
    cases hread : x >>= finish with
    | ok p => exact absurd hread (hx.finish_ne p)
    | error e => rfl
  cases h with
  | @closed r q halongside houter hopener =>
    obtain ⟨-, -, -, -, ⟨hconditions, hconditions'⟩, hbad⟩ := halongside.numbers hexact
    refine (isOk_finish ?_ ?_).trans (Eq.trans ?_ (isOk_finish houter hconditions).symm)
    · rw [leave_kept hopener]
    · rw [leave_kept hopener]
      exact hconditions'
    · rw [leave_kept hopener]
      exact congrArg not hbad
  | unfinished _ hboth =>
    obtain ⟨hx, hy⟩ := hboth hexact
    rw [hnone hx, hnone hy]

end Ends

/-- What is read of a text before the end of it is looked at. -/
def ofText (caseless : Bool) (text : List Char) : Reading Reader :=
  (start ⟨caseless, false, false, false, false⟩).steps text.length ⟨text, 0⟩

theorem read_eq_ok_iff {caseless : Bool} {text : List Char} {p : Pattern} :
    read caseless text = .ok p ↔ ofText caseless text >>= finish = .ok p := by
  unfold read
  dsimp only
  split
  · next h =>
    rw [ofText, h]
    exact ⟨fun h => congrArg Except.ok (Except.ok.inj h),
      fun h => congrArg Except.ok (Except.ok.inj h)⟩
  · next h =>
    rw [ofText, h]
    exact ⟨nofun, nofun⟩

theorem isOk_read (caseless : Bool) (text : List Char) :
    (read caseless text).isOk = (ofText caseless text >>= finish).isOk := by
  unfold read
  dsimp only
  split <;> next h => rw [ofText, h]; rfl

end Reader

/-- A pattern on its own does not start with a question mark. -/
theorem head?_ne_of_read {caseless : Bool} {text : List Char} (h : (read caseless text).isOk) :
    text.head? ≠ some '?' := by
  intro hhead
  obtain ⟨rest, rfl⟩ := List.head?_eq_some_iff.1 hhead
  cases h

/-- Whether what a text writes as a pattern is about nothing but the pattern itself. -/
def isSelfContained (caseless : Bool) (text : List Char) : Bool :=
  text.head? != some '?' &&
    (Reader.start ⟨caseless, false, false, false, false⟩).staysIn text.length ⟨text, 0⟩

section Enclose

variable {caseless : Bool} {pattern : String} {p : Pattern}

/-- The readers of a pattern on its own and in parentheses come to their ends in step. -/
theorem ends_enclose (exact : Prop) (hhead : pattern.toList.head? ≠ some '?')
    (hin : exact → (Reader.start ⟨caseless, false, false, false, false⟩).staysIn
      pattern.toList.length ⟨pattern.toList, 0⟩) :
    ∃ whole rule, whole.sequence = [.other (Pattern.star (.char (spaceSet rule)))] ∧
      whole.alternatives = [] ∧ Reader.Ends exact whole
        (Reader.ofText caseless pattern.toList)
        (Reader.ofText caseless (Lexicon.enclose pattern)) := by
  obtain ⟨whole, rule, hsequence, halternatives, halongside⟩ :=
    Reader.alongside_opened exact caseless
  have hclosed : Source.Closed pattern.toList.length ⟨pattern.toList, 0⟩
      ⟨pattern.toList ++ [')'], 4⟩ := ⟨rfl, Nat.le_refl _⟩
  refine ⟨whole, rule, hsequence, halternatives, ?_⟩
  unfold Reader.ofText
  rw [Reader.steps_enclose hhead]
  exact Reader.ends_steps halongside hclosed (Nat.lt_add_of_pos_right Nat.two_pos) hin

/-- **A pattern that is one on its own is read in parentheses as a group of its own**, behind
whitespace. -/
theorem exists_body_of_read_enclose (halone : (read caseless pattern.toList).isOk)
    (h : read caseless (Lexicon.enclose pattern) = .ok p) :
    ∃ rule body, body.keeps 1 = false ∧ p = enclosed rule body := by
  obtain ⟨whole, rule, hsequence, halternatives, hends⟩ :=
    ends_enclose False (head?_ne_of_read halone) False.elim
  cases hread : read caseless pattern.toList with
  | error e =>
    rw [hread] at halone
    cases halone
  | ok p₁ =>
    rw [Reader.read_eq_ok_iff] at hread h
    obtain ⟨r, q, halongside, hopener, -, rfl⟩ := hends.exists_of_finish hread h
    refine ⟨rule, Part.sequence q.current.parts, ?_, ?_⟩
    · rw [Bool.eq_false_iff]
      exact fun hkeeps => halongside.like.free <| Level.anyHas_of_parts (isInherited_keeps 1) <|
        (Part.has_sequence (isInherited_keeps 1)).1 hkeeps
    · rw [Reader.parts_leave_kept hopener hsequence halternatives]
      rfl

/-- **A pattern that is about nothing but itself is read in parentheses exactly if it is read on its
own**, and then to the same pattern behind whitespace, the numbers of its groups one higher. -/
theorem read_enclose_of_isSelfContained (h : isSelfContained caseless pattern.toList) :
    (∃ p rule, read caseless pattern.toList = .ok p ∧
      read caseless (Lexicon.enclose pattern) = .ok (enclosed rule p.shift)) ∨
    (∃ e, read caseless pattern.toList = .error e) ∧
      ∃ e, read caseless (Lexicon.enclose pattern) = .error e := by
  obtain ⟨hhead, hin⟩ := Bool.and_eq_true_iff.1 h
  obtain ⟨whole, rule, hsequence, halternatives, hends⟩ :=
    ends_enclose True (by simpa using hhead) fun _ => hin
  have hsame := hends.isOk_finish_eq trivial
  rw [← Reader.isOk_read, ← Reader.isOk_read] at hsame
  cases halone : read caseless pattern.toList with
  | ok p =>
    cases hread : read caseless (Lexicon.enclose pattern) with
    | ok p' =>
      rw [Reader.read_eq_ok_iff] at halone hread
      obtain ⟨r, q, halongside, hopener, rfl, rfl⟩ := hends.exists_of_finish halone hread
      refine .inl ⟨_, rule, rfl, ?_⟩
      rw [Reader.parts_leave_kept hopener hsequence halternatives, ← Part.sequence_shift,
        ← (halongside.like.shifts trivial).parts_eq]
      rfl
    | error e' =>
      rw [halone, hread] at hsame
      cases hsame
  | error e =>
    cases hread : read caseless (Lexicon.enclose pattern) with
    | ok p' =>
      rw [halone, hread] at hsame
      cases hsame
    | error e' => exact .inr ⟨⟨e, rfl⟩, e', rfl⟩

end Enclose

end OrderedGrammar.Pattern
