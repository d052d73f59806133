import OrderedGrammar.Proofs.Pattern.Closing
import OrderedGrammar.Proofs.Pattern.Shift

/-!
# Two readers in step

A lexicon does not read the pattern of a lexer rule on its own, but in parentheses.  The reader of
the pattern in parentheses does the same as the reader of the pattern alone, one group further in
(`Reader.Alongside`), construct by construct (`Reader.agree_step`): where both succeed, they stay in
step, without a group `1` inside the parentheses.

Some constructs are about more than the pattern: the number of a group counts the parentheses as
well, a parenthesis too many closes them, and flags for the whole of a text have to come first
(`Reader.looksOut`).  Up to the first of these the readers are in step exactly: one fails where the
other does, or else has taken the closing parenthesis for something else and comes to the end of the
text with a group open; and what they have read is the same but for the numbers of groups, which are
one higher in parentheses.  All of the relations below have a parameter `exact` for that.

## Main definitions

* `Reader.looksOut` : a construct is about more than the pattern that it stands in.
* `Level.Like`, `Nested` : the groups that are open in both.
* `Reader.Numbers` : what readers know of groups, with higher numbers in the one.
* `Reader.Alongside` : the two readers, in step.
* `Reader.Agree` : what two readings lead to.
-/

namespace OrderedGrammar.Pattern

/-! ### Constructs that look out -/

namespace Reader

/-- Whether a backslash and the digit `c`, `s` being what follows, are the number of a group. -/
def isGroupNumber (c : Char) (s : Source) : Bool :=
  let (second, s₁) := s.takeUpTo 1 Char.isDigit
  let (third, _) := s₁.takeUpTo 1 isOctal
  let octal := c :: second ++ third
  c.isDigit && c != '0' && !(octal.length == 3 && octal.all isOctal)

/-- Whether a condition, `s` being what follows its second parenthesis, is on the number of a
group. -/
def isConditionNumber (s : Source) : Bool :=
  match s.readName ')' "group name" with
  | .ok (name, _) => !Text.isIdentifier name
  | .error _ => false

/-- Whether the flags that `s` starts with are for the whole pattern, which nothing has been read
of. -/
def setsFlags (r : Reader) (s : Source) : Bool :=
  match FlagChange.read s with
  | .ok (_, grouped, _) =>
    !grouped && r.outer.isEmpty && r.current.alternatives.isEmpty && r.current.items.isEmpty
  | .error _ => false

/-- Whether the construct that starts with `c`, `s` being what follows it, is about more than the
pattern that is being read: the number of a group, flags for all that is read, or the end of a group
that was opened before the pattern. -/
def looksOut (r : Reader) (c : Char) (s : Source) : Bool :=
  match c with
  | ')' => r.outer.isEmpty
  | '\\' =>
    match s.rest with
    | [] => false
    | d :: _ => isGroupNumber d (s.drop 1)
  | '(' =>
    match s.rest with
    | '?' :: _ =>
      match (s.drop 1).unit? with
      | some (['('], s₁) => isConditionNumber s₁
      | some ([d], _) => (d == '-' || (Flag.ofLetter? d).isSome) && r.setsFlags (s.drop 1)
      | _ => false
    | _ => false
  | _ => false

end Reader

/-! ### Groups in step -/

variable {exact : Prop}

namespace Level

variable {l l' : Level}

/-- A group that is being read in a pattern alone, and the same in the pattern in parentheses,
where it has no group `1` inside. -/
structure Like (exact : Prop) (l l' : Level) : Prop where
  flags_eq : l'.flags = l.flags
  free : ¬l'.Keeps 1
  shifts : exact → l.Shifts l'

namespace Like

variable (h : l.Like exact l')

theorem empty {opener opener' : Opener} {position position' : ℕ} {flags : Flags} :
    (Level.empty opener position flags).Like exact (Level.empty opener' position' flags) :=
  ⟨rfl, not_anyHas_empty, fun _ => .empty⟩

include h

theorem push {parts parts' : List Part} {role : Role} (hfree : ¬Part.Keep 1 parts')
    (hparts : exact → parts' = parts.map Part.shift) :
    (l.push parts role).Like exact (l'.push parts' role) := by
  refine ⟨h.flags_eq, fun hkeeps => (anyHas_push.1 hkeeps).elim h.free hfree, fun hexact => ?_⟩
  rw [hparts hexact]
  exact (h.shifts hexact).push parts role

theorem nextAlternative : l.nextAlternative.Like exact l'.nextAlternative :=
  ⟨h.flags_eq, fun hkeeps => h.free (anyHas_nextAlternative.1 hkeeps),
    fun hexact => (h.shifts hexact).nextAlternative⟩

/-- A loop around the last item. -/
theorem loop {item item' : Item} {items items' : List Item} {pattern pattern' : Pattern}
    (hitems : l.items = item :: items) (hitems' : l'.items = item' :: items')
    (hfree : pattern'.keeps 1 = (Part.sequence item'.parts).keeps 1)
    (hpattern : item' = item.shift → pattern' = pattern.shift) :
    ({ l with items := ⟨[.other pattern], .loop⟩ :: items } : Level).Like exact
      { l' with items := ⟨[.other pattern'], .loop⟩ :: items' } := by
  refine ⟨h.flags_eq,
    fun hkeeps => h.free ((anyHas_loop (isInherited_keeps 1) hitems' hfree).1 hkeeps),
    fun hexact => ⟨h.flags_eq, (h.shifts hexact).alternatives_eq, ?_⟩⟩
  have heq := (h.shifts hexact).items_eq
  rw [hitems, hitems', List.map_cons] at heq
  obtain ⟨hitem, hrest⟩ := List.cons.inj heq
  rw [hrest, hpattern hitem]
  rfl

end Like

end Level

/-- The groups that are open, the innermost first, in a pattern alone and in the same pattern in
parentheses: there the pattern itself is the group `1`, inside of `whole`. -/
inductive Nested (exact : Prop) (whole : Level) : List Level → List Level → Prop
  | whole {l l' : Level} : l.Like exact l' → l.opener = .whole → l.flags.verbose = false →
      l'.opener = .kept 1 → Nested exact whole [l] [l', whole]
  | inner {l l' : Level} {ls ls' : List Level} : l.Like exact l' → l'.opener ≠ .kept 1 →
      (exact → l'.opener = l.opener.shift) → Nested exact whole ls ls' →
      Nested exact whole (l :: ls) (l' :: ls')

theorem nested_cons_iff {whole l l' : Level} {ls ls' : List Level} :
    Nested exact whole (l :: ls) (l' :: ls') ↔ l.Like exact l' ∧
      (ls = [] ∧ ls' = [whole] ∧ l.opener = .whole ∧ l.flags.verbose = false ∧
          l'.opener = .kept 1 ∨
        l'.opener ≠ .kept 1 ∧ (exact → l'.opener = l.opener.shift) ∧
          Nested exact whole ls ls') := by
  constructor
  · intro h
    cases h with
    | whole hlike hwhole hverbose hkept =>
      exact ⟨hlike, .inl ⟨rfl, rfl, hwhole, hverbose, hkept⟩⟩
    | inner hlike hkept hshift hnested => exact ⟨hlike, .inr ⟨hkept, hshift, hnested⟩⟩
  · rintro ⟨hlike, ⟨rfl, rfl, hwhole, hverbose, hkept⟩ | ⟨hkept, hshift, hnested⟩⟩
    · exact .whole hlike hwhole hverbose hkept
    · exact .inner hlike hkept hshift hnested

theorem Nested.ne_nil {whole : Level} {ls ls' : List Level} (h : Nested exact whole ls ls') :
    ls ≠ [] ∧ ls'.tail ≠ [] := by
  induction h with
  | whole => exact ⟨List.cons_ne_nil _ _, List.cons_ne_nil _ _⟩
  | @inner l l' ls ls' _ _ _ _ ih =>
    refine ⟨List.cons_ne_nil _ _, fun hnil => ih.2 ?_⟩
    rw [List.tail_cons] at hnil
    rw [hnil]
    rfl

/-! ### What is known of groups -/

theorem lookup_map_succ {α : Type} (groups : List (ℕ × α)) (i : ℕ) :
    (groups.map fun g => (g.1 + 1, g.2)).lookup (i + 1) = groups.lookup i := by
  induction groups with
  | nil => rfl
  | cons g groups ih =>
    have hsame : (i + 1 == g.1 + 1) = (i == g.1) := by simp
    rw [List.map_cons, List.lookup_cons, List.lookup_cons, hsame, ih]

theorem lookup_map_snd {α : Type} (names : List (String × α)) (φ : α → α) (name : String) :
    (names.map fun n => (n.1, φ n.2)).lookup name = (names.lookup name).map φ := by
  induction names with
  | nil => rfl
  | cons n names ih =>
    rw [List.map_cons, List.lookup_cons, List.lookup_cons, ih]
    split <;> rfl

namespace Reader

variable {whole : Level} {n : ℕ} {r r₁ q q₁ : Reader} {s s' t t' : Source}
  {position position' : ℕ}

/-- What the one reader knows of groups the other knows as well, with numbers that are one higher.
No condition is on the number of a group. -/
structure Numbers (r q : Reader) : Prop where
  groups_eq : q.groups = r.groups + 1
  widths_eq : q.widths = r.widths.map fun w => (w.1 + 1, w.2)
  names_eq : q.names = r.names.map fun name => (name.1, name.2 + 1)
  mark_eq : q.mark = r.mark.map (· + 1)
  conditions_eq : r.conditions = [] ∧ q.conditions = []
  badLookbehind_isSome : q.badLookbehind.isSome = r.badLookbehind.isSome

namespace Numbers

variable (h : r.Numbers q)

include h

theorem isClosed_eq (i : ℕ) : q.isClosed (i + 1) = r.isClosed i := by
  rw [isClosed, isClosed, h.widths_eq, lookup_map_succ]

theorem widthOf_eq (i : ℕ) : q.widthOf (i + 1) = r.widthOf i := by
  rw [widthOf, widthOf, h.widths_eq, lookup_map_succ]

theorem lookup_eq (name : String) : q.names.lookup name = (r.names.lookup name).map (· + 1) := by
  rw [h.names_eq]
  exact lookup_map_snd r.names (· + 1) name

/-- A condition on what lies behind refers to the same groups. -/
theorem checkMark_isOk (index stop stop' : ℕ) :
    (q.checkMark (index + 1) stop').isOk = (r.checkMark index stop).isOk := by
  unfold checkMark
  rw [h.mark_eq]
  cases r.mark with
  | none => rfl
  | some mark =>
    rw [Option.map_some]
    dsimp only
    rw [h.isClosed_eq]
    split
    · rfl
    · simp only [Nat.add_le_add_iff_right]
      split <;> rfl

theorem checkMark_cases (index stop stop' : ℕ) :
    (r.checkMark index stop = .ok () ∧ q.checkMark (index + 1) stop' = .ok ()) ∨
      ∃ e e', r.checkMark index stop = .error e ∧ q.checkMark (index + 1) stop' = .error e' := by
  have hisOk := h.checkMark_isOk index stop stop'
  cases hr : r.checkMark index stop with
  | ok _ =>
    cases hq : q.checkMark (index + 1) stop' with
    | ok _ => exact .inl ⟨rfl, rfl⟩
    | error e' => rw [hr, hq] at hisOk; cases hisOk
  | error e =>
    cases hq : q.checkMark (index + 1) stop' with
    | ok _ => rw [hr, hq] at hisOk; cases hisOk
    | error e' => exact .inr ⟨e, e', rfl, rfl⟩

end Numbers

theorem isSome_firstFault (a b : Option (ℕ × Fault)) :
    (firstFault a b).isSome = (a.isSome || b.isSome) := by
  cases a <;> cases b <;> rfl

/-- A group is closed with the same parts but for the numbers, and as much is known of it. -/
theorem leave_shifts (hlike : r.current.Shifts q.current)
    (hopener : q.current.opener = r.current.opener.shift) (hnumbers : r.Numbers q)
    {parent parent' : Level} (hparent : parent.Shifts parent') (outer outer' : List Level) :
    (r.leave parent outer).current.Shifts (q.leave parent' outer').current ∧
      (r.leave parent outer).Numbers (q.leave parent' outer') := by
  have hbody : Part.sequence q.current.parts = (Part.sequence r.current.parts).shift := by
    rw [hlike.parts_eq, Part.sequence_shift]
  have hwidth : (Part.sequence q.current.parts).width q.widthOf =
      (Part.sequence r.current.parts).width r.widthOf := by
    rw [hbody, width_shift hnumbers.widthOf_eq]
  have hone {p p' : Pattern} (h : p' = p.shift) :
      (parent.push [.other p] .atom).Shifts (parent'.push [.other p'] .atom) := by
    rw [h]
    exact hparent.push [.other p] .atom
  obtain ⟨hgroups, hwidths, hnames, hmark, hconditions, hbad⟩ := hnumbers
  unfold leave
  dsimp only
  rw [hopener]
  cases hcase : r.current.opener with
  | whole =>
    dsimp only [Opener.shift]
    rw [hlike.parts_eq]
    exact ⟨hparent.push _ _, hgroups, hwidths, hnames, hmark, hconditions, hbad⟩
  | plain =>
    dsimp only [Opener.shift]
    rw [hlike.parts_eq]
    exact ⟨hparent.push _ _, hgroups, hwidths, hnames, hmark, hconditions, hbad⟩
  | flagged => exact ⟨hone hbody, hgroups, hwidths, hnames, hmark, hconditions, hbad⟩
  | once =>
    exact ⟨hone (congrArg Pattern.once hbody), hgroups, hwidths, hnames, hmark, hconditions, hbad⟩
  | given index =>
    exact ⟨hone (hlike.choice_eq index), hgroups, hwidths, hnames, hmark, hconditions, hbad⟩
  | kept index =>
    refine ⟨hone (congrArg (Pattern.group (index + 1)) hbody), hgroups, ?_, hnames, hmark,
      hconditions, hbad⟩
    exact congrArg₂ List.cons (congrArg (Prod.mk (index + 1)) hwidth) hwidths
  | look behind negated mark =>
    cases behind with
    | false =>
      exact ⟨hone (congrArg (Pattern.look none negated) hbody), hgroups, hwidths, hnames, hmark,
        hconditions, hbad⟩
    | true =>
      -- whether the body has a fixed width does not depend on the numbers of its groups
      have hleast := congrArg Width.least hwidth
      refine ⟨hone ?_, hgroups, hwidths, hnames, rfl, hconditions, ?_⟩
      · rw [hleast, hbody]
        rfl
      · change (firstFault q.badLookbehind _).isSome = (firstFault r.badLookbehind _).isSome
        rw [isSome_firstFault, isSome_firstFault, hbad, hwidth, Option.isSome_map,
          Option.isSome_map]

/-! ### Readers in step -/

/-- The reader `q` of the pattern in parentheses is in step with the reader `r` of the pattern
alone. -/
structure Alongside (exact : Prop) (whole : Level) (r q : Reader) : Prop where
  nested : Nested exact whole (r.current :: r.outer) (q.current :: q.outer)
  groups_pos : 1 ≤ q.groups
  numbers : exact → r.Numbers q

namespace Alongside

variable (h : Alongside exact whole r q)

include h

theorem like : r.current.Like exact q.current := (nested_cons_iff.1 h.nested).1

theorem flags_eq : q.flags = r.flags := h.like.flags_eq

theorem outer_ne_nil : q.outer ≠ [] := h.nested.ne_nil.2

/-- Blanks and comments are left out inside of groups only. -/
theorem outer_ne_nil_of_verbose (hverbose : r.flags.verbose) : r.outer ≠ [] := by
  rcases (nested_cons_iff.1 h.nested).2 with ⟨-, -, -, hnot, -⟩ | ⟨-, -, hnested⟩
  · cases hnot.symm.trans hverbose
  · exact hnested.ne_nil.1

/-- The group that is open is opened in the same way, or is the pattern itself. -/
theorem opener_cases (hexact : exact) : q.current.opener = r.current.opener.shift ∨
    r.current.opener = .whole ∧ q.current.opener = .kept 1 := by
  rcases (nested_cons_iff.1 h.nested).2 with ⟨-, -, hwhole, -, hkept⟩ | ⟨-, hshift, -⟩
  · exact .inr ⟨hwhole, hkept⟩
  · exact .inl (hshift hexact)

/-- Going on in the group that is open. -/
theorem of_current {current current' : Level} (hlike : current.Like exact current')
    (hopener : current.opener = r.current.opener) (hflags : current.flags = r.current.flags)
    (hopener' : current'.opener = q.current.opener) :
    Alongside exact whole { r with current } { q with current := current' } := by
  refine ⟨nested_cons_iff.2 ⟨hlike, ?_⟩, h.groups_pos, fun hexact => ?_⟩
  · rw [hopener, hflags, hopener']
    exact (nested_cons_iff.1 h.nested).2
  · obtain ⟨hgroups, hwidths, hnames, hmark, hconditions, hbad⟩ := h.numbers hexact
    exact ⟨hgroups, hwidths, hnames, hmark, hconditions, hbad⟩

theorem push {part part' : Part} {role : Role} (hfree : part'.pattern.keeps 1 = false)
    (hpart : exact → part' = part.shift) :
    Alongside exact whole (r.push part role) (q.push part' role) := by
  refine h.of_current (h.like.push (fun hkeep => ?_) fun hexact => ?_) rfl rfl rfl
  · cases hfree.symm.trans (Part.anyHas_singleton.1 hkeep)
  · rw [hpart hexact, List.map_singleton]

theorem pushChar (k : ℕ) : Alongside exact whole (r.pushChar k) (q.pushChar k) := by
  refine h.push rfl fun _ => ?_
  rw [h.flags_eq]
  rfl

theorem enter (opener opener' : Opener) (hopener : opener' ≠ .kept 1)
    (hshift : exact → opener' = opener.shift) (flags : Flags) :
    Alongside exact whole (r.enter opener position flags) (q.enter opener' position' flags) := by
  refine ⟨.inner .empty hopener hshift h.nested, h.groups_pos, fun hexact => ?_⟩
  obtain ⟨hgroups, hwidths, hnames, hmark, hconditions, hbad⟩ := h.numbers hexact
  exact ⟨hgroups, hwidths, hnames, hmark, hconditions, hbad⟩

theorem enterKept : Alongside exact whole (r.enterKept position) (q.enterKept position') := by
  refine ⟨.inner ?_ ?_ (fun hexact => ?_) h.nested, Nat.le_succ_of_le h.groups_pos,
    fun hexact => ?_⟩
  · rw [Reader.enterKept, Reader.enterKept, h.flags_eq]
    exact .empty
  · -- the next number comes after that of the pattern itself
    intro hkept
    have hnumber : q.groups + 1 = 1 := Opener.kept.inj hkept
    exact absurd h.groups_pos (by omega)
  · exact congrArg (fun k => Opener.kept (k + 1)) (h.numbers hexact).groups_eq
  · obtain ⟨hgroups, hwidths, hnames, hmark, hconditions, hbad⟩ := h.numbers hexact
    exact ⟨congrArg (· + 1) hgroups, hwidths, hnames, hmark, hconditions, hbad⟩

theorem enterLook (behind negated : Bool) :
    Alongside exact whole (r.enterLook behind negated position)
      (q.enterLook behind negated position') := by
  refine ⟨.inner ?_ (by simp [Reader.enterLook, Reader.enter, Level.empty]) (fun hexact => ?_)
    h.nested, h.groups_pos, fun hexact => ?_⟩
  · rw [Reader.enterLook, Reader.enterLook, h.flags_eq]
    exact .empty
  · exact congrArg (Opener.look behind negated) (h.numbers hexact).mark_eq
  · obtain ⟨hgroups, hwidths, hnames, hmark, hconditions, hbad⟩ := h.numbers hexact
    refine ⟨hgroups, hwidths, hnames, ?_, hconditions, hbad⟩
    dsimp only [Reader.enterLook]
    rw [hmark, hgroups]
    cases behind with
    | false => rfl
    | true => cases r.mark <;> rfl

/-- A group is closed in both, unless it is the pattern itself. -/
theorem leave {parent parent' : Level} {outer outer' : List Level} (hr : r.outer = parent :: outer)
    (hq : q.outer = parent' :: outer') :
    Alongside exact whole (r.leave parent outer) (q.leave parent' outer') := by
  obtain ⟨-, ⟨hnil, -⟩ | ⟨hopener, hshift, hnested⟩⟩ := nested_cons_iff.1 h.nested
  · rw [hr] at hnil
    cases hnil
  rw [hr, hq] at hnested
  obtain ⟨hparent, hnested⟩ := nested_cons_iff.1 hnested
  obtain ⟨parts, hcurrent, houter, -⟩ := exists_leave r parent outer
  obtain ⟨parts', hcurrent', houter', hgroups', -, hparts', -⟩ := exists_leave q parent' outer'
  have hfree : ¬Part.Keep 1 parts' := fun hkeep => (hparts' 1 hkeep).elim hopener h.like.free
  have hshifts (hexact : exact) := leave_shifts (h.like.shifts hexact) (hshift hexact)
    (h.numbers hexact) (hparent.shifts hexact) outer outer'
  refine ⟨?_, hgroups' ▸ h.groups_pos, fun hexact => (hshifts hexact).2⟩
  rw [houter, houter']
  refine nested_cons_iff.2 ⟨⟨?_, ?_, fun hexact => (hshifts hexact).1⟩, ?_⟩
  · rw [hcurrent, hcurrent']
    exact hparent.flags_eq
  · rw [hcurrent']
    exact fun hkeeps => (Level.anyHas_push.1 hkeeps).elim hparent.free hfree
  · rw [hcurrent, hcurrent']
    exact hnested

end Alongside

/-! ### Readings in step -/

/-- What two readings lead to, which started in step: to readers in step, or to no pattern. -/
inductive Agree (exact : Prop) (whole : Level) (n : ℕ) :
    Reading (Reader × Source) → Reading (Reader × Source) → Prop
  | both {r q : Reader} {s s' : Source} : Alongside exact whole r q → s.Closed n s' →
      Agree exact whole n (.ok (r, s)) (.ok (q, s'))
  /-- The pattern alone is refused; in parentheses it comes to the end of the text at most. -/
  | neither {e : Fault × Option ℕ} {y : Reading (Reader × Source)} :
      (exact → ∀ q s', y = .ok (q, s') → s'.rest = [] ∧ q.outer ≠ []) →
      Agree exact whole n (.error e) y
  /-- The pattern is refused in parentheses only. -/
  | apart {x : Reading (Reader × Source)} {e : Fault × Option ℕ} : ¬exact →
      Agree exact whole n x (.error e)
  /-- Both come to the end of the text inside of a group. -/
  | spent {r q : Reader} {s s' : Source} : r.outer ≠ [] → s.rest = [] → q.outer ≠ [] →
      s'.rest = [] → Agree exact whole n (.ok (r, s)) (.ok (q, s'))

namespace Agree

variable {α β : Type} {R : α → β → Prop} {lost : β → Prop}

theorem errors {e e' : Fault × Option ℕ} : Agree exact whole n (.error e) (.error e') := by
  refine .neither fun _ q s' h => ?_
  cases h

/-- Two readings are in step if they lead to readers in step, and fail at the same time. -/
theorem of_isOk {x y : Reading (Reader × Source)}
    (hboth : ∀ {r s q s'}, x = .ok (r, s) → y = .ok (q, s') →
      Alongside exact whole r q ∧ s.Closed n s')
    (hsame : exact → y.isOk = x.isOk) : Agree exact whole n x y := by
  cases x with
  | error e =>
    refine .neither fun hexact q s' hy => ?_
    rw [hy] at hsame
    cases hsame hexact
  | ok a =>
    cases y with
    | error e => exact .apart fun hexact => Bool.false_ne_true (hsame hexact)
    | ok b =>
      obtain ⟨halongside, hclosed⟩ := hboth rfl rfl
      exact .both halongside hclosed

theorem bind {x : Reading α} {y : Reading β} (h : Follows R lost x y)
    {f : α → Reading (Reader × Source)} {g : β → Reading (Reader × Source)}
    (hfg : ∀ a b, x = .ok a → R a b → Agree exact whole n (f a) (g b))
    (hlost : ∀ b, lost b → ∀ q s', g b = .ok (q, s') → s'.rest = [] ∧ q.outer ≠ []) :
    Agree exact whole n (x >>= f) (y >>= g) := by
  cases h with
  | ok hab => exact hfg _ _ rfl hab
  | error hy =>
    refine .neither fun _ q s' h => ?_
    obtain ⟨b, hb, hg⟩ := exists_of_bind h
    exact hlost b (hy b hb) q s' hg

end Agree

theorem Goes.outer_ne_nil (h : r.Goes r₁) (hr : r.outer ≠ []) : r₁.outer ≠ [] := by
  cases h with
  | «continue» houter => rwa [houter]
  | enter houter =>
    rw [houter]
    exact List.cons_ne_nil _ _

/-- A group can be referred to once it is closed, if a condition on what lies behind allows. -/
theorem refer_cases (r : Reader) (index start stop : ℕ) :
    (r.isClosed index && (r.checkMark index stop).isOk) = true ∧
        r.refer index start stop = .ok (r.push (.again index r.flags.caseRule) .atom) ∨
      (r.isClosed index && (r.checkMark index stop).isOk) = false ∧
        ∃ e, r.refer index start stop = .error e := by
  unfold refer
  cases r.isClosed index with
  | false => exact .inr ⟨rfl, _, rfl⟩
  | true =>
    cases r.checkMark index stop with
    | error e => exact .inr ⟨rfl, _, rfl⟩
    | ok _ => exact .inl ⟨rfl, rfl⟩

/-- A letter of a flag, or the hyphen, starts flags. -/
theorem readGroup_eq_readFlags {c : Char} {rest : List Char} {opening : ℕ}
    (hrest : s.rest = '?' :: rest) (hunit : (s.drop 1).unit? = some ([c], t))
    (hc : c == '-' || (Flag.ofLetter? c).isSome) :
    r.readGroup s opening = r.readFlags (s.drop 1) opening := by
  have hletter : c ∈ ['-', 'i', 'm', 's', 'x', 'a', 'u', 'L', 't'] := by
    rcases Bool.or_eq_true_iff.1 hc with hc | hc
    · rw [beq_iff_eq.1 hc]
      exact List.mem_cons_self
    · unfold Flag.ofLetter? at hc
      split at hc
      all_goals first | decide | cases hc
  rw [readGroup, hrest]
  dsimp only
  rw [hunit]
  simp only [List.mem_cons, List.not_mem_nil, or_false] at hletter
  rcases hletter with rfl | rfl | rfl | rfl | rfl | rfl | rfl | rfl | rfl <;> rfl

/-- What comes behind a question mark to open a group, flags apart. -/
def marks : List (List Char) := [['P'], [':'], ['#'], ['='], ['!'], ['<'], ['('], ['>']]

/-- Nothing else opens a group behind a question mark. -/
theorem exists_of_readGroup {unit rest : List Char} (opening : ℕ) (hrest : s.rest = '?' :: rest)
    (hunit : (s.drop 1).unit? = some (unit, t)) (hmark : unit ∉ marks)
    (hflags : ¬∃ c, unit = [c] ∧ (c == '-' || (Flag.ofLetter? c).isSome)) :
    ∃ e, r.readGroup s opening = .error e := by
  unfold readGroup
  simp only [hrest, hunit]
  split
  case h_1 heq => cases heq
  case h_10 c _ _ _ _ _ _ _ _ _ heq =>
    cases heq
    rw [if_neg fun hletter => hflags ⟨c, rfl, hletter⟩]
    exact ⟨_, rfl⟩
  case h_11 => exact ⟨_, rfl⟩
  all_goals
    rename_i heq
    cases heq
    exact absurd (by decide) hmark

section Constructs

variable (h : Alongside exact whole r q) (hs : s.Closed n s')

include h

/-- Adding a part for what both have read. -/
theorem agree_push {α : Type} {x y : Reading (α × Source)} (hcarries : Carries n x y)
    (part part' : α → Part) {role : Role} (hfree : ∀ a, (part' a).pattern.keeps 1 = false)
    (hpart : ∀ a, part' a = (part a).shift) :
    Agree exact whole n (x >>= fun a => pure (r.push (part a.1) role, a.2))
      (y >>= fun a => pure (q.push (part' a.1) role, a.2)) := by
  refine .bind hcarries ?_ ?_
  · rintro ⟨_, t⟩ ⟨a, t'⟩ - ⟨rfl, ht⟩
    exact .both (h.push (hfree a) fun _ => hpart a) ht
  · rintro ⟨a, t'⟩ ht' q₁ u hq
    cases hq
    exact ⟨ht', h.outer_ne_nil⟩

theorem agree_pushChar {x y : Reading (ℕ × Source)} (hcarries : Carries n x y) :
    Agree exact whole n (x >>= fun k => pure (r.pushChar k.1, k.2))
      (y >>= fun k => pure (q.pushChar k.1, k.2)) :=
  agree_push h hcarries (fun k => .char (.single k false r.flags.caseRule))
    (fun k => .char (.single k false q.flags.caseRule)) (fun _ => rfl) fun k =>
      congrArg (fun flags : Flags => Part.char (.single k false flags.caseRule)) h.flags_eq

include hs

/-- The same group has a number that is one higher in parentheses. -/
theorem agree_refer {index index' start start' stop stop' : ℕ}
    (hindex : exact → index' = index + 1) :
    Agree exact whole n (r.refer index start stop >>= fun r₁ => pure (r₁, s))
      (q.refer index' start' stop' >>= fun q₁ => pure (q₁, s')) := by
  refine .of_isOk (fun hr hq => ?_) fun hexact => ?_
  · obtain ⟨r₁, hr₁, hr⟩ := exists_of_bind hr
    obtain ⟨q₁, hq₁, hq⟩ := exists_of_bind hq
    cases hr
    cases hq
    rcases r.refer_cases index start stop with ⟨-, heq⟩ | ⟨-, e, heq⟩
    · rcases q.refer_cases index' start' stop' with ⟨-, heq'⟩ | ⟨-, e, heq'⟩
      · cases heq.symm.trans hr₁
        cases heq'.symm.trans hq₁
        refine ⟨h.push rfl fun hexact => ?_, hs⟩
        rw [hindex hexact, h.flags_eq]
        rfl
      · cases heq'.symm.trans hq₁
    · cases heq.symm.trans hr₁
  · have hnumbers := h.numbers hexact
    have hallowed : (q.isClosed index' && (q.checkMark index' stop').isOk) =
        (r.isClosed index && (r.checkMark index stop).isOk) := by
      rw [hindex hexact, hnumbers.isClosed_eq, hnumbers.checkMark_isOk index stop stop']
    rcases r.refer_cases index start stop with ⟨hr, heq⟩ | ⟨hr, e, heq⟩
    · rcases q.refer_cases index' start' stop' with ⟨-, heq'⟩ | ⟨hq, -⟩
      · rw [heq, heq']
        rfl
      · cases hq.symm.trans (hallowed.trans hr)
    · rcases q.refer_cases index' start' stop' with ⟨hq, -⟩ | ⟨-, e', heq'⟩
      · cases hr.symm.trans (hallowed.symm.trans hq)
      · rw [heq, heq']
        rfl

/-- A number is that of a character in both, or that of a group, which differs. -/
theorem agree_readNumberEscape {c : Char} {start start' : ℕ}
    (hnumber : exact → isGroupNumber c s = false) (hc : c.isDigit) :
    Agree exact whole n (r.readNumberEscape c s start) (q.readNumberEscape c s' start') := by
  have hdigit : Char.isDigit ')' = false := by decide
  have hoctal : isOctal ')' = false := by decide
  obtain ⟨hsecond, h₁⟩ := hs.takeUpTo 1 hdigit
  obtain ⟨hthird, h₂⟩ := h₁.takeUpTo 1 hoctal
  obtain ⟨hdigits, h₃⟩ := hs.takeUpTo 2 hoctal
  unfold readNumberEscape
  dsimp only
  rw [hsecond, hthird, hdigits]
  by_cases hzero : c == '0'
  · rw [if_pos hzero, if_pos hzero]
    exact agree_pushChar h (Carries.readOctal h₃)
  · rw [if_neg hzero, if_neg hzero]
    split
    · exact agree_pushChar h (Carries.readOctal h₂)
    · next hthree =>
      have hno : ¬exact := fun hexact => by
        have hnot := hnumber hexact
        simp only [isGroupNumber, hc, Bool.true_and, Bool.and_eq_false_iff] at hnot
        rcases hnot with hnot | hnot
        · exact hzero (by simpa using hnot)
        · exact hthree (by simpa using hnot)
      split
      · split
        · exact agree_refer h h₁ fun hexact => absurd hexact hno
        · exact .apart hno
      · exact .neither fun hexact => absurd hexact hno

theorem agree_readEscape {c : Char} {start start' : ℕ}
    (hnumber : exact → isGroupNumber c s = false) :
    Agree exact whole n (r.readEscape c s start) (q.readEscape c s' start') := by
  unfold readEscape
  rw [h.flags_eq]
  cases hanchor : anchorEscape? r.flags.ascii c with
  | some a => exact .both (h.push rfl fun _ => rfl) hs
  | none =>
    cases hclass : classEscape? r.flags.ascii c with
    | some item => exact .both (h.push rfl fun _ => rfl) hs
    | none =>
      dsimp only
      split
      · next hdigit => exact agree_readNumberEscape h hs hnumber hdigit
      · exact agree_pushChar h (Carries.readCharEscape hs)

omit h in
/-- What comes behind the bounds decides how a loop is made, and not what is inside of it. -/
theorem closed_loop {least : ℕ} {most : Option ℕ} {body body' : Pattern} {x x' : Pattern × Source}
    (hx : (match s.rest with
      | '?' :: _ => (.loop least most false body, s.drop 1)
      | '+' :: _ => (.once (.loop least most true body), s.drop 1)
      | _ => (.loop least most true body, s)) = x)
    (hx' : (match s'.rest with
      | '?' :: _ => (.loop least most false body', s'.drop 1)
      | '+' :: _ => (.once (.loop least most true body'), s'.drop 1)
      | _ => (.loop least most true body', s')) = x') :
    (body' = body.shift → x'.1 = x.1.shift) ∧ x.2.Closed n x'.2 := by
  split at hx
  · next rest hrest =>
    rw [hs.cons hrest] at hx'
    subst hx hx'
    exact ⟨congrArg (Pattern.loop least most false), hs.drop_one hrest⟩
  · next rest hrest =>
    rw [hs.cons hrest] at hx'
    subst hx hx'
    exact ⟨congrArg fun p => once (.loop least most true p), hs.drop_one hrest⟩
  · next hlazy hfirm =>
    split at hx'
    · next hrest => exact (hs.not_cons (by decide) hlazy hrest).elim
    · next hrest => exact (hs.not_cons (by decide) hfirm hrest).elim
    · subst hx hx'
      exact ⟨congrArg (Pattern.loop least most true), hs⟩

theorem agree_readLoop {c : Char} :
    Agree exact whole n (r.readLoop c s) (q.readLoop c s') := by
  unfold readLoop
  refine .bind hs.readBounds ?_ nofun
  rintro bounds bounds' - hrel
  cases hrel with
  | none => exact .both (h.pushChar c.toNat) hs
  | @some b b' hb =>
    obtain ⟨least, most, s₁⟩ := b
    obtain ⟨least', most', s₁'⟩ := b'
    obtain ⟨hleast, hmost, h₁⟩ := hb
    dsimp only at hleast hmost h₁ ⊢
    subst hleast hmost
    refine .of_isOk (fun hr hq => ?_) fun hexact => ?_
    · split at hr
      · cases hr
      next item items hitems =>
      split at hr
      · cases hr
      · cases hr
      split at hq
      · cases hq
      next item' items' hitems' =>
      split at hq
      · cases hq
      · cases hq
      cases hr
      cases hq
      refine ⟨h.of_current (h.like.loop hitems hitems' ?_ fun hitem => ?_) rfl rfl rfl,
        (closed_loop h₁ rfl rfl).2⟩
      · split <;> rfl
      · refine (closed_loop h₁ rfl rfl).1 ?_
        rw [hitem]
        exact Part.sequence_shift item.parts
    -- the last items have the same role, which decides whether they can be repeated
    · rw [(h.like.shifts hexact).items_eq]
      cases r.current.items with
      | nil => rfl
      | cons item items =>
        obtain ⟨parts, role⟩ := item
        cases role <;> rfl

/-- A group is given the same name, and a number that is one higher in parentheses. -/
theorem agree_openNamed {opening opening' : ℕ} :
    Agree exact whole n
      (do
        let (name, t) ← readGroupName s '>'
        match r.names.lookup name with
        | some earlier => refuse (.nameTaken name (r.groups + 1) earlier) s.position
        | none => return ({ r.enterKept opening with names := (name, r.groups + 1) :: r.names }, t))
      (do
        let (name, t) ← readGroupName s' '>'
        match q.names.lookup name with
        | some earlier => refuse (.nameTaken name (q.groups + 1) earlier) s'.position
        | none =>
          return ({ q.enterKept opening' with names := (name, q.groups + 1) :: q.names }, t)) := by
  refine .bind (Carries.readGroupName hs (by decide)) ?_ ?_
  · rintro ⟨_, t⟩ ⟨name, t'⟩ - ⟨rfl, ht⟩
    dsimp only at ht ⊢
    refine .of_isOk (fun hr hq => ?_) fun hexact => ?_
    · split at hr
      · cases hr
      split at hq
      · cases hq
      cases hr
      cases hq
      have hkept : Alongside exact whole (r.enterKept opening) (q.enterKept opening') :=
        h.enterKept
      refine ⟨⟨hkept.nested, hkept.groups_pos, fun hexact => ?_⟩, ht⟩
      obtain ⟨hgroups, hwidths, hnames, hmark, hconditions, hbad⟩ := hkept.numbers hexact
      refine ⟨hgroups, hwidths, ?_, hmark, hconditions, hbad⟩
      exact congrArg₂ List.cons (congrArg (Prod.mk _) hgroups) hnames
    · rw [(h.numbers hexact).lookup_eq]
      cases r.names.lookup name <;> rfl
  · rintro ⟨name, t'⟩ ht' q₁ u hq
    dsimp only at hq
    split at hq
    · cases hq
    · cases hq
      exact ⟨ht', List.cons_ne_nil _ _⟩

theorem agree_referNamed :
    Agree exact whole n
      (do
        let (name, t) ← readGroupName s ')'
        match r.names.lookup name with
        | none => refuse (.unknownName name) s.position
        | some index => return (← r.refer index s.position t.position, t))
      (do
        let (name, t) ← readGroupName s' ')'
        match q.names.lookup name with
        | none => refuse (.unknownName name) s'.position
        | some index => return (← q.refer index s'.position t.position, t)) := by
  refine .bind (Carries.readGroupName hs (by decide)) ?_ ?_
  · rintro ⟨_, t⟩ ⟨name, t'⟩ - ⟨rfl, ht⟩
    dsimp only at ht ⊢
    by_cases hexact : exact
    · rw [(h.numbers hexact).lookup_eq]
      cases r.names.lookup name with
      | none => exact .errors
      | some index => exact agree_refer h ht fun _ => rfl
    · cases r.names.lookup name with
      | none => exact .neither fun h => absurd h hexact
      | some index =>
        cases q.names.lookup name with
        | none => exact .apart hexact
        | some index' => exact agree_refer h ht fun h => absurd h hexact
  · rintro ⟨name, t'⟩ ht' q₁ u hq
    dsimp only at hq
    split at hq
    · cases hq
    · obtain ⟨q₂, hq₂, hq⟩ := exists_of_bind hq
      cases hq
      exact ⟨ht', (goes_refer hq₂).outer_ne_nil h.outer_ne_nil⟩

theorem agree_readNamed {opening opening' : ℕ} :
    Agree exact whole n (r.readNamed s opening) (q.readNamed s' opening') := by
  unfold readNamed
  rcases hs.unit?_cases with ⟨unit, s₁, s₁', hunit, hunit', h₁, -⟩ |
    ⟨hunit, t', hunit', -⟩ | ⟨t, t', hunit, hunit', -⟩
  · rw [hunit, hunit']
    by_cases hopen : unit = ['<']
    · subst hopen
      exact agree_openNamed h h₁
    · by_cases hrefer : unit = ['=']
      · subst hrefer
        exact agree_referNamed h h₁
      · dsimp only
        split
        · next hnone => cases hnone
        · next heq => exact absurd (Prod.mk.inj (Option.some.inj heq)).1 hopen
        · next heq => exact absurd (Prod.mk.inj (Option.some.inj heq)).1 hrefer
        · exact .errors
  · rw [hunit, hunit']
    exact .errors
  · rw [hunit, hunit']
    exact .errors

theorem agree_readLookbehind {opening opening' : ℕ} :
    Agree exact whole n (r.readLookbehind s opening) (q.readLookbehind s' opening') := by
  unfold readLookbehind
  rcases hs.unit?_cases with ⟨unit, s₁, s₁', hunit, hunit', h₁, -⟩ |
    ⟨hunit, t', hunit', -⟩ | ⟨t, t', hunit, hunit', -⟩
  · rw [hunit, hunit']
    by_cases hbehind : unit = ['=']
    · subst hbehind
      exact .both (h.enterLook true false) h₁
    · by_cases hnegated : unit = ['!']
      · subst hnegated
        exact .both (h.enterLook true true) h₁
      · split
        · next hnone => cases hnone
        · next heq => exact absurd (Prod.mk.inj (Option.some.inj heq)).1 hbehind
        · next heq => exact absurd (Prod.mk.inj (Option.some.inj heq)).1 hnegated
        · exact .errors
  · rw [hunit, hunit']
    exact .errors
  · rw [hunit, hunit']
    exact .errors

/-- A condition by name is on the same group in both. -/
theorem agree_readCondition_name (hexact : exact) {opening opening' : ℕ} {name : List Char}
    (hread : s.readName ')' "group name" = .ok (name, t)) (hidentifier : Text.isIdentifier name) :
    Agree exact whole n (r.readCondition s opening) (q.readCondition s' opening') := by
  have hcarries : Carries n (s.readName ')' "group name") (s'.readName ')' "group name") :=
    Carries.readName hs (by decide)
  obtain ⟨t', hread', ht⟩ := hcarries.exists_closed hread
  have hnumbers := h.numbers hexact
  unfold readCondition
  rw [hread, hread']
  simp only [bind, Except.bind, if_pos hidentifier, hnumbers.lookup_eq]
  cases r.names.lookup (String.ofList name) with
  | none => exact .errors
  | some index =>
    dsimp only [Option.map_some]
    rcases hnumbers.checkMark_cases index t.position t'.position with
      ⟨hr, hq⟩ | ⟨e, e', hr, hq⟩
    · rw [hr, hq, h.flags_eq]
      exact .both (h.enter (.given index) (.given (index + 1)) (by simp) (fun _ => rfl) r.flags) ht
    · rw [hr, hq]
      exact .errors

/-- A condition by name is on the same group in both, and one by number is not. -/
theorem agree_readCondition {opening opening' : ℕ}
    (hname : exact → isConditionNumber s = false) :
    Agree exact whole n (r.readCondition s opening) (q.readCondition s' opening') := by
  have hcarries : Carries n (s.readName ')' "group name") (s'.readName ')' "group name") :=
    Carries.readName hs (by decide)
  by_cases hexact : exact
  · cases hread : s.readName ')' "group name" with
    | error e =>
      -- a name that only the parenthesis ends leaves nothing for the group to hold
      have hfail : r.readCondition s opening = .error e := by
        rw [readCondition, hread]
        rfl
      rw [hfail]
      refine .neither fun _ q₁ t hq => ?_
      obtain ⟨name, index, conditions, hread', rfl⟩ := readCondition_eq hq
      rw [hread] at hcarries
      cases hcarries with
      | error hlost => exact ⟨hlost _ hread', List.cons_ne_nil _ _⟩
    | ok found =>
      have hidentifier := hname hexact
      rw [isConditionNumber, hread] at hidentifier
      exact agree_readCondition_name h hs hexact hread (by simpa using hidentifier)
  · refine .of_isOk (fun hr hq => ?_) fun h => absurd h hexact
    obtain ⟨name, index, conditions, hread, rfl⟩ := readCondition_eq hr
    obtain ⟨name', index', conditions', hread', rfl⟩ := readCondition_eq hq
    obtain ⟨u, hcarried, hu⟩ := hcarries.exists_closed hread
    cases hcarried.symm.trans hread'
    have hentered : Alongside exact whole (r.enter (.given index) opening r.flags)
        (q.enter (.given index') opening' r.flags) :=
      h.enter _ _ (by simp) (fun h => absurd h hexact) r.flags
    rw [h.flags_eq]
    exact ⟨⟨hentered.nested, hentered.groups_pos, fun h => absurd h hexact⟩, hu⟩

theorem agree_readComment {opening opening' : ℕ} :
    Agree exact whole n (r.readComment s opening) (q.readComment s' opening') := by
  unfold readComment
  cases htake : s.takeUntil? ')' with
  | none =>
    refine .neither fun _ q₁ t' hq => ?_
    split at hq
    · cases hq
    · next htake' =>
      cases hq
      exact ⟨hs.rest_of_takeUntil? htake htake', h.outer_ne_nil⟩
  | some found =>
    obtain ⟨t', htake', ht⟩ := hs.takeUntil? (by decide) htake
    rw [htake']
    exact .both h ht

/-- Flags for the whole of a pattern are none for the whole of the pattern in parentheses, where
they come too late. -/
theorem agree_readFlags {opening opening' : ℕ} (hsets : exact → r.setsFlags s = false) :
    Agree exact whole n (r.readFlags s opening) (q.readFlags s' opening') := by
  have houter : q.outer.isEmpty = false := List.isEmpty_eq_false_iff.2 h.outer_ne_nil
  unfold readFlags
  refine .bind (Carries.readFlagChange hs) ?_ ?_
  · rintro ⟨_, _, s₁⟩ ⟨change, grouped, s₁'⟩ hread ⟨rfl, rfl, h₁⟩
    dsimp only at h₁ ⊢
    rw [h.flags_eq, houter]
    cases grouped with
    | true => exact .both (h.enter .flagged .flagged (by simp) (fun _ => rfl) _) h₁
    | false =>
      by_cases hexact : exact
      · have hnot := hsets hexact
        rw [setsFlags, hread] at hnot
        simp only [Bool.not_false, Bool.true_and] at hnot
        rw [hnot]
        exact .errors
      · exact .apart hexact
  · rintro ⟨change, grouped, s₁'⟩ hs₁' q₁ t hq
    dsimp only at hs₁' hq
    rw [houter] at hq
    cases grouped with
    | true =>
      cases hq
      exact ⟨hs₁', List.cons_ne_nil _ _⟩
    | false => cases hq

/-- A mark behind the question mark opens the same group in both. -/
theorem agree_readGroup_mark {opening opening' : ℕ} {unit rest : List Char} {u u' : Source}
    (hrest : s.rest = '?' :: rest) (hunit : (s.drop 1).unit? = some (unit, u))
    (hunit' : (s'.drop 1).unit? = some (unit, u')) (hu : u.Closed n u') (hmark : unit ∈ marks)
    (hin : exact → unit = ['('] → isConditionNumber u = false) :
    Agree exact whole n (r.readGroup s opening) (q.readGroup s' opening') := by
  simp only [marks, List.mem_cons, List.not_mem_nil, or_false] at hmark
  unfold readGroup
  rcases hmark with rfl | rfl | rfl | rfl | rfl | rfl | rfl | rfl <;>
    simp only [hrest, hs.cons hrest, hunit, hunit', h.flags_eq]
  · exact agree_readNamed h hu
  · exact .both (h.enter .plain .plain (by simp) (fun _ => rfl) r.flags) hu
  · exact agree_readComment h hu
  · exact .both (h.enterLook false false) hu
  · exact .both (h.enterLook false true) hu
  · exact agree_readLookbehind h hu
  · exact agree_readCondition h hu fun hexact => hin hexact rfl
  · exact .both (h.enter .once .once (by simp) (fun _ => rfl) r.flags) hu

theorem agree_readGroup {opening opening' : ℕ} (hin : exact → r.looksOut '(' s = false) :
    Agree exact whole n (r.readGroup s opening) (q.readGroup s' opening') := by
  by_cases hmark : s.rest.head? = some '?'
  · obtain ⟨rest, hrest⟩ := List.head?_eq_some_iff.1 hmark
    have h₁ := hs.drop_one hrest
    have hrest' := hs.cons hrest
    replace hin (hexact : exact) := hin hexact
    simp only [looksOut, hrest] at hin
    rcases h₁.unit?_cases with ⟨unit, s₂, s₂', hunit, hunit', h₂, -⟩ |
      ⟨hunit, t', hunit', -⟩ | ⟨t, t', hunit, hunit', -⟩
    · rw [hunit] at hin
      by_cases hflags : ∃ c, unit = [c] ∧ (c == '-' || (Flag.ofLetter? c).isSome)
      · obtain ⟨c, rfl, hletter⟩ := hflags
        rw [readGroup_eq_readFlags hrest hunit hletter,
          readGroup_eq_readFlags hrest' hunit' hletter]
        refine agree_readFlags h h₁ fun hexact => ?_
        have hnot := hin hexact
        split at hnot
        · next heq =>
          -- a parenthesis is no letter of a flag
          cases heq
          cases hletter
        · next heq =>
          cases heq
          rw [hletter, Bool.true_and] at hnot
          exact hnot
        · next hno => exact absurd rfl (hno c s₂)
      by_cases hmark : unit ∈ marks
      · refine agree_readGroup_mark h hs hrest hunit hunit' h₂ hmark fun hexact hcondition => ?_
        have hnot := hin hexact
        rwa [hcondition] at hnot
      · obtain ⟨e, he⟩ := exists_of_readGroup opening hrest hunit hmark hflags
        obtain ⟨e', he'⟩ := exists_of_readGroup opening' hrest' hunit' hmark hflags
        rw [he, he']
        exact .errors
    · unfold readGroup
      rw [hrest, hrest']
      dsimp only
      rw [hunit, hunit']
      exact .errors
    · unfold readGroup
      rw [hrest, hrest']
      dsimp only
      rw [hunit, hunit']
      exact .errors
  · have hmark' : s'.rest.head? ≠ some '?' := by
      intro hhead
      obtain ⟨rest, hrest⟩ := List.head?_eq_some_iff.1 hhead
      exact hs.not_cons (by decide) (fun rest h => hmark (by rw [h]; rfl)) hrest
    rw [readGroup_eq hmark, readGroup_eq hmark']
    exact .both h.enterKept hs

omit h in
/-- A comment ends with its line, or takes the parenthesis with it. -/
theorem closed_skipLine : (skipLine s).Closed n (skipLine s') ∨
    (skipLine s).rest = [] ∧ (skipLine s').rest = [] := by
  unfold skipLine
  cases htake : s.takeUntil? '\n' with
  | some found =>
    obtain ⟨t', htake', ht⟩ := hs.takeUntil? (by decide) htake
    rw [htake']
    exact .inl ht
  | none =>
    refine .inr ⟨List.drop_length, ?_⟩
    cases htake' : s'.takeUntil? '\n' with
    | none => exact List.drop_length
    | some found => exact hs.rest_of_takeUntil? htake htake'

theorem agree_readBar :
    Agree exact whole n (r.readBar position >>= fun r₁ => pure (r₁, s))
      (q.readBar position' >>= fun q₁ => pure (q₁, s')) := by
  refine .of_isOk (fun hr hq => ?_) fun hexact => ?_
  · obtain ⟨r₁, hr₁, hr⟩ := exists_of_bind hr
    obtain ⟨q₁, hq₁, hq⟩ := exists_of_bind hq
    cases hr
    cases hq
    unfold readBar at hr₁ hq₁
    split at hr₁
    · cases hr₁
    · split at hq₁
      · cases hq₁
      · cases hr₁
        cases hq₁
        exact ⟨h.of_current h.like.nextAlternative rfl rfl rfl, hs⟩
  · unfold readBar
    rw [(h.like.shifts hexact).alternatives_eq]
    rcases h.opener_cases hexact with hopener | ⟨hwhole, hkept⟩
    · rw [hopener]
      cases r.current.opener <;> cases r.current.alternatives <;> rfl
    · rw [hwhole, hkept]
      cases r.current.alternatives <;> rfl

/-- A step keeps the readers in step, and exactly so short of constructs that look out. -/
theorem agree_step {c : Char} (hin : exact → r.looksOut c s = false) :
    Agree exact whole n (r.step c s) (q.step c s') := by
  unfold step
  dsimp only
  rw [h.flags_eq]
  split
  · exact .both h hs
  split
  · next hcomment =>
    have hverbose := (Bool.and_eq_true_iff.1 hcomment).1
    rcases closed_skipLine hs with ht | ⟨ht, ht'⟩
    · exact .both h ht
    · exact .spent (h.outer_ne_nil_of_verbose hverbose) ht h.outer_ne_nil ht'
  split
  · cases hrest : s.rest with
    | nil =>
      -- a backslash at the end is a fault, or takes the parenthesis for a character
      have hrest' : s'.rest = [')'] := by rw [hs.1, hrest, List.nil_append]
      have hread (t : Source) (start : ℕ) :
          q.readEscape ')' t start = .ok (q.pushChar ')'.toNat, t) := rfl
      rw [hrest']
      refine .neither fun _ q₁ t hq => ?_
      dsimp only at hq
      rw [hread] at hq
      cases hq
      exact ⟨by rw [Source.drop, hrest']; rfl, h.outer_ne_nil⟩
    | cons e rest =>
      rw [hs.cons hrest]
      refine agree_readEscape h (hs.drop_one hrest) fun hexact => ?_
      have hnot := hin hexact
      simp only [looksOut, hrest] at hnot
      exact hnot
  · exact agree_readBar h hs
  · exact agree_readGroup h hs hin
  · cases houter : r.outer with
    | nil =>
      refine .neither fun hexact => ?_
      have hnot := hin hexact
      rw [looksOut, houter] at hnot
      cases hnot
    | cons parent outer =>
      obtain ⟨parent', outer', houter'⟩ := List.exists_cons_of_ne_nil h.outer_ne_nil
      rw [houter']
      exact .both (h.leave houter houter') hs
  · exact agree_push h (Carries.readSet hs) .char .char (fun _ => rfl) fun _ => rfl
  · exact agree_readLoop h hs
  · exact agree_readLoop h hs
  · exact agree_readLoop h hs
  · exact agree_readLoop h hs
  · exact .both (h.push rfl fun _ => rfl) hs
  · exact .both (h.push rfl fun _ => rfl) hs
  · exact .both (h.push rfl fun _ => rfl) hs
  · exact .both (h.pushChar c.toNat) hs

end Constructs

end Reader

end OrderedGrammar.Pattern
