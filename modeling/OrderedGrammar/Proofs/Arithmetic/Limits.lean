import OrderedGrammar.Proofs.Arithmetic.Dialect
import OrderedGrammar.Proofs.Walking

/-!
# Values within limits

What comes of an expression when the calls inside of calls and the digits of its numbers are limited
is its value or the first error that is met from left to right (`Phrase.outcome`).  A walk that has
room for the calls of the whole expression gives its value (`Phrase.outcome_eq_value`).

The grammar that names the tails has more nodes in its trees, so that it takes more calls to walk
through them.  Where they suffice, those for the other grammar's trees do as well
(`Phrase.outcome_grouped`).

## Main definitions

* `Phrase.outcome` : the value of a phrase within limits, or the first error.
* `Phrase.calls` : the calls that a walk through a phrase takes.
* `Phrase.longest` : how many digits the longest number has.
* `Phrase.Fits` : whether the limits are kept.
-/

namespace OrderedGrammar.Arithmetic

open Walk (below le_below)

/-! ### Outcomes -/

/-- The calls down to the operands of a row. -/
def Dialect.rowCalls : Dialect → ℕ
  | named => 6
  | grouped => 4

/-- The calls down to an operand behind its operator. -/
def tailCalls : ℕ := 2

/-- The calls down to what a factor or a pair of parentheses has inside. -/
def innerCalls : ℕ := 3

/-- The calls in which a number is read. -/
def numberCalls : ℕ := 5

/-- What a walk puts on the stack for a value, if there is one. -/
def outcomeOf : Option ℤ → Except Error ℤ
  | some v => .ok v
  | none => .error .divisionByZero

/-- The value of a number, if it does not have too many digits. -/
def Numeral.read (n : Numeral) : Option ℕ → Except Error ℤ
  | some most =>
    if most < n.digits.length then .error (.tooManyDigits most n.digits.length) else .ok n.value
  | none => .ok n.value

/-- The value of a number, if there is room to read it. -/
def Numeral.outcome (n : Numeral) (digits room : Option ℕ) : Except Error ℤ :=
  if room.any (· < numberCalls) then .error .overflow else n.read digits

/-- A value with a sign in front. -/
def signed (sign : Option (Operator .sum)) (v : ℤ) : ℤ :=
  if sign = some .minus then -v else v

mutual

/-- The value of a phrase within limits, or the first error that is met from left to right. -/
def Phrase.outcome (d : Dialect) (digits : Option ℕ) {c : Category} :
    Phrase c → Option ℕ → Except Error ℤ
  | .number n, room => n.outcome digits room
  | .group body, room => body.outcome d digits (below room innerCalls)
  | .factor sign operand, room =>
    (operand.outcome d digits (below room innerCalls)).map (signed sign)
  | .row first rest, room => do
    let total ← first.outcome d digits (below room d.rowCalls)
    rest.outcome d digits total (below room d.rowCalls)

/-- The value of a row that has come to `total`, or the first error. -/
def Rest.outcome (d : Dialect) (digits : Option ℕ) {l : Level} :
    Rest l → ℤ → Option ℕ → Except Error ℤ
  | .nil, total, _ => .ok total
  | .cons op operand rest, total, room => do
    let value ← operand.outcome d digits (below room tailCalls)
    let total ← outcomeOf (op.apply total value)
    rest.outcome d digits total room

end

/-! ### Measures -/

mutual

/-- The calls that a walk through a phrase takes. -/
def Phrase.calls (d : Dialect) {c : Category} : Phrase c → ℕ
  | .number _ => numberCalls
  | .group body => body.calls d + innerCalls
  | .factor _ operand => operand.calls d + innerCalls
  | .row first rest => max (first.calls d) (rest.calls d) + d.rowCalls

/-- The calls that a walk through the operands behind the first one takes. -/
def Rest.calls (d : Dialect) {l : Level} : Rest l → ℕ
  | .nil => 0
  | .cons _ operand rest => max (operand.calls d + tailCalls) (rest.calls d)

end

mutual

/-- How many digits the longest number of a phrase has. -/
def Phrase.longest {c : Category} : Phrase c → ℕ
  | .number n => n.digits.length
  | .group body => body.longest
  | .factor _ operand => operand.longest
  | .row first rest => max first.longest rest.longest

/-- How many digits the longest number behind the first operand has. -/
def Rest.longest {l : Level} : Rest l → ℕ
  | .nil => 0
  | .cons _ operand rest => max operand.longest rest.longest

end

/-- The calls in which a walk is started. -/
def walkCalls : ℕ := 2

/-- Whether an expression can be evaluated within limits. -/
structure Phrase.Fits (d : Dialect) (limits : Limits) {c : Category} (p : Phrase c) : Prop where
  calls_le : ∀ room ∈ limits.calls, p.calls d + walkCalls ≤ room
  longest_le : ∀ most ∈ limits.digits, p.longest ≤ most

/-! ### Overflow -/

variable {d : Dialect} {digits : Option ℕ}

theorem Numeral.outcome_of_lt (n : Numeral) {room : ℕ} (h : room < numberCalls) :
    n.outcome digits (some room) = .error .overflow := if_pos (by simpa using h)

/-- With less room than a number takes, no phrase comes to a value: the first thing that it
evaluates is a number. -/
theorem Phrase.outcome_of_lt : ∀ {c : Category} (p : Phrase c) {room : ℕ}, room < numberCalls →
    p.outcome d digits (some room) = .error .overflow
  | _, .number n, _, h => n.outcome_of_lt h
  | _, .group body, room, h => body.outcome_of_lt ((Nat.sub_le room innerCalls).trans_lt h)
  | _, .factor sign operand, room, h => by
    have hoperand : operand.outcome d digits (below (some room) innerCalls) = .error .overflow :=
      operand.outcome_of_lt ((Nat.sub_le room innerCalls).trans_lt h)
    rw [Phrase.outcome, hoperand]
    rfl
  | _, .row first rest, room, h => by
    have hfirst : first.outcome d digits (below (some room) d.rowCalls) = .error .overflow :=
      first.outcome_of_lt ((Nat.sub_le room d.rowCalls).trans_lt h)
    rw [Phrase.outcome, hfirst]
    rfl

/-! ### Values -/

theorem Numeral.outcome_of_le (n : Numeral) {room : Option ℕ} (h : ∀ r ∈ room, numberCalls ≤ r) :
    n.outcome digits room = n.read digits := by
  cases room with
  | none => rfl
  | some r => exact if_neg (by simpa using h r rfl)

theorem Numeral.outcome_eq_value (n : Numeral) {room : Option ℕ}
    (hcalls : ∀ r ∈ room, numberCalls ≤ r) (hdigits : ∀ most ∈ digits, n.digits.length ≤ most) :
    n.outcome digits room = .ok (n.value : ℤ) := by
  rw [n.outcome_of_le hcalls]
  cases digits with
  | none => rfl
  | some most => exact if_neg (Nat.not_lt.2 (hdigits most rfl))

mutual

/-- With room for all of its calls and digits, a phrase comes to its value. -/
theorem Phrase.outcome_eq_value : ∀ {c : Category} (p : Phrase c) {room : Option ℕ},
    (∀ r ∈ room, p.calls d ≤ r) → (∀ most ∈ digits, p.longest ≤ most) →
      p.outcome d digits room = outcomeOf p.value
  | _, .number n, _, hcalls, hdigits => n.outcome_eq_value hcalls hdigits
  | _, .group body, _, hcalls, hdigits => body.outcome_eq_value (le_below hcalls) hdigits
  | _, .factor sign operand, _, hcalls, hdigits => by
    rw [Phrase.outcome, operand.outcome_eq_value (le_below hcalls) hdigits]
    rcases sign with _ | _ | _ <;> rw [Phrase.value] <;> cases operand.value <;> rfl
  | _, .row first rest, room, hcalls, hdigits => by
    have hbelow : ∀ r ∈ below room d.rowCalls, max (first.calls d) (rest.calls d) ≤ r :=
      le_below hcalls
    have hfirst := first.outcome_eq_value (fun r hr => (le_max_left _ _).trans (hbelow r hr))
      fun most hmost => (le_max_left _ _).trans (hdigits most hmost)
    rw [Phrase.outcome, hfirst, Phrase.value]
    cases first.value with
    | none => rfl
    | some total =>
      exact rest.outcome_eq_value total (fun r hr => (le_max_right _ _).trans (hbelow r hr))
        fun most hmost => (le_max_right _ _).trans (hdigits most hmost)

theorem Rest.outcome_eq_value : ∀ {l : Level} (rest : Rest l) (total : ℤ) {room : Option ℕ},
    (∀ r ∈ room, rest.calls d ≤ r) → (∀ most ∈ digits, rest.longest ≤ most) →
      rest.outcome d digits total room = outcomeOf (rest.value total)
  | _, .nil, _, _, _, _ => rfl
  | _, .cons op operand rest, total, room, hcalls, hdigits => by
    have hbelow : ∀ r ∈ below room tailCalls, operand.calls d ≤ r :=
      le_below fun r hr => (le_max_left _ _).trans (hcalls r hr)
    have hoperand := operand.outcome_eq_value hbelow
      fun most hmost => (le_max_left _ _).trans (hdigits most hmost)
    rw [Rest.outcome, hoperand, Rest.value]
    cases operand.value with
    | none => rfl
    | some value =>
      rw [Option.bind_some]
      change (outcomeOf (op.apply total value) >>= _) = _
      cases op.apply total value with
      | none => rfl
      | some total =>
        exact rest.outcome_eq_value total (fun r hr => (le_max_right _ _).trans (hcalls r hr))
          fun most hmost => (le_max_right _ _).trans (hdigits most hmost)

end

/-! ### Room for all calls -/

/-- One step after another does not overflow if neither of them does. -/
theorem bind_ne_overflow {α β : Type} {x : Except Error α} {f : α → Except Error β}
    (hx : x ≠ .error .overflow) (hf : ∀ a, f a ≠ .error .overflow) :
    x.bind f ≠ .error .overflow := by
  cases x with
  | error e =>
    intro heq
    exact hx (congrArg _ (Except.error.inj heq))
  | ok a => exact hf a

theorem outcomeOf_ne_overflow (v : Option ℤ) : outcomeOf v ≠ .error .overflow := by
  cases v <;> nofun

theorem Numeral.read_ne_overflow (n : Numeral) : n.read digits ≠ .error .overflow := by
  cases digits with
  | none => nofun
  | some most =>
    rw [Numeral.read]
    split <;> nofun

mutual

/-- With room for all of its calls, a phrase does not overflow, however many digits are read. -/
theorem Phrase.outcome_ne_overflow : ∀ {c : Category} (p : Phrase c) {room : Option ℕ},
    (∀ r ∈ room, p.calls d ≤ r) → p.outcome d digits room ≠ .error .overflow
  | _, .number n, _, h => by
    rw [Phrase.outcome, n.outcome_of_le h]
    exact n.read_ne_overflow
  | _, .group body, _, h => body.outcome_ne_overflow (le_below h)
  | _, .factor sign operand, room, h => by
    have hoperand : operand.outcome d digits (below room innerCalls) ≠ .error .overflow :=
      operand.outcome_ne_overflow (le_below h)
    rw [Phrase.outcome]
    exact bind_ne_overflow hoperand (f := fun v => .ok (signed sign v)) nofun
  | _, .row first rest, room, h => by
    have hbelow : ∀ r ∈ below room d.rowCalls, max (first.calls d) (rest.calls d) ≤ r := le_below h
    rw [Phrase.outcome]
    exact bind_ne_overflow
      (first.outcome_ne_overflow fun r hr => (le_max_left _ _).trans (hbelow r hr)) fun total =>
        rest.outcome_ne_overflow total fun r hr => (le_max_right _ _).trans (hbelow r hr)

theorem Rest.outcome_ne_overflow : ∀ {l : Level} (rest : Rest l) (total : ℤ) {room : Option ℕ},
    (∀ r ∈ room, rest.calls d ≤ r) → rest.outcome d digits total room ≠ .error .overflow
  | _, .nil, _, _, _ => nofun
  | _, .cons op operand rest, total, room, h => by
    have hoperand : ∀ r ∈ below room tailCalls, operand.calls d ≤ r :=
      le_below fun r hr => (le_max_left _ _).trans (h r hr)
    rw [Rest.outcome]
    exact bind_ne_overflow (operand.outcome_ne_overflow hoperand) fun value =>
      bind_ne_overflow (outcomeOf_ne_overflow _) fun total =>
        rest.outcome_ne_overflow total fun r hr => (le_max_right _ _).trans (h r hr)

end

/-! ### The two grammars -/

/-- Whether there is as much room as in another stack. -/
def HasRoomOf (room' room : Option ℕ) : Prop := ∀ r' ∈ room', ∃ r ∈ room, r ≤ r'

theorem HasRoomOf.below {room room' : Option ℕ} (h : HasRoomOf room' room) {calls calls' : ℕ}
    (hcalls : calls' ≤ calls) : HasRoomOf (below room' calls') (below room calls) := by
  cases room' with
  | none => nofun
  | some r' =>
    obtain ⟨r, rfl, hle⟩ := h r' rfl
    rintro _ ⟨⟩
    exact ⟨r - calls, rfl, tsub_le_tsub hle hcalls⟩

theorem Numeral.outcome_of_room (n : Numeral) {room room' : Option ℕ} (h : HasRoomOf room' room) :
    n.outcome digits room = .error .overflow ∨
      n.outcome digits room' = n.outcome digits room := by
  by_cases hroom : ∀ r ∈ room, numberCalls ≤ r
  · have hroom' : ∀ r' ∈ room', numberCalls ≤ r' := by
      intro r' hr'
      obtain ⟨r, hr, hle⟩ := h r' hr'
      exact (hroom r hr).trans hle
    exact .inr ((n.outcome_of_le hroom').trans (n.outcome_of_le hroom).symm)
  · obtain ⟨r, rfl, hlt⟩ : ∃ r, room = some r ∧ r < numberCalls := by simpa using hroom
    exact .inl (n.outcome_of_lt hlt)

mutual

/-- What takes no overflow to walk through with the one grammar's tree comes to the same with the
other's, if there is as much room. -/
theorem Phrase.outcome_grouped : ∀ {c : Category} (p : Phrase c) {room room' : Option ℕ},
    HasRoomOf room' room → p.outcome .named digits room = .error .overflow ∨
      p.outcome .grouped digits room' = p.outcome .named digits room
  | _, .number n, _, _, h => n.outcome_of_room h
  | _, .group body, _, _, h => body.outcome_grouped (h.below le_rfl)
  | _, .factor sign operand, _, _, h => by
    rw [Phrase.outcome, Phrase.outcome]
    rcases operand.outcome_grouped (h.below le_rfl) with hoverflow | heq
    · exact .inl (by rw [hoverflow]; rfl)
    · exact .inr (by rw [heq])
  | _, .row first rest, room, room', h => by
    have hbelow : HasRoomOf (below room' Dialect.grouped.rowCalls)
        (below room Dialect.named.rowCalls) := h.below (by decide)
    rw [Phrase.outcome, Phrase.outcome]
    rcases first.outcome_grouped hbelow with hoverflow | heq
    · exact .inl (by rw [hoverflow]; rfl)
    · rw [heq]
      cases first.outcome .named digits (below room Dialect.named.rowCalls) with
      | error e => exact .inr rfl
      | ok total => exact rest.outcome_grouped total hbelow

theorem Rest.outcome_grouped : ∀ {l : Level} (rest : Rest l) (total : ℤ)
    {room room' : Option ℕ}, HasRoomOf room' room →
    rest.outcome .named digits total room = .error .overflow ∨
      rest.outcome .grouped digits total room' = rest.outcome .named digits total room
  | _, .nil, _, _, _, _ => .inr rfl
  | _, .cons op operand rest, total, room, room', h => by
    rw [Rest.outcome, Rest.outcome]
    rcases operand.outcome_grouped (h.below (le_refl tailCalls)) with hoverflow | heq
    · exact .inl (by rw [hoverflow]; rfl)
    · rw [heq]
      cases operand.outcome .named digits (below room tailCalls) with
      | error e => exact .inr rfl
      | ok value =>
        change (outcomeOf (op.apply total value) >>= _) = _ ∨
          (outcomeOf (op.apply total value) >>= _) = (outcomeOf (op.apply total value) >>= _)
        cases op.apply total value with
        | none => exact .inr rfl
        | some total => exact rest.outcome_grouped total h

end

end OrderedGrammar.Arithmetic
