import Mathlib.Data.List.Infix
import OrderedGrammar.Pattern.Match

/-!
# What plain patterns match

A plain pattern is made of characters, sequences, alternatives and loops, so that what it matches
depends on nothing but the text ahead.  `Pattern.prefixes` lists its matches at the start of a text
in the order in which the matcher comes to them (`Pattern.run_of_isPlain`): the matcher hands each
of them on until one is accepted.

## Main definitions

* `Pattern.isPlain` : the plain patterns.
* `Pattern.prefixes` : the matches at the start of a text, the first choice first.
* `Pattern.matchesAll` : whether a pattern matches a whole text.
-/

namespace OrderedGrammar

namespace Cursor

/-- The place behind `cs`, which the text goes on with. -/
def past (c : Cursor) (cs : List Char) : Cursor where
  before := cs.reverse ++ c.before
  after := c.after.drop cs.length
  offset := c.offset + cs.length
  offset_eq := by simp [c.offset_eq, Nat.add_comm]

@[simp] theorem after_past (c : Cursor) (cs : List Char) :
    (c.past cs).after = c.after.drop cs.length := rfl

@[simp] theorem offset_past (c : Cursor) (cs : List Char) :
    (c.past cs).offset = c.offset + cs.length := rfl

@[simp] theorem past_nil (c : Cursor) : c.past [] = c := rfl

@[simp] theorem past_past (c : Cursor) (cs ds : List Char) :
    (c.past cs).past ds = c.past (cs ++ ds) := by
  ext1 <;> simp [past, Nat.add_assoc]

theorem past_singleton {c d : Cursor} {x : Char} (h : c.next? = some (x, d)) : d = c.past [x] := by
  unfold next? at h
  split at h
  · cases h
  · next hc =>
    obtain ⟨rfl, rfl⟩ := Prod.mk.inj (Option.some.inj h)
    ext1 <;> simp [past, hc]

/-- The text between a place and the one behind `cs` is `cs`. -/
theorem slice_past {c : Cursor} {cs : List Char} (h : cs <+: c.after) :
    c.slice (c.past cs) = cs := by
  rw [slice, offset_past, Nat.add_sub_cancel_left]
  exact (List.prefix_iff_eq_take.1 h).symm

end Cursor

namespace Pattern

namespace State

/-- The state behind `cs`, which the text goes on with. -/
def past (s : State) (cs : List Char) : State := s.moveTo (s.cursor.past cs)

@[simp] theorem cursor_past (s : State) (cs : List Char) :
    (s.past cs).cursor = s.cursor.past cs := rfl

@[simp] theorem past_nil (s : State) : s.past [] = s := rfl

@[simp] theorem past_past (s : State) (cs ds : List Char) :
    (s.past cs).past ds = s.past (cs ++ ds) := by
  simp [past, moveTo]

end State

/-- Whether the pattern is made of characters, sequences, alternatives and loops only. -/
def isPlain : Pattern → Bool
  | .empty | .char _ => true
  | .seq p q | .alt p q => p.isPlain && q.isPlain
  | .loop _ _ _ p => p.isPlain
  | _ => false

/-! ### The matches in their order -/

/-- The matches of a number of rounds in a row, each of which matches what `step` lists. -/
def requiredPrefixes (step : List Char → List (List Char)) : ℕ → List Char → List (List Char)
  | 0, _ => [[]]
  | n + 1, cs =>
    (step cs).flatMap fun a => (requiredPrefixes step n (cs.drop a.length)).map (a ++ ·)

/-- The matches of any number of rounds up to `most`.  `ahead` is at least as long as the text. -/
def optionalPrefixes (step : List Char → List (List Char)) (greedy : Bool) :
    List Char → Option ℕ → List Char → List (List Char)
  | [], most, cs =>
    if most = some 0 then [[]] else if greedy then step cs ++ [[]] else [[]] ++ step cs
  | _ :: ahead, most, cs =>
    if most = some 0 then [[]]
    else
      let more := (step cs).flatMap fun a =>
        if a = [] then [[]]
        else (optionalPrefixes step greedy ahead (most.map (· - 1)) (cs.drop a.length)).map (a ++ ·)
      if greedy then more ++ [[]] else [[]] ++ more

/-- What a plain pattern matches at the start of a text, in the order in which the matcher comes to
it.  Any other pattern counts as matching nothing. -/
def prefixes : Pattern → List Char → List (List Char)
  | .empty, _ => [[]]
  | .char _, [] => []
  | .char set, x :: _ => if set.holds x then [[x]] else []
  | .seq p q, cs => (p.prefixes cs).flatMap fun a => (q.prefixes (cs.drop a.length)).map (a ++ ·)
  | .alt p q, cs => p.prefixes cs ++ q.prefixes cs
  | .loop least most greedy p, cs =>
    (requiredPrefixes p.prefixes least cs).flatMap fun a =>
      (optionalPrefixes p.prefixes greedy (cs.drop a.length) (most.map (· - least))
        (cs.drop a.length)).map (a ++ ·)
  | _, _ => []

/-! ### The matcher comes to them in this order -/

section Run

theorem findSome?_flatMap {α β γ : Type} (xs : List α) (g : α → List β) (f : β → Option γ) :
    (xs.flatMap g).findSome? f = xs.findSome? fun a => (g a).findSome? f := by
  induction xs with
  | nil => rfl
  | cons a xs ih =>
    rw [List.flatMap_cons, List.findSome?_append, ih, List.findSome?_cons]
    cases (g a).findSome? f <;> rfl

/-- Matches behind `a`, handed on from the place behind `a`. -/
theorem findSome?_behind (s : State) (next : Next) (a : List Char)
    (rest : List Char → List (List Char)) :
    ((rest (s.cursor.after.drop a.length)).map (a ++ ·)).findSome? (fun b => next (s.past b)) =
      (rest (s.past a).cursor.after).findSome? fun b => next ((s.past a).past b) := by
  rw [List.findSome?_map]
  simp only [Function.comp_def, State.past_past, State.cursor_past, Cursor.after_past]

/-- Matches handed on before the place itself, or after it. -/
theorem findSome?_stop (s : State) (next : Next) (greedy : Bool) (more : List (List Char)) :
    (if greedy then more ++ [[]] else [[]] ++ more).findSome? (fun a => next (s.past a)) =
      if greedy then more.findSome? (fun a => next (s.past a)) <|> next s
      else next s <|> more.findSome? fun a => next (s.past a) := by
  cases greedy
  · rw [if_neg Bool.false_ne_true, if_neg Bool.false_ne_true, List.findSome?_append,
      List.findSome?_singleton, State.past_nil, Option.orElse_eq_orElse, Option.orElse_eq_or]
  · rw [if_pos rfl, if_pos rfl, List.findSome?_append, List.findSome?_singleton, State.past_nil,
      Option.orElse_eq_orElse, Option.orElse_eq_or]

variable {step : State → Next → Option State} {find : List Char → List (List Char)}
  (hstep : ∀ s next, step s next = (find s.cursor.after).findSome? fun a => next (s.past a))

include hstep

theorem requiredRounds_eq (n : ℕ) (s : State) (next : Next) :
    requiredRounds step n s next =
      (requiredPrefixes find n s.cursor.after).findSome? fun a => next (s.past a) := by
  induction n generalizing s with
  | zero => rw [requiredRounds, requiredPrefixes, List.findSome?_singleton, State.past_nil]
  | succ n ih =>
    rw [requiredRounds, requiredPrefixes, hstep, findSome?_flatMap]
    simp only [ih, findSome?_behind]

theorem optionalRounds_eq (greedy : Bool) (next : Next) (ahead : List Char) (most : Option ℕ)
    (s : State) :
    optionalRounds step greedy next ahead most s =
      (optionalPrefixes find greedy ahead most s.cursor.after).findSome?
        fun a => next (s.past a) := by
  induction ahead generalizing most s with
  | nil =>
    rw [optionalRounds, optionalPrefixes]
    by_cases hmost : most = some 0
    · rw [if_pos hmost, if_pos hmost, List.findSome?_singleton, State.past_nil]
    · rw [if_neg hmost, if_neg hmost, findSome?_stop, hstep]
  | cons x ahead ih =>
    rw [optionalRounds, optionalPrefixes]
    by_cases hmost : most = some 0
    · rw [if_pos hmost, if_pos hmost, List.findSome?_singleton, State.past_nil]
    · rw [if_neg hmost, if_neg hmost]
      -- a round that matches nothing leaves the place where it is, and is the last one
      have hoffset (a : List Char) : (s.past a).cursor.offset = s.cursor.offset ↔ a = [] := by
        simp [← List.length_eq_zero_iff]
      have hmore : step s (fun t => if t.cursor.offset = s.cursor.offset then next t
          else optionalRounds step greedy next ahead (most.map (· - 1)) t) =
          ((find s.cursor.after).flatMap fun a => if a = [] then [[]]
            else (optionalPrefixes find greedy ahead (most.map (· - 1))
              (s.cursor.after.drop a.length)).map (a ++ ·)).findSome? fun a => next (s.past a) := by
        rw [hstep, findSome?_flatMap]
        congr 1
        funext a
        by_cases ha : a = []
        · rw [if_pos ((hoffset a).2 ha), if_pos ha, ha, List.findSome?_singleton]
        · rw [if_neg (mt (hoffset a).1 ha), if_neg ha, ih, findSome?_behind]
      rw [findSome?_stop, ← hmore]

end Run

/-- **The matcher of a plain pattern hands on its matches one after the other.** -/
theorem run_of_isPlain {p : Pattern} (hp : p.isPlain) (s : State) (next : Next) :
    p.run s next = (p.prefixes s.cursor.after).findSome? fun a => next (s.past a) := by
  induction p generalizing s next with
  | empty => rw [run, prefixes, List.findSome?_singleton, State.past_nil]
  | char set =>
    rw [run]
    cases hnext : s.cursor.next? with
    | none =>
      have hafter : s.cursor.after = [] := by
        unfold Cursor.next? at hnext
        split at hnext
        · assumption
        · cases hnext
      rw [hafter]
      rfl
    | some found =>
      obtain ⟨x, c⟩ := found
      obtain ⟨rest, hafter⟩ : ∃ rest, s.cursor.after = x :: rest := by
        unfold Cursor.next? at hnext
        split at hnext
        · cases hnext
        · next hc =>
          cases hnext
          exact ⟨_, hc⟩
      rw [hafter, prefixes, Cursor.past_singleton hnext]
      by_cases hx : set.holds x
      · simp [hx, State.past]
      · simp [hx]
  | seq p q ihp ihq =>
    obtain ⟨hp, hq⟩ := Bool.and_eq_true_iff.1 hp
    rw [run, prefixes, ihp hp, findSome?_flatMap]
    simp only [ihq hq, findSome?_behind]
  | alt p q ihp ihq =>
    obtain ⟨hp, hq⟩ := Bool.and_eq_true_iff.1 hp
    rw [run, prefixes, ihp hp, ihq hq, List.findSome?_append, Option.orElse_eq_orElse,
      Option.orElse_eq_or]
  | loop least most greedy p ih =>
    have hstep := fun s next => ih hp s next
    -- the rounds that are required come first; the text ahead of the others bounds their number
    rw [run, prefixes, requiredRounds_eq hstep, findSome?_flatMap]
    congr 1
    funext a
    rw [optionalRounds_eq hstep, findSome?_behind s next a fun cs =>
      optionalPrefixes p.prefixes greedy cs (most.map (· - least)) cs]
  | group _ _ _ | again _ _ | given _ _ _ _ _ | anchor _ | look _ _ _ _ | once _ _ => cases hp

/-! ### They are prefixes -/

theorem mem_prefixes_char {set : CharSet} {cs a : List Char} :
    a ∈ prefixes (.char set) cs ↔ ∃ x rest, cs = x :: rest ∧ set.holds x ∧ a = [x] := by
  cases cs with
  | nil => simp [prefixes]
  | cons x rest => simp [prefixes, and_assoc]

theorem mem_prefixes_seq {p q : Pattern} {cs a : List Char} :
    a ∈ (seq p q).prefixes cs ↔
      ∃ b ∈ p.prefixes cs, ∃ c ∈ q.prefixes (cs.drop b.length), a = b ++ c := by
  simp [prefixes, eq_comm]

section IsPrefix

theorem append_isPrefix {a b cs : List Char} (ha : a <+: cs) (hb : b <+: cs.drop a.length) :
    a ++ b <+: cs := by
  obtain ⟨rest, rfl⟩ := ha
  rw [List.drop_left] at hb
  exact (List.prefix_append_right_inj a).2 hb

theorem mem_stop {greedy : Bool} {more : List (List Char)} {a : List Char} :
    (a ∈ if greedy then more ++ [[]] else [[]] ++ more) ↔ a = [] ∨ a ∈ more := by
  cases greedy <;> simp [or_comm]

variable {find : List Char → List (List Char)} (hfind : ∀ cs, ∀ a ∈ find cs, a <+: cs)

include hfind

theorem isPrefix_of_mem_required {n : ℕ} {cs a : List Char} (h : a ∈ requiredPrefixes find n cs) :
    a <+: cs := by
  induction n generalizing cs a with
  | zero =>
    rw [requiredPrefixes, List.mem_singleton] at h
    exact h ▸ List.nil_prefix
  | succ n ih =>
    rw [requiredPrefixes, List.mem_flatMap] at h
    obtain ⟨b, hb, h⟩ := h
    obtain ⟨c, hc, rfl⟩ := List.mem_map.1 h
    exact append_isPrefix (hfind cs b hb) (ih hc)

theorem isPrefix_of_mem_optional {greedy : Bool} {ahead : List Char} {most : Option ℕ}
    {cs a : List Char} (h : a ∈ optionalPrefixes find greedy ahead most cs) : a <+: cs := by
  induction ahead generalizing most cs a with
  | nil =>
    rw [optionalPrefixes] at h
    split at h
    · rw [List.mem_singleton] at h
      exact h ▸ List.nil_prefix
    · rw [mem_stop] at h
      rcases h with rfl | h
      · exact List.nil_prefix
      · exact hfind cs a h
  | cons x ahead ih =>
    rw [optionalPrefixes] at h
    split at h
    · rw [List.mem_singleton] at h
      exact h ▸ List.nil_prefix
    · rw [mem_stop, List.mem_flatMap] at h
      rcases h with rfl | ⟨b, hb, h⟩
      · exact List.nil_prefix
      · split at h
        · rw [List.mem_singleton] at h
          exact h ▸ List.nil_prefix
        · obtain ⟨c, hc, rfl⟩ := List.mem_map.1 h
          exact append_isPrefix (hfind cs b hb) (ih hc)

end IsPrefix

theorem isPrefix_of_mem {p : Pattern} {cs a : List Char} (h : a ∈ p.prefixes cs) : a <+: cs := by
  induction p generalizing cs a with
  | empty =>
    rw [prefixes, List.mem_singleton] at h
    exact h ▸ List.nil_prefix
  | char set =>
    obtain ⟨x, rest, rfl, -, rfl⟩ := mem_prefixes_char.1 h
    exact ⟨rest, rfl⟩
  | seq p q ihp ihq =>
    obtain ⟨b, hb, c, hc, rfl⟩ := mem_prefixes_seq.1 h
    exact append_isPrefix (ihp hb) (ihq hc)
  | alt p q ihp ihq =>
    rw [prefixes, List.mem_append] at h
    exact h.elim ihp ihq
  | loop least most greedy p ih =>
    rw [prefixes, List.mem_flatMap] at h
    obtain ⟨b, hb, h⟩ := h
    obtain ⟨c, hc, rfl⟩ := List.mem_map.1 h
    have hfind : ∀ cs, ∀ a ∈ p.prefixes cs, a <+: cs := fun _ _ ha => ih ha
    exact append_isPrefix (isPrefix_of_mem_required hfind hb) (isPrefix_of_mem_optional hfind hc)
  | group _ _ _ | again _ _ | given _ _ _ _ _ | anchor _ | look _ _ _ _ | once _ _ => cases h

/-- Whether the pattern matches the whole text. -/
def matchesAll (p : Pattern) (cs : List Char) : Bool :=
  (p.run (.start (.start cs)) fun s => if s.cursor.atEnd then some s else none).isSome

theorem matchesAll_iff {p : Pattern} (hp : p.isPlain) {cs : List Char} :
    p.matchesAll cs ↔ cs ∈ p.prefixes cs := by
  rw [matchesAll, run_of_isPlain hp, List.findSome?_isSome_iff]
  have hend (a : List Char) : ((State.start (.start cs)).past a).cursor.atEnd ↔
      cs.length ≤ a.length := by
    simp [Cursor.atEnd, State.start, Cursor.start]
  constructor
  · rintro ⟨a, ha : a ∈ p.prefixes cs, hsome⟩
    split at hsome
    · next h =>
      have heq : a = cs := (isPrefix_of_mem ha).eq_of_length_le ((hend a).1 h)
      exact heq ▸ ha
    · cases hsome
  · intro h
    exact ⟨cs, h, by rw [if_pos ((hend cs).2 le_rfl)]; rfl⟩

theorem head?_prefixes_char {set : CharSet} {x : Char} (hx : set.holds x) (cs : List Char) :
    (prefixes (.char set) (x :: cs)).head? = some [x] := by
  rw [prefixes, if_pos hx]
  rfl

/-- The first match of a sequence is made of first matches, if these go together. -/
theorem head?_prefixes_seq {p q : Pattern} {cs a b : List Char}
    (ha : (p.prefixes cs).head? = some a) (hb : (q.prefixes (cs.drop a.length)).head? = some b) :
    ((seq p q).prefixes cs).head? = some (a ++ b) := by
  obtain ⟨found, hfound⟩ := List.head?_eq_some_iff.1 ha
  rw [prefixes, hfound, List.flatMap_cons, List.head?_append, List.head?_map, hb]
  rfl

/-! ### Loops -/

/-- The pattern any number of times, as often as it can. -/
def star (p : Pattern) : Pattern := .loop 0 none true p

section Star

variable {find : List Char → List (List Char)} (hfind : ∀ cs, ∀ a ∈ find cs, a <+: cs)
  {greedy : Bool} {most : Option ℕ} {ahead ahead' cs : List Char}

include hfind

theorem optionalPrefixes_eq (h : cs.length ≤ ahead.length) :
    optionalPrefixes find greedy ahead most cs =
      if most = some 0 then [[]]
      else
        let more := (find cs).flatMap fun a =>
          if a = [] then [[]]
          else (optionalPrefixes find greedy ahead.tail (most.map (· - 1))
            (cs.drop a.length)).map (a ++ ·)
        if greedy then more ++ [[]] else [[]] ++ more := by
  cases ahead with
  | cons x ahead => rfl
  | nil =>
    obtain rfl : cs = [] := List.eq_nil_of_length_eq_zero (Nat.le_zero.1 h)
    have hmore : ((find []).flatMap fun a =>
        if a = [] then [[]]
        else (optionalPrefixes find greedy [] (most.map (· - 1))
          (List.drop a.length [])).map (a ++ ·)) = find [] := by
      have hnil : ∀ a ∈ find [], a = [] := fun a ha => List.prefix_nil.1 (hfind [] a ha)
      generalize find [] = found at hnil
      induction found with
      | nil => rfl
      | cons a found ih =>
        obtain ⟨rfl, hfound⟩ := List.forall_mem_cons.1 hnil
        rw [List.flatMap_cons, if_pos rfl, ih hfound]
        rfl
    rw [optionalPrefixes]
    simp only [List.tail_nil, hmore]

/-- The text that bounds the rounds does not matter, as long as it is not too short. -/
theorem optionalPrefixes_ahead (h : cs.length ≤ ahead.length) (h' : cs.length ≤ ahead'.length) :
    optionalPrefixes find greedy ahead most cs = optionalPrefixes find greedy ahead' most cs := by
  induction hn : cs.length using Nat.strong_induction_on generalizing ahead ahead' most cs with
  | _ n ih =>
    rw [optionalPrefixes_eq hfind h, optionalPrefixes_eq hfind h']
    have hmore : ∀ a ∈ find cs, a ≠ [] →
        optionalPrefixes find greedy ahead.tail (most.map (· - 1)) (cs.drop a.length) =
          optionalPrefixes find greedy ahead'.tail (most.map (· - 1)) (cs.drop a.length) := by
      intro a ha hne
      have hlength := (hfind cs a ha).length_le
      have hpos := List.length_pos_iff.2 hne
      refine ih (cs.drop a.length).length ?_ ?_ ?_ rfl <;>
        simp only [List.length_drop, List.length_tail] <;> omega
    have hmore' : ((find cs).flatMap fun a =>
        if a = [] then [[]]
        else (optionalPrefixes find greedy ahead.tail (most.map (· - 1))
          (cs.drop a.length)).map (a ++ ·)) = (find cs).flatMap fun a =>
        if a = [] then [[]]
        else (optionalPrefixes find greedy ahead'.tail (most.map (· - 1))
          (cs.drop a.length)).map (a ++ ·) := by
      refine List.flatMap_congr fun a ha => ?_
      split
      · rfl
      · next hne => rw [hmore a ha hne]
    simp only [hmore']

end Star

/-- A loop matches as its body does and goes on behind it, or matches nothing, in the order that
its greed gives. -/
theorem prefixes_loop (greedy : Bool) (p : Pattern) (cs : List Char) :
    (loop 0 none greedy p).prefixes cs =
      let more := (p.prefixes cs).flatMap fun a =>
        if a = [] then [[]] else ((loop 0 none greedy p).prefixes (cs.drop a.length)).map (a ++ ·)
      if greedy then more ++ [[]] else [[]] ++ more := by
  have hfind : ∀ cs, ∀ a ∈ p.prefixes cs, a <+: cs := fun _ _ ha => isPrefix_of_mem ha
  have hloop (cs : List Char) : (loop 0 none greedy p).prefixes cs =
      optionalPrefixes p.prefixes greedy cs none cs := by
    simp [prefixes, requiredPrefixes]
  rw [hloop, optionalPrefixes_eq hfind le_rfl]
  simp only [reduceCtorEq, ↓reduceIte, Option.map_none]
  have hmore : ((p.prefixes cs).flatMap fun a => if a = [] then [[]]
      else (optionalPrefixes p.prefixes greedy cs.tail none (cs.drop a.length)).map (a ++ ·)) =
      (p.prefixes cs).flatMap fun a => if a = [] then [[]]
        else ((loop 0 none greedy p).prefixes (cs.drop a.length)).map (a ++ ·) := by
    refine List.flatMap_congr fun a ha => ?_
    split
    · rfl
    · next hne =>
      -- a round that matches something leaves less of the text, so that fewer rounds will do
      have hlength := (hfind cs a ha).length_le
      have hpos := List.length_pos_iff.2 hne
      rw [hloop, optionalPrefixes_ahead hfind _ le_rfl]
      simp only [List.length_drop, List.length_tail]
      omega
  rw [hmore]

theorem prefixes_star (p : Pattern) (cs : List Char) :
    (star p).prefixes cs = ((p.prefixes cs).flatMap fun a =>
      if a = [] then [[]] else ((star p).prefixes (cs.drop a.length)).map (a ++ ·)) ++ [[]] :=
  prefixes_loop true p cs

/-- A loop that goes on with one match of its body first. -/
theorem head?_prefixes_star {p : Pattern} {cs a b : List Char}
    (ha : (p.prefixes cs).head? = some a) (hne : a ≠ [])
    (hb : ((star p).prefixes (cs.drop a.length)).head? = some b) :
    ((star p).prefixes cs).head? = some (a ++ b) := by
  obtain ⟨found, hfound⟩ := List.head?_eq_some_iff.1 ha
  rw [prefixes_star, hfound, List.flatMap_cons, if_neg hne, List.append_assoc, List.head?_append,
    List.head?_map, hb]
  rfl

theorem prefixes_star_stop {p : Pattern} {cs : List Char} (h : p.prefixes cs = []) :
    (star p).prefixes cs = [[]] := by
  rw [prefixes_star, h]
  rfl

/-- What holds of nothing and stays true when the body matches in front holds of all matches of a
loop. -/
theorem star_induction {p : Pattern} {P : List Char → Prop} (hnil : P [])
    (happend : ∀ cs, ∀ a ∈ p.prefixes cs, ∀ b, P b → P (a ++ b)) {cs a : List Char}
    (h : a ∈ (star p).prefixes cs) : P a := by
  induction hn : cs.length using Nat.strong_induction_on generalizing cs a with
  | _ n ih =>
    rw [prefixes_star, List.mem_append, List.mem_flatMap, List.mem_singleton] at h
    rcases h with ⟨b, hb, h⟩ | rfl
    · split at h
      · rw [List.mem_singleton] at h
        exact h ▸ hnil
      · next hne =>
        obtain ⟨c, hc, rfl⟩ := List.mem_map.1 h
        -- a round that matches something leaves less of the text
        have hlength := (isPrefix_of_mem hb).length_le
        have hpos := List.length_pos_iff.2 hne
        refine happend cs b hb c (ih _ ?_ hc rfl)
        rw [List.length_drop]
        omega
    · exact hnil

/-- What may be left out is matched if it can be. -/
theorem prefixes_optional (p : Pattern) (cs : List Char) :
    (loop 0 (some 1) true p).prefixes cs = p.prefixes cs ++ [[]] := by
  have hlast (ahead cs : List Char) :
      optionalPrefixes p.prefixes true ahead (some 0) cs = [[]] := by
    cases ahead <;> rfl
  cases cs with
  | nil => simp [prefixes, requiredPrefixes, optionalPrefixes]
  | cons x cs =>
    have hone (a : List Char) : (if a = [] then [[]] else [a]) = [a] := by
      split
      · next h => rw [h]
      · rfl
    simp [prefixes, requiredPrefixes, optionalPrefixes, hlast, hone]

/-! ### Loops over one set of characters -/

section CharLoop

variable {set : CharSet} {cs : List Char}

theorem prefixes_star_char_cons {x : Char} (h : set.holds x) :
    (star (.char set)).prefixes (x :: cs) =
      ((star (.char set)).prefixes cs).map (x :: ·) ++ [[]] := by
  rw [prefixes_star, prefixes, if_pos h]
  simp

theorem prefixes_star_char_stop (h : ∀ x ∈ cs.head?, ¬set.holds x) :
    (star (.char set)).prefixes cs = [[]] := by
  refine prefixes_star_stop ?_
  cases cs with
  | nil => rfl
  | cons x cs => rw [prefixes, if_neg (h x rfl)]

/-- A loop over a set is as long as it can be when nothing is accepted where it could go on. -/
theorem findSome?_prefixes_star_char {β : Type} {f : List Char → Option β}
    (h : ∀ a x rest, cs = a ++ x :: rest → set.holds x → f a = none) :
    ((star (.char set)).prefixes cs).findSome? f = f (cs.takeWhile set.holds) := by
  induction cs generalizing f with
  | nil => rw [prefixes_star_char_stop (by simp), List.findSome?_singleton, List.takeWhile_nil]
  | cons x cs ih =>
    by_cases hx : set.holds x
    · have hstop : f [] = none := h [] x cs rfl hx
      have hmore := ih (f := fun a => f (x :: a)) fun a y rest hcs =>
        h (x :: a) y rest (by rw [hcs, List.cons_append])
      rw [prefixes_star_char_cons hx, List.findSome?_append, List.findSome?_singleton, hstop,
        Option.or_none, List.findSome?_map, List.takeWhile_cons_of_pos hx]
      exact hmore
    · rw [prefixes_star_char_stop (by simpa using hx), List.findSome?_singleton,
        List.takeWhile_cons_of_neg hx]

theorem head?_prefixes_star_char :
    ((star (.char set)).prefixes cs).head? = some (cs.takeWhile set.holds) := by
  induction cs with
  | nil => rw [prefixes_star_char_stop (by simp)]; rfl
  | cons x cs ih =>
    by_cases hx : set.holds x
    · rw [prefixes_star_char_cons hx, List.head?_append, List.head?_map, ih,
        List.takeWhile_cons_of_pos hx]
      rfl
    · rw [prefixes_star_char_stop (by simpa using hx), List.takeWhile_cons_of_neg hx]
      rfl

theorem all_of_mem_prefixes_star_char {a : List Char} (h : a ∈ (star (.char set)).prefixes cs) :
    ∀ x ∈ a, set.holds x := by
  refine star_induction (P := fun a => ∀ x ∈ a, set.holds x) (by simp) ?_ h
  intro cs a ha b hb
  obtain ⟨y, rest, -, hy, rfl⟩ := mem_prefixes_char.1 ha
  rw [List.singleton_append, List.forall_mem_cons]
  exact ⟨hy, hb⟩

variable {first : CharSet}

/-- A character of one set and any number of characters of another. -/
theorem exists_of_mem_prefixes_word {a : List Char}
    (h : a ∈ (seq (.char first) (star (.char set))).prefixes cs) :
    ∃ x xs, a = x :: xs ∧ first.holds x ∧ ∀ y ∈ xs, set.holds y := by
  obtain ⟨b, hb, xs, hxs, rfl⟩ := mem_prefixes_seq.1 h
  obtain ⟨x, rest, -, hx, rfl⟩ := mem_prefixes_char.1 hb
  exact ⟨x, xs, rfl, hx, all_of_mem_prefixes_star_char hxs⟩

theorem head?_prefixes_word {x : Char} {xs rest : List Char} (hx : first.holds x)
    (hxs : ∀ y ∈ xs, set.holds y) (hrest : ∀ y ∈ rest.head?, ¬set.holds y) :
    ((seq (.char first) (star (.char set))).prefixes (x :: (xs ++ rest))).head? =
      some (x :: xs) := by
  have hstop : rest.takeWhile set.holds = [] := by
    cases rest with
    | nil => rfl
    | cons y rest => exact List.takeWhile_cons_of_neg (hrest y rfl)
  have htail : ((star (.char set)).prefixes (xs ++ rest)).head? = some xs := by
    rw [head?_prefixes_star_char, List.takeWhile_append_of_pos hxs, hstop, List.append_nil]
  exact head?_prefixes_seq (head?_prefixes_char hx _) htail

end CharLoop

/-! ### Loops that end as soon as they can -/

section Lazy

variable {set : CharSet} {q : Pattern} {cs a b rest : List Char}

/-- The loop ends at once if what is behind it matches there. -/
theorem head?_prefixes_lazy_stop {p : Pattern} (hb : (q.prefixes cs).head? = some b) :
    ((seq (loop 0 none false p) q).prefixes cs).head? = some b := by
  have hstop : ((loop 0 none false p).prefixes cs).head? = some [] := by
    rw [prefixes_loop]
    rfl
  exact head?_prefixes_seq hstop hb

/-- The loop takes one character more where what is behind it does not match. -/
theorem prefixes_lazy_cons {x : Char} (hx : set.holds x) (hq : q.prefixes (x :: cs) = []) :
    (seq (loop 0 none false (.char set)) q).prefixes (x :: cs) =
      ((seq (loop 0 none false (.char set)) q).prefixes cs).map (x :: ·) := by
  have hloop : (loop 0 none false (.char set)).prefixes (x :: cs) =
      [] :: ((loop 0 none false (.char set)).prefixes cs).map (x :: ·) := by
    rw [prefixes_loop, prefixes, if_pos hx]
    simp
  rw [prefixes, prefixes, hloop, List.flatMap_cons, List.length_nil, List.drop_zero, hq,
    List.map_nil, List.nil_append, List.flatMap_map, List.map_flatMap]
  refine List.flatMap_congr fun a _ => ?_
  rw [List.length_cons, List.drop_succ_cons, List.map_map]
  rfl

/-- The loop goes on up to the first place where what is behind it matches. -/
theorem head?_prefixes_lazy (ha : ∀ x ∈ a, set.holds x)
    (hq : ∀ e, e <:+ a → e ≠ [] → q.prefixes (e ++ rest) = [])
    (hb : (q.prefixes rest).head? = some b) :
    ((seq (loop 0 none false (.char set)) q).prefixes (a ++ rest)).head? = some (a ++ b) := by
  induction a with
  | nil => exact head?_prefixes_lazy_stop hb
  | cons x a ih =>
    obtain ⟨hx, ha⟩ := List.forall_mem_cons.1 ha
    have hmore := ih ha fun e he => hq e (he.trans (List.suffix_cons x a))
    have hstop : q.prefixes (x :: (a ++ rest)) = [] := hq (x :: a) List.suffix_rfl (by simp)
    rw [List.cons_append, prefixes_lazy_cons hx hstop, List.head?_map, hmore]
    rfl

end Lazy

/-! ### How a match starts -/

/-- The set that holds the first character of each match, if the pattern starts with one. -/
def headSet? : Pattern → Option CharSet
  | .char set => some set
  | .seq p _ => p.headSet?
  | _ => none

theorem prefixes_of_head {p : Pattern} {set : CharSet} (h : p.headSet? = some set) {cs : List Char}
    (hcs : ∀ x ∈ cs.head?, ¬set.holds x) : p.prefixes cs = [] := by
  induction p with
  | char set' =>
    cases h
    cases cs with
    | nil => rfl
    | cons x cs => rw [prefixes, if_neg (hcs x rfl)]
  | seq p q ihp _ => rw [prefixes, ihp h, List.flatMap_nil]
  | empty | alt _ _ _ _ | loop _ _ _ _ _ | group _ _ _ | again _ _ | given _ _ _ _ _ | anchor _
    | look _ _ _ _ | once _ _ => cases h

end Pattern

end OrderedGrammar
