import OrderedGrammar.Proofs.Pattern.Groups

/-!
# Reading ahead of a closing parenthesis

What the reader takes from the front of a text on its own, it takes as well when a closing
parenthesis comes behind the text: each of its small readers goes as far in both (`Carries`).  Where
one fails on the text alone, it fails in front of the parenthesis too, or it takes the parenthesis
for something else, and then nothing is left to read.

## Main definitions

* `Source.Closed` : a source and the same with a parenthesis behind it.
* `Follows` : two readings that come to results in some relation, if the first comes to one.
* `Carries` : a reading of a source and the same reading ahead of the parenthesis.
-/

namespace OrderedGrammar.Pattern

variable {n : ℕ} {s s' t : Source} {start start' : ℕ}

/-- The source `s'` has a closing parenthesis behind what there is of `s`, which is `n` characters
at most.  The positions may differ. -/
def Source.Closed (n : ℕ) (s s' : Source) : Prop := s'.rest = s.rest ++ [')'] ∧ s.rest.length ≤ n

/-- The results of two readings are related, or the first has none; then a result of the other is
`lost`. -/
inductive Follows {α β : Type} (R : α → β → Prop) (lost : β → Prop) : Reading α → Reading β → Prop
  | ok {a : α} {b : β} : R a b → Follows R lost (.ok a) (.ok b)
  | error {e : Fault × Option ℕ} {y : Reading β} : (∀ b, y = .ok b → lost b) →
      Follows R lost (.error e) y

namespace Follows

variable {α β α' β' : Type} {R : α → β → Prop} {R' : α' → β' → Prop} {lost : β → Prop}
  {lost' : β' → Prop} {x : Reading α} {y : Reading β}

theorem of_ok (h : Follows R lost x y) {a : α} (hx : x = .ok a) : ∃ b, y = .ok b ∧ R a b := by
  cases h with
  | ok hab =>
    cases hx
    exact ⟨_, rfl, hab⟩
  | error => cases hx

theorem of_eq (h : ∀ x' y', x = x' → y = y' → Follows R lost x' y') : Follows R lost x y :=
  h x y rfl rfl

theorem of_not_ok (hx : ∀ a, x ≠ .ok a) (hy : ∀ b, y = .ok b → lost b) : Follows R lost x y := by
  cases x with
  | ok a => exact absurd rfl (hx a)
  | error e => exact .error hy

theorem refuse {fault fault' : Fault} {position position' : ℕ} :
    Follows R lost (Pattern.refuse fault position) (Pattern.refuse fault' position') :=
  .error nofun

theorem bind (h : Follows R lost x y) {f : α → Reading α'} {g : β → Reading β'}
    (hfg : ∀ a b, R a b → Follows R' lost' (f a) (g b))
    (hlost : ∀ b, lost b → ∀ b', g b = .ok b' → lost' b') :
    Follows R' lost' (x >>= f) (y >>= g) := by
  cases h with
  | ok hab => exact hfg _ _ hab
  | error hy =>
    refine .error fun b' hb' => ?_
    obtain ⟨b, hb, hg⟩ := Reader.exists_of_bind hb'
    exact hlost b (hy b hb) b' hg

end Follows

/-- A reading of a source, and one ahead of a parenthesis that comes to the same with as much to go
on with, unless nothing is left for it. -/
abbrev Carries {α : Type} (n : ℕ) (x y : Reading (α × Source)) : Prop :=
  Follows (fun a b => b.1 = a.1 ∧ a.2.Closed n b.2) (fun b => b.2.rest = []) x y

namespace Source.Closed

variable (h : s.Closed n s')

include h

theorem mono {m : ℕ} (hnm : n ≤ m) : s.Closed m s' := ⟨h.1, Nat.le_trans h.2 hnm⟩

theorem cons {c : Char} {rest : List Char} (hrest : s.rest = c :: rest) :
    s'.rest = c :: (rest ++ [')']) := by
  rw [h.1, hrest, List.cons_append]

/-- Ahead of the parenthesis a character comes first where it came first before. -/
theorem not_cons {c : Char} (hc : c ≠ ')') (hs : ∀ rest, s.rest = c :: rest → False)
    {rest : List Char} (hs' : s'.rest = c :: rest) : False := by
  rw [h.1] at hs'
  cases hrest : s.rest with
  | nil =>
    rw [hrest] at hs'
    exact hc (List.cons.inj hs').1.symm
  | cons x xs =>
    rw [hrest] at hs'
    exact hs xs (hrest.trans (by rw [(List.cons.inj hs').1]))

theorem drop {k : ℕ} (hk : k ≤ s.rest.length) : (s.drop k).Closed (n - k) (s'.drop k) := by
  refine ⟨?_, ?_⟩
  · rw [Source.drop, Source.drop, h.1, List.drop_append_of_le_length hk]
  · rw [Source.drop, List.length_drop]
    exact Nat.sub_le_sub_right h.2 k

theorem drop_le {k : ℕ} (hk : k ≤ s.rest.length) : (s.drop k).Closed n (s'.drop k) :=
  (h.drop hk).mono (Nat.sub_le n k)

theorem drop_one {c : Char} {rest : List Char} (hrest : s.rest = c :: rest) :
    (s.drop 1).Closed n (s'.drop 1) :=
  h.drop_le (by simp [hrest])

/-- What is taken up to the end of the text is taken up to the parenthesis. -/
theorem takeUpTo (limit : ℕ) {allowed : Char → Bool} (hallowed : allowed ')' = false) :
    (s'.takeUpTo limit allowed).1 = (s.takeUpTo limit allowed).1 ∧
      (s.takeUpTo limit allowed).2.Closed n (s'.takeUpTo limit allowed).2 := by
  have htaken : (s'.rest.take limit).takeWhile allowed = (s.rest.take limit).takeWhile allowed := by
    have hnone : (List.take (limit - s.rest.length) [')']).takeWhile allowed = [] := by
      cases limit - s.rest.length <;> simp [hallowed]
    rw [h.1, List.take_append, List.takeWhile_append, hnone, List.append_nil]
    split
    · next hall =>
      exact ((List.takeWhile_prefix allowed).eq_of_length hall).symm
    · rfl
  refine ⟨htaken, ?_⟩
  simp only [Source.takeUpTo, htaken]
  exact h.drop_le (Nat.le_trans (List.takeWhile_prefix _).length_le (List.length_take_le' _ _))

theorem takeWhile {allowed : Char → Bool} (hallowed : allowed ')' = false) :
    (s'.takeWhile allowed).1 = (s.takeWhile allowed).1 ∧
      (s.takeWhile allowed).2.Closed n (s'.takeWhile allowed).2 := by
  have htaken : s'.rest.takeWhile allowed = s.rest.takeWhile allowed := by
    rw [h.1, List.takeWhile_append]
    split
    · next hall => simp [hallowed, (List.takeWhile_prefix allowed).eq_of_length hall]
    · rfl
  refine ⟨htaken, ?_⟩
  simp only [Source.takeWhile, htaken]
  exact h.drop_le (List.takeWhile_prefix _).length_le

omit h in
theorem unit?_cons {c : Char} {rest : List Char} (hc : c ≠ '\\') (hrest : s.rest = c :: rest) :
    s.unit? = some ([c], s.drop 1) := by
  unfold Source.unit?
  rw [hrest]
  split
  · next heq => cases heq
  · next heq => exact absurd (List.cons.inj heq).1 hc
  · next heq => exact absurd (List.cons.inj heq).1 hc
  · next heq => rw [(List.cons.inj heq).1]

/-- A backslash that ends the text takes the parenthesis with it, and the parenthesis is one more
unit at the end; no other unit changes. -/
theorem unit?_cases :
    (∃ unit t t', s.unit? = some (unit, t) ∧ s'.unit? = some (unit, t') ∧ t.Closed n t' ∧
        t.rest.length < s.rest.length) ∨
      (s.unit? = none ∧ ∃ t', s'.unit? = some ([')'], t') ∧ t'.rest = []) ∨
      ∃ t t', s.unit? = some (['\\'], t) ∧ s'.unit? = some (['\\', ')'], t') ∧ t.rest = [] ∧
        t'.rest = [] := by
  obtain ⟨rest, position⟩ := s
  obtain ⟨rest', position'⟩ := s'
  have hclosed := h
  obtain ⟨rfl, -⟩ := h
  cases rest with
  | nil => exact .inr (.inl ⟨rfl, _, unit?_cons (by decide) rfl, rfl⟩)
  | cons c rest =>
    by_cases hc : c = '\\'
    · subst hc
      cases rest with
      | nil => exact .inr (.inr ⟨_, _, rfl, rfl, rfl, rfl⟩)
      | cons c rest =>
        refine .inl ⟨['\\', c], _, _, rfl, rfl, hclosed.drop_le (by simp), ?_⟩
        exact Nat.lt_succ_of_lt (Nat.lt_succ_self rest.length)
    · refine .inl ⟨[c], _, _, unit?_cons hc rfl, unit?_cons hc rfl, hclosed.drop_one rfl, ?_⟩
      simp [Source.drop]

end Source.Closed

namespace Carries

variable {α β : Type} {x y : Reading (α × Source)}

theorem same {a : α} {t t' : Source} (h : t.Closed n t') :
    Carries n (.ok (a, t)) (.ok (a, t')) := .ok ⟨rfl, h⟩

theorem mono {m : ℕ} (h : Carries n x y) (hnm : n ≤ m) : Carries m x y := by
  cases h with
  | ok hab => exact .ok ⟨hab.1, hab.2.mono hnm⟩
  | error hy => exact .error hy

theorem exists_closed (h : Carries n x y) {a : α} {t : Source} (hx : x = .ok (a, t)) :
    ∃ t', y = .ok (a, t') ∧ t.Closed n t' := by
  obtain ⟨⟨a', t'⟩, hy, rfl, ht⟩ := h.of_ok hx
  exact ⟨t', hy, ht⟩

theorem andThen (h : Carries n x y) {f g : α × Source → Reading (β × Source)}
    (hfg : ∀ a t t', t.Closed n t' → Carries n (f (a, t)) (g (a, t')))
    (hlost : ∀ a t', t'.rest = [] → ∀ b, g (a, t') = .ok b → b.2.rest = []) :
    Carries n (x >>= f) (y >>= g) := by
  refine h.bind (fun ⟨a, t⟩ ⟨a', t'⟩ hat => ?_) fun ⟨a, t'⟩ ht' => hlost a t' ht'
  obtain ⟨rfl, ht⟩ := hat
  exact hfg _ t t' ht

/-- What is made of the result does not matter. -/
theorem map (h : Carries n x y) (φ : α → β) :
    Carries n (x >>= fun a => pure (φ a.1, a.2)) (y >>= fun a => pure (φ a.1, a.2)) := by
  refine h.andThen (fun a t t' ht => .same ht) fun a t' ht' b hb => ?_
  cases hb
  exact ht'

end Carries

/-! ### Names -/

theorem splitAt?_cons {terminator c : Char} (hc : c ≠ '\\') (cs : List Char) :
    Source.splitAt? terminator (c :: cs) =
      if c == terminator then some ([], cs)
      else (Source.splitAt? terminator cs).map fun (text, rest) => (c :: text, rest) := by
  rw [Source.splitAt?]
  exact fun _ _ h => absurd h hc

theorem splitAt?_append {terminator : Char} (hterminator : terminator ≠ '\\')
    {cs text rest : List Char} (more : List Char)
    (h : Source.splitAt? terminator cs = some (text, rest)) :
    Source.splitAt? terminator (cs ++ more) = some (text, rest ++ more) ∧
      rest.length ≤ cs.length := by
  fun_induction Source.splitAt? terminator cs generalizing text rest with
  | case1 => cases h
  | case2 c cs ih =>
    obtain ⟨⟨text', rest'⟩, hsplit, heq⟩ := Option.map_eq_some_iff.1 h
    cases heq
    obtain ⟨happend, hle⟩ := ih hsplit
    refine ⟨?_, by simp only [List.length_cons]; omega⟩
    rw [List.cons_append, List.cons_append, Source.splitAt?, happend]
    rfl
  | case3 c cs hne hc =>
    cases h
    have hc' : c ≠ '\\' := fun h => hterminator ((beq_iff_eq.1 hc).symm.trans h)
    rw [List.cons_append, splitAt?_cons hc', if_pos hc]
    exact ⟨rfl, by simp⟩
  | case4 c cs hne hc ih =>
    obtain ⟨⟨text', rest'⟩, hsplit, heq⟩ := Option.map_eq_some_iff.1 h
    cases heq
    have hc' : c ≠ '\\' := fun hslash => by
      cases cs with
      | nil => cases hsplit
      | cons x cs => exact hne x cs hslash rfl
    obtain ⟨happend, hle⟩ := ih hsplit
    refine ⟨?_, by simp only [List.length_cons]; omega⟩
    rw [List.cons_append, splitAt?_cons hc', if_neg hc, happend]
    rfl

/-- What ends with the parenthesis only, ends with the text. -/
theorem rest_of_splitAt?_append {terminator : Char} {cs text rest : List Char}
    (h : Source.splitAt? terminator cs = none)
    (h' : Source.splitAt? terminator (cs ++ [')']) = some (text, rest)) : rest = [] := by
  have hmap {cs text rest : List Char} {φ : List Char × List Char → List Char × List Char}
      (h : (Source.splitAt? terminator cs).map φ = some (text, rest)) (hφ : ∀ p, (φ p).2 = p.2) :
      ∃ text', Source.splitAt? terminator cs = some (text', rest) := by
    obtain ⟨⟨text', rest'⟩, hsplit, heq⟩ := Option.map_eq_some_iff.1 h
    obtain rfl : rest' = rest := (hφ _).symm.trans (congrArg Prod.snd heq)
    exact ⟨text', hsplit⟩
  fun_induction Source.splitAt? terminator cs generalizing text with
  | case1 =>
    rw [List.nil_append, splitAt?_cons (by decide)] at h'
    split at h'
    · cases h'
      rfl
    · cases h'
  | case2 c cs ih =>
    rw [List.cons_append, List.cons_append, Source.splitAt?] at h'
    obtain ⟨text', hsplit⟩ := hmap h' fun _ => rfl
    exact ih (Option.map_eq_none_iff.1 h) hsplit
  | case3 => cases h
  | case4 c cs hne hc ih =>
    by_cases hslash : c = '\\'
    · cases cs with
      | nil =>
        subst hslash
        cases h'
      | cons x cs => exact (hne x cs hslash rfl).elim
    · rw [List.cons_append, splitAt?_cons hslash, if_neg hc] at h'
      obtain ⟨text', hsplit⟩ := hmap h' fun _ => rfl
      exact ih (Option.map_eq_none_iff.1 h) hsplit

/-- What ends ahead of the parenthesis ends there all the same. -/
theorem Source.Closed.takeUntil? (h : s.Closed n s') {terminator : Char}
    (hterminator : terminator ≠ '\\') {text : List Char}
    (hs : s.takeUntil? terminator = some (text, t)) :
    ∃ t', s'.takeUntil? terminator = some (text, t') ∧ t.Closed n t' := by
  obtain ⟨⟨text', rest⟩, hsplit, heq⟩ := Option.map_eq_some_iff.1 hs
  cases heq
  obtain ⟨happend, hle⟩ := splitAt?_append hterminator [')'] hsplit
  refine ⟨⟨rest ++ [')'], s'.position + text.length + 1⟩, ?_, rfl, Nat.le_trans hle h.2⟩
  rw [Source.takeUntil?, h.1, happend]
  rfl

/-- What ends in front of the parenthesis, and not without it, leaves nothing behind. -/
theorem Source.Closed.rest_of_takeUntil? (h : s.Closed n s') {terminator : Char}
    (hs : s.takeUntil? terminator = none) {text : List Char} {t' : Source}
    (hs' : s'.takeUntil? terminator = some (text, t')) : t'.rest = [] := by
  obtain ⟨⟨text', rest⟩, hsplit, heq⟩ := Option.map_eq_some_iff.1 hs'
  cases heq
  rw [h.1] at hsplit
  exact rest_of_splitAt?_append (Option.map_eq_none_iff.1 hs) hsplit

namespace Carries

variable (h : s.Closed n s')

include h

theorem readName {terminator : Char} (hterminator : terminator ≠ '\\') {noun : String} :
    Carries n (s.readName terminator noun) (s'.readName terminator noun) := by
  unfold Source.readName
  cases htake : s.takeUntil? terminator with
  | none =>
    refine .error fun b hb => ?_
    split at hb
    · cases hb
    · cases hb
    · next htake' =>
      cases hb
      exact h.rest_of_takeUntil? htake htake'
  | some found =>
    obtain ⟨name, t⟩ := found
    obtain ⟨t', htake', ht⟩ := h.takeUntil? hterminator htake
    rw [htake']
    cases name with
    | nil => exact .refuse
    | cons c name => exact .same ht

theorem readHexEscape {letter : Char} {length : ℕ} :
    Carries n (Pattern.readHexEscape letter length s start)
      (Pattern.readHexEscape letter length s' start') := by
  have hhex : isHex ')' = false := by decide
  obtain ⟨htaken, ht⟩ := h.takeUpTo length hhex
  unfold Pattern.readHexEscape
  dsimp only
  rw [htaken]
  split
  · exact .refuse
  · split
    · exact .refuse
    · exact .same ht

theorem readNamedEscape :
    Carries n (Pattern.readNamedEscape s start) (Pattern.readNamedEscape s' start') := by
  unfold Pattern.readNamedEscape
  split
  · next rest hrest =>
    rw [h.cons hrest]
    refine (readName (h.drop_one hrest) (by decide)).andThen (fun name t t' ht => ?_)
      fun name t' ht' b hb => ?_
    · dsimp only
      split
      · exact .same ht
      · exact .refuse
    · dsimp only at hb
      split at hb
      · cases hb
        exact ht'
      · cases hb
  · next hbrace =>
    split
    · next hrest => exact (h.not_cons (by decide) hbrace hrest).elim
    · exact .refuse

theorem readCharEscape {c : Char} :
    Carries n (Pattern.readCharEscape c s start) (Pattern.readCharEscape c s' start') := by
  unfold Pattern.readCharEscape
  split
  · exact readHexEscape h
  · exact .same h
  · split
    · exact readNamedEscape h
    · split
      · exact .refuse
      · exact .same h

theorem readOctal {digits : List Char} :
    Carries n (Pattern.readOctal digits s start) (Pattern.readOctal digits s' start') := by
  unfold Pattern.readOctal
  split
  · exact .refuse
  · exact .same h

/-! ### Sets -/

theorem readSetEscape {ascii : Bool} {c : Char} :
    Carries n (Pattern.readSetEscape ascii c s start)
      (Pattern.readSetEscape ascii c s' start') := by
  unfold Pattern.readSetEscape
  split
  · exact .same h
  · dsimp only
    split
    · have hoctal : isOctal ')' = false := by decide
      obtain ⟨htaken, ht⟩ := h.takeUpTo 2 hoctal
      rw [htaken]
      exact (readOctal ht).map CharItem.one
    · exact (readCharEscape h).map CharItem.one

theorem readSetUnit {ascii : Bool} {unit : List Char} :
    Carries n (Pattern.readSetUnit ascii unit s start)
      (Pattern.readSetUnit ascii unit s' start') := by
  unfold Pattern.readSetUnit
  split
  · exact readSetEscape h
  · exact .same h
  · exact .refuse

end Carries

/-- A set does not end with the text. -/
theorem readSetItems_ne_ok {ascii : Bool} {opening fuel : ℕ} {items : List CharItem}
    (h : s.rest = []) (found : List CharItem × Source) :
    readSetItems ascii opening fuel items s ≠ .ok found := by
  cases fuel with
  | zero => exact nofun
  | succ fuel =>
    rw [readSetItems, Source.unit?, h]
    exact nofun

namespace Carries

/-- A member of a set, and what is read behind it.  A bracket `closes` the set or stands for itself,
and so do the units at the end of either text, behind which nothing can be read. -/
theorem member {α : Type} {ascii : Bool} {fault : Fault} {opening opening' : ℕ}
    (h : s.Closed n s') {closes : List Char → Bool} (hcloses : ∀ unit, closes unit → unit = [']'])
    {close close' : Source → Reading (α × Source)}
    {f f' : List Char → CharItem × Source → Reading (α × Source)}
    (hclose : ∀ t t', t.Closed (n - 1) t' → Carries n (close t) (close' t'))
    (hf : 0 < n → ∀ unit item t t', t.Closed (n - 1) t' →
      Carries n (f unit (item, t)) (f' unit (item, t')))
    (hspent : ∀ unit item t, t.rest = [] → ∀ b, f unit (item, t) ≠ .ok b)
    (hspent' : ∀ unit item t, t.rest = [] → ∀ b, f' unit (item, t) ≠ .ok b) :
    Carries n
      (match s.unit? with
        | none => refuse fault opening
        | some (unit, t) =>
          if closes unit then close t else Pattern.readSetUnit ascii unit t start >>= f unit)
      (match s'.unit? with
        | none => refuse fault opening'
        | some (unit, t) =>
          if closes unit then close' t
          else Pattern.readSetUnit ascii unit t start' >>= f' unit) := by
  have hparen : ¬closes [')'] := fun h => absurd (hcloses _ h) (by decide)
  have hslash : ¬closes ['\\'] := fun h => absurd (hcloses _ h) (by decide)
  have hescape : ¬closes ['\\', ')'] := fun h => absurd (hcloses _ h) (by decide)
  rcases h.unit?_cases with ⟨unit, t, t', hunit, hunit', ht, hlt⟩ |
    ⟨hunit, t', hunit', ht'⟩ | ⟨t, t', hunit, hunit', ht, ht'⟩
  -- both read the same unit, or the one text is at its end and the other has the parenthesis there,
  -- or the text ends in a backslash, which escapes the parenthesis behind it
  · have hn : 0 < n := Nat.lt_of_lt_of_le (Nat.zero_lt_of_lt hlt) h.2
    replace ht : t.Closed (n - 1) t' := ⟨ht.1, Nat.le_sub_one_of_lt (Nat.lt_of_lt_of_le hlt h.2)⟩
    rw [hunit, hunit']
    dsimp only
    split
    · exact hclose t t' ht
    · refine (readSetUnit ht).bind ?_ ?_
      · rintro ⟨item, u⟩ ⟨_, u'⟩ ⟨rfl, hu⟩
        exact hf hn unit _ u u' hu
      · rintro ⟨item, u'⟩ hu' b hb
        exact absurd hb (hspent' unit item u' hu' b)
  · rw [hunit, hunit']
    dsimp only
    rw [if_neg hparen]
    exact .error fun b hb => absurd hb (hspent' _ _ t' ht' b)
  · rw [hunit, hunit']
    dsimp only
    rw [if_neg hslash, if_neg hescape]
    exact .of_not_ok (hspent _ _ t ht) fun b hb => absurd hb (hspent' _ _ t' ht' b)

theorem readSetItems {ascii : Bool} {opening opening' fuel fuel' : ℕ} {items : List CharItem}
    (h : s.Closed n s') (hfuel : n < fuel) (hfuel' : n < fuel') :
    Carries n (Pattern.readSetItems ascii opening fuel items s)
      (Pattern.readSetItems ascii opening' fuel' items s') := by
  induction fuel generalizing n fuel' items s s' with
  | zero => exact absurd hfuel (Nat.not_lt_zero n)
  | succ fuel ih =>
    obtain ⟨fuel', rfl⟩ : ∃ k, fuel' = k + 1 := ⟨fuel' - 1, by omega⟩
    have hle : n - 1 ≤ n := Nat.sub_le n 1
    have hnext (hn : 0 < n) {items : List CharItem} {s s' : Source} (h : s.Closed (n - 1) s') :
        Carries n (Pattern.readSetItems ascii opening fuel items s)
          (Pattern.readSetItems ascii opening' fuel' items s') :=
      (ih h (by omega) (by omega)).mono hle
    rw [Pattern.readSetItems, Pattern.readSetItems]
    refine member h (fun unit hclose => beq_iff_eq.1 (Bool.and_eq_true_iff.1 hclose).1)
      (fun t t' ht => .same (ht.mono hle)) (fun hn unit item t t' ht => ?_)
      (fun unit item t ht b => ?_) fun unit item t ht b => ?_
    · dsimp only
      split
      · -- a hyphen, and behind it the bracket or the other end of a range
        next hrest =>
        rw [ht.cons hrest]
        refine member ((ht.drop_one hrest).mono hle) (fun unit' => beq_iff_eq.1)
          (fun u u' hu => .same (hu.mono hle)) (fun _ unit' item' u u' hu => ?_)
          (fun unit' item' u hu b => ?_) fun unit' item' u hu b => ?_
        · dsimp only
          split
          · exact hnext hn hu
          · exact .refuse
        · dsimp only
          split
          · exact readSetItems_ne_ok hu b
          · exact nofun
        · dsimp only
          split
          · exact readSetItems_ne_ok hu b
          · exact nofun
      · next hhyphen =>
        split
        · next hrest => exact (ht.not_cons (by decide) hhyphen hrest).elim
        · exact hnext hn ht
    · dsimp only
      rw [ht]
      exact readSetItems_ne_ok ht b
    · dsimp only
      rw [ht]
      exact readSetItems_ne_ok ht b

theorem readSet {flags : Flags} {opening opening' : ℕ} (h : s.Closed n s') :
    Carries n (Pattern.readSet flags s opening) (Pattern.readSet flags s' opening') := by
  have hitems {s s' : Source} (h : s.Closed n s') (negated : Bool) :
      Carries n
        (Pattern.readSetItems flags.ascii opening (s.rest.length + 1) [] s >>= fun x =>
          pure (CharSet.ofItems x.1 negated flags.caseRule, x.2))
        (Pattern.readSetItems flags.ascii opening' (s'.rest.length + 1) [] s' >>= fun x =>
          pure (CharSet.ofItems x.1 negated flags.caseRule, x.2)) := by
    have hrest : s.Closed s.rest.length s' := ⟨h.1, Nat.le_refl _⟩
    have hlength : s'.rest.length = s.rest.length + 1 := by simp [h.1]
    have hfuel : s.rest.length < s'.rest.length + 1 := by omega
    exact ((readSetItems hrest (Nat.lt_succ_self _) hfuel).mono h.2).map
      fun items => CharSet.ofItems items negated flags.caseRule
  unfold Pattern.readSet
  split
  next negated u hu =>
  split
  next negated' u' hu' =>
  split at hu
  · next rest hrest =>
    rw [h.cons hrest] at hu'
    cases hu
    cases hu'
    exact hitems (h.drop_one hrest) true
  · next hcaret =>
    cases hu
    split at hu'
    · next hrest => exact (h.not_cons (by decide) hcaret hrest).elim
    · cases hu'
      exact hitems h false

end Carries

/-! ### Bounds, names and flags -/

theorem Source.Closed.digits (h : s.Closed n s') {t' : Source} {cs cs' : List Char}
    (hs : s.takeWhile Char.isDigit = (cs, t)) (hs' : s'.takeWhile Char.isDigit = (cs', t')) :
    cs' = cs ∧ t.Closed n t' := by
  have hdigit : Char.isDigit ')' = false := by decide
  have htaken := h.takeWhile hdigit
  rwa [hs, hs'] at htaken

/-- A comma between two bounds comes first in both or in neither. -/
theorem Source.Closed.comma (h : s.Closed n s') {t' : Source} {comma comma' : Bool}
    (hs : (match s.rest with | ',' :: _ => (true, s.drop 1) | _ => (false, s)) = (comma, t))
    (hs' : (match s'.rest with | ',' :: _ => (true, s'.drop 1) | _ => (false, s')) = (comma', t')) :
    comma' = comma ∧ t.Closed n t' := by
  split at hs
  · next rest hrest =>
    rw [h.cons hrest] at hs'
    cases hs
    cases hs'
    exact ⟨rfl, h.drop_one hrest⟩
  · next hnone =>
    cases hs
    split at hs'
    · next hrest => exact (h.not_cons (by decide) hnone hrest).elim
    · cases hs'
      exact ⟨rfl, h⟩

/-- The second bound, which is the first one again where no comma comes before it. -/
theorem Source.Closed.secondBound (h : s.Closed n s') {t' : Source} {comma : Bool}
    {low high high' : List Char}
    (hs : (if comma then s.takeWhile Char.isDigit else (low, s)) = (high, t))
    (hs' : (if comma then s'.takeWhile Char.isDigit else (low, s')) = (high', t')) :
    high' = high ∧ t.Closed n t' := by
  split at hs
  · next hcomma => exact h.digits hs ((if_pos hcomma).symm.trans hs')
  · next hcomma =>
    rw [if_neg hcomma] at hs'
    cases hs
    cases hs'
    exact ⟨rfl, h⟩

/-- Bounds are read as they are, and a brace that starts no bounds starts none. -/
theorem Source.Closed.readBounds (h : s.Closed n s') {c : Char} :
    Follows (Option.Rel fun b b' => b'.1 = b.1 ∧ b'.2.1 = b.2.1 ∧ b.2.2.Closed n b'.2.2)
      (fun _ => False) (Pattern.readBounds c s) (Pattern.readBounds c s') := by
  unfold Pattern.readBounds
  split
  · exact .ok (.some ⟨rfl, rfl, h⟩)
  · exact .ok (.some ⟨rfl, rfl, h⟩)
  · exact .ok (.some ⟨rfl, rfl, h⟩)
  refine .of_eq fun x y hx hy => ?_
  -- the two bounds and the comma, one after the other in both
  split at hx
  next low s₁ hlow =>
  split at hy
  next low' s₁' hlow' =>
  obtain ⟨rfl, h₁⟩ := h.digits hlow hlow'
  split at hx
  next comma s₂ hcomma =>
  split at hy
  next comma' s₂' hcomma' =>
  obtain ⟨rfl, h₂⟩ := h₁.comma hcomma hcomma'
  split at hx
  next high s₃ hhigh =>
  split at hy
  next high' s₃' hhigh' =>
  obtain ⟨rfl, h₃⟩ := h₂.secondBound hhigh hhigh'
  have hhead : s'.rest.head? = some '}' ↔ s.rest.head? = some '}' := by
    rw [h.1]
    cases s.rest <;> simp
  subst hx hy
  split
  · next rest hrest =>
    rw [h₃.cons hrest]
    by_cases hbrace : s.rest.head? = some '}'
    · rw [if_pos hbrace, if_pos (hhead.2 hbrace)]
      exact .ok .none
    · rw [if_neg hbrace, if_neg (mt hhead.1 hbrace)]
      dsimp only
      generalize (if high'.isEmpty then none else some (numeral 10 high')) = most
      split
      · exact .error nofun
      · split
        · exact .refuse
        · exact .ok (.some ⟨rfl, rfl, h₃.drop_one hrest⟩)
  · next hbrace =>
    split
    · next hrest => exact (h₃.not_cons (by decide) hbrace hrest).elim
    · exact .ok .none

namespace Carries

theorem readGroupName {terminator : Char} (h : s.Closed n s') (hterminator : terminator ≠ '\\') :
    Carries n (Reader.readGroupName s terminator) (Reader.readGroupName s' terminator) := by
  unfold Reader.readGroupName
  refine (readName h hterminator).andThen (fun name t t' ht => ?_) fun name t' ht' b hb => ?_
  · dsimp only
    split
    · exact .same ht
    · exact .refuse
  · dsimp only at hb
    split at hb
    · cases hb
      exact ht'
    · cases hb

theorem readOff {off : List Flag} {any : Bool} {cs : List Char} {position position' : ℕ}
    (hn : cs.length ≤ n) :
    Carries n (FlagChange.readOff off any position cs)
      (FlagChange.readOff off any position' (cs ++ [')'])) := by
  induction cs generalizing off any position position' with
  | nil =>
    have hcolon : ¬(any && ')' == ':') := by simp
    rw [List.nil_append, FlagChange.readOff, FlagChange.readOff, if_neg hcolon]
    exact .refuse
  | cons c cs ih =>
    rw [List.length_cons] at hn
    rw [List.cons_append, FlagChange.readOff, FlagChange.readOff]
    split
    · exact .same ⟨rfl, by simpa using Nat.le_of_succ_le hn⟩
    · split
      · split
        · exact .refuse
        · exact ih (Nat.le_of_succ_le hn)
      · exact .refuse

/-- The parenthesis ends flags that nothing ends before it. -/
theorem readOn {on : List Flag} {cs : List Char} {position position' : ℕ} (hn : cs.length ≤ n) :
    Follows (fun a b => b.1 = a.1 ∧ b.2.1 = a.2.1 ∧ a.2.2.Closed n b.2.2)
      (fun b => b.2.2.rest = []) (FlagChange.readOn on position cs)
      (FlagChange.readOn on position' (cs ++ [')'])) := by
  induction cs generalizing on position position' with
  | nil =>
    refine .error fun b hb => ?_
    cases hb
    rfl
  | cons c cs ih =>
    rw [List.length_cons] at hn
    rw [List.cons_append, FlagChange.readOn, FlagChange.readOn]
    split
    · exact .ok ⟨rfl, rfl, rfl, by simpa using Nat.le_of_succ_le hn⟩
    · split
      · split
        · exact .refuse
        · split
          · exact .refuse
          · exact ih (Nat.le_of_succ_le hn)
      · exact .refuse

end Carries

/-- The flags of a group, once those that it turns off are read. -/
def FlagChange.checked (on off : List Flag) (s : Source) : Reading (FlagChange × Bool × Source) :=
  if off.contains .template then refuse .globalTurnedOff (s.position - 1)
  else if on.any off.contains then refuse .contradictoryFlags (s.position - 1)
  else .ok (⟨on, off⟩, true, s)

theorem FlagChange.eq_of_checked {on off : List Flag} {b : FlagChange × Bool × Source}
    (h : checked on off s = .ok b) : b = (⟨on, off⟩, true, s) := by
  unfold checked at h
  split at h
  · cases h
  · split at h
    · cases h
    · cases h
      rfl

namespace Carries

theorem checked {on off : List Flag} (h : s.Closed n s') :
    Follows (fun a b => b.1 = a.1 ∧ b.2.1 = a.2.1 ∧ a.2.2.Closed n b.2.2)
      (fun b => b.2.2.rest = []) (FlagChange.checked on off s) (FlagChange.checked on off s') := by
  unfold FlagChange.checked
  split
  · exact .refuse
  · split
    · exact .refuse
    · exact .ok ⟨rfl, rfl, h⟩

theorem readFlagChange (h : s.Closed n s') :
    Follows (fun a b => b.1 = a.1 ∧ b.2.1 = a.2.1 ∧ a.2.2.Closed n b.2.2)
      (fun b => b.2.2.rest = []) (FlagChange.read s) (FlagChange.read s') := by
  have hread : Follows (fun a b => b.1 = a.1 ∧ b.2.1 = a.2.1 ∧ a.2.2.Closed n b.2.2)
      (fun b => b.2.2.rest = []) (FlagChange.readOn [] s.position s.rest)
      (FlagChange.readOn [] s'.position s'.rest) := h.1 ▸ readOn h.2
  have hspent {on off : List Flag} {t : Source} (ht : t.rest = [])
      (b : FlagChange × Bool × Source) (hb : FlagChange.checked on off t = .ok b) :
      b.2.2.rest = [] := by
    rwa [FlagChange.eq_of_checked hb]
  unfold FlagChange.read
  refine hread.bind ?_ ?_
  · rintro ⟨on, stop, s₁⟩ ⟨_, _, s₁'⟩ ⟨rfl, rfl, h₁⟩
    dsimp only at h₁ ⊢
    split
    · exact .ok ⟨rfl, rfl, h₁⟩
    · split
      · exact .refuse
      · split
        · rw [h₁.1]
          refine (readOff h₁.2).bind ?_ ?_
          · rintro ⟨off, s₂⟩ ⟨_, s₂'⟩ ⟨rfl, h₂⟩
            exact checked h₂
          · rintro ⟨off, s₂'⟩ hs₂'
            exact hspent hs₂'
        · exact @checked _ _ _ _ [] h₁
  · rintro ⟨on, stop, s₁'⟩ hs₁' b hb
    dsimp only at hs₁' hb
    split at hb
    · cases hb
      exact hs₁'
    · split at hb
      · cases hb
      · split at hb
        · rw [hs₁'] at hb
          cases hb
        · exact @hspent _ [] _ hs₁' b hb

end Carries

end OrderedGrammar.Pattern
