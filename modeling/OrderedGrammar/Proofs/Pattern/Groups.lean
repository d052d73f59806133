import Mathlib.Data.List.Basic
import OrderedGrammar.Lexicon
import OrderedGrammar.Proofs.Pattern.Extent

/-!
# The groups that a pattern keeps

A lexicon reads the pattern of a lexer rule in parentheses of its own, and takes what these keep as
the token.  **The parentheses keep a group unless the pattern starts with a question mark**
(`keeps_of_read_enclose`): then they open the group `1` in the pattern itself, and whatever follows,
also if it closes them early, leaves that group in it.  Nor does a condition on what lies ahead or
behind ever get hold of it (`not_keepsAside_of_read_enclose`).

What the reader does with a character never takes a group away (`Reader.moves_step`): it adds to the
innermost group that is open, or opens one inside, or closes it.  What is common to several
alternatives is taken out in front of them, and alternatives of single characters become one set;
neither touches a part that keeps a group (`Part.keep_ofAlternatives`).

## Main definitions

* `IsInherited` : a property that a pattern has if one of its parts does.
* `Part.AnyHas`, `Part.Keep` : a part of a sequence has such a property, or keeps a group.
* `Level.AnyHas`, `Level.Keeps` : so does what has been read of a group.
* `Level.Continues` : a group that is being read goes on, and has such properties as before.
* `Level.Leaves` : what a group that is closed adds to the one around it.
* `Reader.Goes`, `Reader.Moves` : what a step does to the groups that are open.
* `Reader.Holds` : a group that has been opened in the pattern itself.
* `Reader.Outright` : a group that no condition on what lies ahead or behind has hold of.
-/

namespace OrderedGrammar

namespace Pattern

/-! ### Sequences and alternatives -/

/-- Whether a property is one that a pattern has exactly if one of its parts does.  Groups and
conditions on what lies ahead or behind are left open. -/
structure IsInherited (φ : Pattern → Bool) : Prop where
  empty : φ .empty = false
  char : ∀ set, φ (.char set) = false
  anchor : ∀ a, φ (.anchor a) = false
  again : ∀ i rule, φ (.again i rule) = false
  seq : ∀ p q, φ (.seq p q) = (φ p || φ q)
  alt : ∀ p q, φ (.alt p q) = (φ p || φ q)
  given : ∀ i p q, φ (.given i p q) = (φ p || φ q)
  loop : ∀ least most greedy p, φ (.loop least most greedy p) = φ p
  once : ∀ p, φ (.once p) = φ p

theorem isInherited_keeps (i : ℕ) : IsInherited (keeps i) :=
  ⟨rfl, fun _ => rfl, fun _ => rfl, fun _ _ => rfl, fun _ _ => rfl, fun _ _ => rfl,
    fun _ _ _ => rfl, fun _ _ _ _ => rfl, fun _ => rfl⟩

theorem isInherited_keepsAside (i : ℕ) : IsInherited (keepsAside i) :=
  ⟨rfl, fun _ => rfl, fun _ => rfl, fun _ _ => rfl, fun _ _ => rfl, fun _ _ => rfl,
    fun _ _ _ => rfl, fun _ _ _ _ => rfl, fun _ => rfl⟩

theorem keeps_of_keepsAside {i : ℕ} {p : Pattern} (h : p.keepsAside i) : p.keeps i := by
  induction p with
  | empty | char _ | again _ _ | anchor _ => cases h
  | seq p q ihp ihq | alt p q ihp ihq | given _ p q ihp ihq =>
    exact Bool.or_eq_true_iff.2 ((Bool.or_eq_true_iff.1 h).imp ihp ihq)
  | loop _ _ _ p ih | once p ih => exact ih h
  | group index p ih => exact Bool.or_eq_true_iff.2 (.inr (ih h))
  | look _ _ p ih => exact h

namespace IsInherited

variable {φ : Pattern → Bool} (hφ : IsInherited φ)

include hφ

theorem ofSeq_iff {ps : List Pattern} : φ (ofSeq ps) ↔ ∃ p ∈ ps, φ p := by
  induction ps with
  | nil => simp [ofSeq, hφ.empty]
  | cons p ps ih =>
    cases ps with
    | nil => simp [ofSeq]
    | cons q ps =>
      rw [ofSeq, hφ.seq, Bool.or_eq_true, ih]
      · exact (List.exists_mem_cons_iff (fun p => φ p = true) p _).symm
      · exact List.cons_ne_nil q ps

theorem ofAlts_iff {ps : List Pattern} : φ (ofAlts ps) ↔ ∃ p ∈ ps, φ p := by
  induction ps with
  | nil => simp [ofAlts, hφ.empty]
  | cons p ps ih =>
    cases ps with
    | nil => simp [ofAlts]
    | cons q ps =>
      rw [ofAlts, hφ.alt, Bool.or_eq_true, ih]
      · exact (List.exists_mem_cons_iff (fun p => φ p = true) p _).symm
      · exact List.cons_ne_nil q ps

end IsInherited

namespace Part

/-- Whether some part of a sequence has a property. -/
def AnyHas (φ : Pattern → Bool) (parts : List Part) : Prop := ∃ p ∈ parts, φ p.pattern

/-- Whether some part of a sequence keeps a group. -/
abbrev Keep (i : ℕ) (parts : List Part) : Prop := AnyHas (keeps i) parts

variable {i : ℕ} {φ : Pattern → Bool} (hφ : IsInherited φ)

theorem anyHas_append {parts parts' : List Part} :
    AnyHas φ (parts ++ parts') ↔ AnyHas φ parts ∨ AnyHas φ parts' := by
  simp [AnyHas, or_and_right, exists_or]

theorem anyHas_singleton {p : Part} : AnyHas φ [p] ↔ φ p.pattern := by
  simp [AnyHas]

theorem not_anyHas_nil : ¬AnyHas φ [] := by
  simp [AnyHas]

/-- What is taken out in front of alternatives and what is left of them come from them. -/
theorem anyHas_of_splitCommon {first : List Part} : ∀ {others : List (List Part)},
    AnyHas φ (splitCommon first others).1 ∨
      (∃ parts ∈ (splitCommon first others).2, AnyHas φ parts) →
    ∃ parts ∈ first :: others, AnyHas φ parts := by
  induction first with
  | nil =>
    intro others h
    exact h.resolve_left not_anyHas_nil
  | cons p first ih =>
    intro others h
    have hfirst (h : AnyHas φ first) : ∃ parts ∈ (p :: first) :: others, AnyHas φ parts :=
      ⟨_, List.mem_cons_self, h.imp fun _ hq => ⟨List.mem_cons_of_mem _ hq.1, hq.2⟩⟩
    rw [splitCommon] at h
    split at h
    · -- the head of the first is taken out, and the others lose theirs
      have hrest (h : ∃ parts ∈ first :: others.map (·.tail), AnyHas φ parts) :
          ∃ parts ∈ (p :: first) :: others, AnyHas φ parts := by
        obtain ⟨parts, hparts, hhas⟩ := h
        rcases List.mem_cons.1 hparts with rfl | hparts
        · exact hfirst hhas
        · obtain ⟨parts, hmem, rfl⟩ := List.mem_map.1 hparts
          exact ⟨parts, List.mem_cons_of_mem _ hmem,
            hhas.imp fun _ hq => ⟨List.mem_of_mem_tail hq.1, hq.2⟩⟩
      rcases h with hcommon | hhas
      · rcases (List.exists_mem_cons_iff _ _ _).1 hcommon with hp | hcommon
        · exact ⟨_, List.mem_cons_self, p, List.mem_cons_self, hp⟩
        · exact hrest (ih (.inl hcommon))
      · exact hrest (ih (.inr hhas))
    · exact h.resolve_left not_anyHas_nil

include hφ

theorem has_sequence {parts : List Part} : φ (sequence parts) ↔ AnyHas φ parts := by
  rw [sequence, hφ.ofSeq_iff, AnyHas]
  simp

theorem anyHas_of_oneOf {rule : CaseRule} {rest : List (List Part)}
    (h : φ (oneOf rule rest).pattern) : ∃ parts ∈ rest, AnyHas φ parts := by
  rw [oneOf] at h
  split at h
  · rw [pattern, hφ.char] at h
    cases h
  · obtain ⟨p, hp, hhas⟩ := hφ.ofAlts_iff.1 h
    obtain ⟨parts, hparts, rfl⟩ := List.mem_map.1 hp
    exact ⟨parts, hparts, (has_sequence hφ).1 hhas⟩

theorem anyHas_of_ofAlternatives {rule : CaseRule} {alternatives : List (List Part)}
    (h : AnyHas φ (ofAlternatives rule alternatives)) : ∃ parts ∈ alternatives, AnyHas φ parts := by
  match alternatives, h with
  | [], h => exact absurd h not_anyHas_nil
  | [only], h => exact ⟨only, List.mem_singleton_self _, h⟩
  | first :: next :: others, h =>
    rcases anyHas_append.1 h with hcommon | hone
    · exact anyHas_of_splitCommon (.inl hcommon)
    · exact anyHas_of_splitCommon (.inr (anyHas_of_oneOf hφ (anyHas_singleton.1 hone)))

omit hφ

/-- A part that keeps a group is like no other, so that it is never taken out in front. -/
theorem not_alike_of_keeps {p : Part} (h : p.pattern.keeps i) (q : Part) :
    ¬p.alike q ∧ ¬q.alike p := by
  cases p with
  | other p =>
    refine ⟨by simp [alike], ?_⟩
    cases q <;> simp [alike]
  | char _ => cases h
  | anchor _ _ => cases h
  | again _ _ => cases h

/-- What is taken out in front of alternatives keeps no group. -/
theorem keep_splitCommon {first : List Part} : ∀ {others : List (List Part)}, others ≠ [] →
    (∃ parts ∈ first :: others, Keep i parts) →
    ∃ parts ∈ (splitCommon first others).2, Keep i parts := by
  induction first with
  | nil => intro others _ h; exact h
  | cons p first ih =>
    intro others hne h
    rw [splitCommon]
    split
    · next hall =>
      have hhead : ∀ parts ∈ others, ∃ a tail, parts = a :: tail ∧ p.alike a := by
        intro parts hparts
        have hany := List.all_eq_true.1 hall parts hparts
        cases parts with
        | nil => cases hany
        | cons a tail => exact ⟨a, tail, rfl, hany⟩
      refine ih (by simpa using hne) ?_
      -- the head that is taken out has its like in the others, so that no group is in it
      obtain ⟨parts, hparts, q, hq, hkeeps⟩ := h
      rcases List.mem_cons.1 hparts with rfl | hparts
      · rcases List.mem_cons.1 hq with rfl | hq
        · obtain ⟨other, others, rfl⟩ := List.exists_cons_of_ne_nil hne
          obtain ⟨a, -, -, halike⟩ := hhead other List.mem_cons_self
          exact absurd halike (not_alike_of_keeps hkeeps a).1
        · exact ⟨first, List.mem_cons_self, q, hq, hkeeps⟩
      · obtain ⟨a, tail, rfl, halike⟩ := hhead parts hparts
        rcases List.mem_cons.1 hq with rfl | hq
        · exact absurd halike (not_alike_of_keeps hkeeps p).2
        · exact ⟨tail, List.mem_cons_of_mem _ (List.mem_map_of_mem hparts), q, hq, hkeeps⟩
    · exact h

theorem items?_of_keep {parts : List Part} (h : Keep i parts) : items? parts = none := by
  obtain ⟨p, hp, hkeeps⟩ := h
  unfold items?
  split
  · rw [List.mem_singleton.1 hp] at hkeeps
    cases hkeeps
  · rfl

theorem mapM_items?_of_keep {rest : List (List Part)} (h : ∃ parts ∈ rest, Keep i parts) :
    rest.mapM items? = none := by
  induction rest with
  | nil => simp at h
  | cons parts rest ih =>
    rw [List.mapM_cons]
    rcases (List.exists_mem_cons_iff _ _ _).1 h with hkeep | hrest
    · rw [items?_of_keep hkeep]
      rfl
    · rw [ih hrest]
      cases items? parts <;> rfl

theorem keeps_oneOf {rest : List (List Part)} (rule : CaseRule)
    (h : ∃ parts ∈ rest, Keep i parts) : (oneOf rule rest).pattern.keeps i := by
  have ⟨parts, hparts, hkeep⟩ := h
  rw [oneOf, mapM_items?_of_keep h, pattern, (isInherited_keeps i).ofAlts_iff]
  exact ⟨_, List.mem_map_of_mem hparts, (has_sequence (isInherited_keeps i)).2 hkeep⟩

theorem keep_ofAlternatives {alternatives : List (List Part)} (rule : CaseRule)
    (h : ∃ parts ∈ alternatives, Keep i parts) : Keep i (ofAlternatives rule alternatives) := by
  match alternatives, h with
  | [only], h => simpa [ofAlternatives] using h
  | first :: next :: others, h =>
    have hrest := keep_splitCommon (List.cons_ne_nil next others) h
    exact anyHas_append.2 (.inr (anyHas_singleton.2 (keeps_oneOf rule hrest)))

end Part

/-! ### Groups that are being read -/

namespace Level

variable {l : Level} {i : ℕ} {φ : Pattern → Bool}

/-- Whether what has been read of a group has a property somewhere. -/
def AnyHas (φ : Pattern → Bool) (l : Level) : Prop :=
  ∃ parts ∈ l.sequence :: l.alternatives, Part.AnyHas φ parts

/-- Whether what has been read of a group keeps a group inside. -/
abbrev Keeps (i : ℕ) (l : Level) : Prop := l.AnyHas (Pattern.keeps i)

/-- Whether one state of a group is behind another, and has the same properties. -/
structure Continues (l l' : Level) : Prop where
  opener_eq : l'.opener = l.opener
  anyHas_iff : ∀ {φ}, IsInherited φ → (l'.AnyHas φ ↔ l.AnyHas φ)

theorem Continues.refl (l : Level) : l.Continues l := ⟨rfl, fun _ => .rfl⟩

theorem not_anyHas_empty {opener : Opener} {position : ℕ} {flags : Flags} :
    ¬(Level.empty opener position flags).AnyHas φ := by
  rintro ⟨parts, hparts, h⟩
  rw [List.mem_singleton.1 hparts] at h
  exact Part.not_anyHas_nil h

theorem sequence_push (l : Level) (parts : List Part) (role : Role) :
    (l.push parts role).sequence = l.sequence ++ parts := by
  simp [sequence, push]

theorem anyHas_push {parts : List Part} {role : Role} :
    (l.push parts role).AnyHas φ ↔ l.AnyHas φ ∨ Part.AnyHas φ parts := by
  rw [AnyHas, AnyHas, sequence_push, List.exists_mem_cons_iff, List.exists_mem_cons_iff,
    Part.anyHas_append, or_right_comm]
  rfl

theorem anyHas_nextAlternative : l.nextAlternative.AnyHas φ ↔ l.AnyHas φ := by
  refine (List.exists_mem_cons_iff _ _ _).trans ?_
  exact or_iff_right Part.not_anyHas_nil

/-- A loop around the last item has the properties of the item. -/
theorem anyHas_loop (hφ : IsInherited φ) {item : Item} {items : List Item} {pattern : Pattern}
    (hitems : l.items = item :: items) (hpattern : φ pattern = φ (Part.sequence item.parts)) :
    ({ l with items := ⟨[.other pattern], .loop⟩ :: items } : Level).AnyHas φ ↔ l.AnyHas φ := by
  have hsequence (item : Item) : ({ l with items := item :: items } : Level).sequence =
      items.reverse.flatMap (·.parts) ++ item.parts := by
    simp [sequence]
  have hbefore : l.sequence = items.reverse.flatMap (·.parts) ++ item.parts := by
    simp [sequence, hitems]
  have hlast : Part.AnyHas φ [.other pattern] ↔ Part.AnyHas φ item.parts := by
    rw [Part.anyHas_singleton, Part.pattern, hpattern, Part.has_sequence hφ]
  rw [AnyHas, AnyHas, hsequence, hbefore, List.exists_mem_cons_iff, List.exists_mem_cons_iff,
    Part.anyHas_append, Part.anyHas_append, hlast]

theorem anyHas_of_parts (hφ : IsInherited φ) (h : Part.AnyHas φ l.parts) : l.AnyHas φ := by
  obtain ⟨parts, hparts, hhas⟩ := Part.anyHas_of_ofAlternatives hφ h
  exact ⟨parts, List.mem_reverse.1 hparts, hhas⟩

theorem anyHas_of_choice (hφ : IsInherited φ) {index : ℕ} (h : φ (l.choice index)) :
    l.AnyHas φ := by
  rw [choice] at h
  split at h
  · rw [hφ.given, hφ.empty, Bool.or_false] at h
    exact ⟨_, List.mem_cons_self, (Part.has_sequence hφ).1 h⟩
  · next yes others halternatives =>
    rw [hφ.given, Bool.or_eq_true] at h
    rcases h with h | h
    · exact ⟨yes, by simp [halternatives], (Part.has_sequence hφ).1 h⟩
    · exact ⟨_, List.mem_cons_self, (Part.has_sequence hφ).1 h⟩

theorem keep_parts (h : l.Keeps i) : Part.Keep i l.parts := by
  obtain ⟨parts, hparts, hkeep⟩ := h
  exact Part.keep_ofAlternatives _ ⟨parts, List.mem_reverse.2 hparts, hkeep⟩

theorem anyHas_of_sequence (hφ : IsInherited φ) (h : φ (Part.sequence l.parts)) : l.AnyHas φ :=
  anyHas_of_parts hφ ((Part.has_sequence hφ).1 h)

/-- The parts that a group leaves to the one around it keep the group itself, if it is one that is
kept, and else only what it keeps inside.  A condition in there has hold of what is inside. -/
structure Leaves (l : Level) (parts : List Part) : Prop where
  keep : ∀ i, l.opener = .kept i → Part.Keep i parts
  of_keep : ∀ i, Part.Keep i parts → l.opener = .kept i ∨ l.Keeps i
  of_keepsAside : ∀ i, Part.AnyHas (keepsAside i) parts → l.Keeps i

namespace Leaves

/-- A group that is not kept leaves what keeps no more than it does. -/
theorem of_not_kept {parts : List Part} (hopener : ∀ i, l.opener ≠ .kept i)
    (h : ∀ i, Part.Keep i parts → l.Keeps i) : l.Leaves parts where
  keep i hi := absurd hi (hopener i)
  of_keep i hkeep := .inr (h i hkeep)
  of_keepsAside i haside := h i (haside.imp fun _ hp => ⟨hp.1, keeps_of_keepsAside hp.2⟩)

theorem other {p : Pattern} (hopener : ∀ i, l.opener ≠ .kept i)
    (h : ∀ i, p.keeps i → l.Keeps i) : l.Leaves [.other p] :=
  of_not_kept hopener fun i hkeep => h i (Part.anyHas_singleton.1 hkeep)

theorem group {index : ℕ} (hopener : l.opener = .kept index) :
    l.Leaves [.other (.group index (Part.sequence l.parts))] where
  keep i hi := by
    cases hopener.symm.trans hi
    exact Part.anyHas_singleton.2 (by simp [Part.pattern, keeps])
  of_keep i h := by
    replace h := Part.anyHas_singleton.1 h
    rw [Part.pattern, keeps, Bool.or_eq_true, beq_iff_eq] at h
    rcases h with rfl | h
    · exact .inl hopener
    · exact .inr (anyHas_of_sequence (isInherited_keeps i) h)
  of_keepsAside i h :=
    anyHas_of_sequence (isInherited_keeps i) (keeps_of_keepsAside (Part.anyHas_singleton.1 h))

end Leaves

end Level

/-! ### What a step does -/

namespace Reader

variable {r r' : Reader} {s s' : Source}

/-- What one step does to the groups that are open, short of closing one. -/
inductive Goes (r r' : Reader) : Prop
  | continue : r'.outer = r.outer → r'.groups = r.groups → r.current.Continues r'.current →
      r.Goes r'
  | enter {opener : Opener} {position : ℕ} {flags : Flags} : r'.outer = r.current :: r.outer →
      r'.current = .empty opener position flags →
      opener = .kept (r.groups + 1) ∧ r'.groups = r.groups + 1 ∨
        (∀ i, opener ≠ .kept i) ∧ r'.groups = r.groups → r.Goes r'

/-- What one step does to the groups that are open. -/
inductive Moves (r r' : Reader) : Prop
  | go : r.Goes r' → r.Moves r'
  | leave {parent : Level} {outer : List Level} : r.outer = parent :: outer →
      r' = r.leave parent outer → r.Moves r'

theorem exists_of_bind {α β : Type} {x : Reading α} {f : α → Reading β} {b : β}
    (h : x >>= f = .ok b) : ∃ a, x = .ok a ∧ f a = .ok b := by
  cases x with
  | error e => cases h
  | ok a => exact ⟨a, rfl, h⟩

/-- A part that has no property of its parts. -/
theorem goes_push {part : Part} {role : Role} (h : ∀ {φ}, IsInherited φ → φ part.pattern = false) :
    r.Goes (r.push part role) := by
  refine .continue rfl rfl ⟨rfl, fun hφ => ?_⟩
  refine Level.anyHas_push.trans (or_iff_left ?_)
  rw [Part.anyHas_singleton, h hφ]
  exact Bool.false_ne_true

theorem goes_pushChar (r : Reader) (k : ℕ) : r.Goes (r.pushChar k) := goes_push fun hφ => hφ.char _

theorem goes_refl (r : Reader) : r.Goes r := .continue rfl rfl (.refl _)

theorem goes_enter {opener : Opener} {position : ℕ} {flags : Flags}
    (h : ∀ i, opener ≠ .kept i) : r.Goes (r.enter opener position flags) :=
  .enter rfl rfl (.inr ⟨h, rfl⟩)

theorem goes_enterLook {behind negated : Bool} {position : ℕ} :
    r.Goes (r.enterLook behind negated position) :=
  .enter rfl rfl (.inr ⟨by simp, rfl⟩)

theorem goes_refer {index start stop : ℕ} (h : r.refer index start stop = .ok r') :
    r.Goes r' := by
  rw [refer] at h
  split at h
  · cases h
  · obtain ⟨_, -, h⟩ := exists_of_bind h
    cases h
    exact goes_push fun hφ => hφ.again _ _

theorem goes_readNumberEscape {c : Char} {start : ℕ}
    (h : r.readNumberEscape c s start = .ok (r', s')) : r.Goes r' := by
  unfold readNumberEscape at h
  dsimp only at h
  split at h
  · obtain ⟨_, -, h⟩ := exists_of_bind h
    cases h
    exact goes_pushChar _ _
  · split at h
    · obtain ⟨_, -, h⟩ := exists_of_bind h
      cases h
      exact goes_pushChar _ _
    · split at h
      · obtain ⟨_, hrefer, h⟩ := exists_of_bind h
        cases h
        exact goes_refer hrefer
      · cases h

theorem goes_readEscape {c : Char} {start : ℕ} (h : r.readEscape c s start = .ok (r', s')) :
    r.Goes r' := by
  unfold readEscape at h
  split at h
  · cases h
    exact goes_push fun hφ => hφ.anchor _
  · cases h
    exact goes_push fun hφ => hφ.char _
  · split at h
    · exact goes_readNumberEscape h
    · obtain ⟨_, -, h⟩ := exists_of_bind h
      cases h
      exact goes_pushChar _ _

theorem goes_readLoop {c : Char} (h : r.readLoop c s = .ok (r', s')) : r.Goes r' := by
  unfold readLoop at h
  obtain ⟨bounds, -, h⟩ := exists_of_bind h
  split at h
  · cases h
    exact goes_pushChar _ _
  · split at h
    · cases h
    · next item items hitems =>
      split at h
      · cases h
      · cases h
      · -- whatever comes behind the bounds, the item is inside of the loop
        cases h
        refine .continue rfl rfl ⟨rfl, fun hφ => Level.anyHas_loop hφ hitems ?_⟩
        split
        · exact hφ.loop _ _ _ _
        · exact (hφ.once _).trans (hφ.loop _ _ _ _)
        · exact hφ.loop _ _ _ _

theorem goes_readNamed {opening : ℕ} (h : r.readNamed s opening = .ok (r', s')) :
    r.Goes r' := by
  unfold readNamed at h
  split at h
  · cases h
  · obtain ⟨_, -, h⟩ := exists_of_bind h
    dsimp only at h
    split at h
    · cases h
    · cases h
      exact .enter rfl rfl (.inl ⟨rfl, rfl⟩)
  · obtain ⟨_, -, h⟩ := exists_of_bind h
    dsimp only at h
    split at h
    · cases h
    · obtain ⟨_, hrefer, h⟩ := exists_of_bind h
      cases h
      exact goes_refer hrefer
  · cases h

theorem goes_readLookbehind {opening : ℕ} (h : r.readLookbehind s opening = .ok (r', s')) :
    r.Goes r' := by
  unfold readLookbehind at h
  split at h
  · cases h
  · cases h
    exact goes_enterLook
  · cases h
    exact goes_enterLook
  · cases h

/-- A condition that is read opens a group behind its name, and nothing else. -/
theorem readCondition_eq {opening : ℕ} (h : r.readCondition s opening = .ok (r', s')) :
    ∃ name index conditions, s.readName ')' "group name" = .ok (name, s') ∧
      r' = { r.enter (.given index) opening r.flags with conditions } := by
  unfold readCondition at h
  obtain ⟨⟨name, s₁⟩, hname, h⟩ := exists_of_bind h
  have hopen {index : ℕ} {conditions : List (ℕ × ℕ)}
      (h : (do
        r.checkMark index s₁.position
        return ({ r.enter (.given index) opening r.flags with conditions }, s₁)) =
          (.ok (r', s') : Reading (Reader × Source))) :
      ∃ name index conditions, s.readName ')' "group name" = .ok (name, s') ∧
        r' = { r.enter (.given index) opening r.flags with conditions } := by
    obtain ⟨_, -, h⟩ := exists_of_bind h
    cases h
    exact ⟨name, index, conditions, hname, rfl⟩
  dsimp only at h
  split at h
  · split at h
    · exact hopen h
    · cases h
  · split at h
    · split at h
      · cases h
      · split at h
        · cases h
        · split at h
          · exact hopen h
          · exact hopen h
    · cases h

theorem goes_readCondition {opening : ℕ} (h : r.readCondition s opening = .ok (r', s')) :
    r.Goes r' := by
  obtain ⟨name, index, conditions, -, rfl⟩ := readCondition_eq h
  exact .enter rfl rfl (.inr ⟨by simp, rfl⟩)

theorem goes_readComment {opening : ℕ} (h : r.readComment s opening = .ok (r', s')) :
    r.Goes r' := by
  unfold readComment at h
  split at h
  · cases h
  · cases h
    exact goes_refl r

theorem goes_readFlags {opening : ℕ} (h : r.readFlags s opening = .ok (r', s')) :
    r.Goes r' := by
  unfold readFlags at h
  obtain ⟨_, -, h⟩ := exists_of_bind h
  dsimp only at h
  split at h
  · cases h
    exact goes_enter (by simp)
  · split at h
    · cases h
      exact .continue rfl rfl ⟨rfl, fun _ => .rfl⟩
    · cases h

theorem goes_readGroup {opening : ℕ} (h : r.readGroup s opening = .ok (r', s')) :
    r.Goes r' := by
  unfold readGroup at h
  split at h
  · dsimp only at h
    split at h
    · cases h
    · exact goes_readNamed h
    · cases h; exact goes_enter (by simp)
    · exact goes_readComment h
    · cases h; exact goes_enterLook
    · cases h; exact goes_enterLook
    · exact goes_readLookbehind h
    · exact goes_readCondition h
    · cases h; exact goes_enter (by simp)
    · split at h
      · exact goes_readFlags h
      · cases h
    · cases h
  · cases h
    exact .enter rfl rfl (.inl ⟨rfl, rfl⟩)

theorem goes_readBar {position : ℕ} (h : r.readBar position = .ok r') : r.Goes r' := by
  unfold readBar at h
  split at h
  · cases h
  · cases h
    exact .continue rfl rfl ⟨rfl, fun _ => Level.anyHas_nextAlternative⟩

/-- A step reads in the group that is open, opens one inside of it, or closes it. -/
theorem moves_step {c : Char} (h : r.step c s = .ok (r', s')) : r.Moves r' := by
  unfold step at h
  dsimp only at h
  split at h
  · cases h; exact .go (goes_refl r)
  split at h
  · cases h; exact .go (goes_refl r)
  split at h
  · split at h
    · cases h
    · exact .go (goes_readEscape h)
  · obtain ⟨_, hbar, h⟩ := exists_of_bind h
    cases h
    exact .go (goes_readBar hbar)
  · exact .go (goes_readGroup h)
  · split at h
    · cases h
    · next houter => cases h; exact .leave houter rfl
  · obtain ⟨_, -, h⟩ := exists_of_bind h
    cases h
    exact .go (goes_push fun hφ => hφ.char _)
  · exact .go (goes_readLoop h)
  · exact .go (goes_readLoop h)
  · exact .go (goes_readLoop h)
  · exact .go (goes_readLoop h)
  · cases h; exact .go (goes_push fun hφ => hφ.char _)
  · cases h; exact .go (goes_push fun hφ => hφ.anchor _)
  · cases h; exact .go (goes_push fun hφ => hφ.anchor _)
  · cases h; exact .go (goes_pushChar _ _)

/-- A group that is closed adds what it leaves to the one around it, and changes nothing else. -/
theorem exists_leave (r : Reader) (parent : Level) (outer : List Level) :
    ∃ parts, (r.leave parent outer).current = parent.push parts .atom ∧
      (r.leave parent outer).outer = outer ∧ (r.leave parent outer).groups = r.groups ∧
      r.current.Leaves parts := by
  have hparts (i : ℕ) (h : Part.Keep i r.current.parts) : r.current.Keeps i :=
    Level.anyHas_of_parts (isInherited_keeps i) h
  have hbody (i : ℕ) (h : (Part.sequence r.current.parts).keeps i) : r.current.Keeps i :=
    Level.anyHas_of_sequence (isInherited_keeps i) h
  unfold leave
  dsimp only
  split
  · next hopener => exact ⟨_, rfl, rfl, rfl, .of_not_kept (by simp [hopener]) hparts⟩
  · next hopener => exact ⟨_, rfl, rfl, rfl, .of_not_kept (by simp [hopener]) hparts⟩
  · next hopener => exact ⟨_, rfl, rfl, rfl, .other (by simp [hopener]) hbody⟩
  · next hopener => exact ⟨_, rfl, rfl, rfl, .other (by simp [hopener]) hbody⟩
  · next hopener =>
    exact ⟨_, rfl, rfl, rfl, .other (by simp [hopener]) fun i =>
      Level.anyHas_of_choice (isInherited_keeps i)⟩
  · next hopener => exact ⟨_, rfl, rfl, rfl, .group hopener⟩
  · next hopener => exact ⟨_, rfl, rfl, rfl, .other (by simp [hopener]) hbody⟩
  · next hopener => exact ⟨_, rfl, rfl, rfl, .other (by simp [hopener]) hbody⟩

/-- What every step leaves as it is holds after any number of them. -/
theorem invariant_steps {P : Reader → Prop} (hP : ∀ {r r'}, Moves r r' → P r → P r') {fuel : ℕ}
    (hr : P r) (h : steps fuel r s = .ok r') : P r' := by
  induction fuel generalizing r s with
  | zero => cases h; exact hr
  | succ fuel ih =>
    rw [steps] at h
    split at h
    · cases h; exact hr
    · obtain ⟨⟨r₁, s₁⟩, hstep, h⟩ := exists_of_bind h
      exact ih (hP (moves_step hstep) hr) h

theorem of_finish {p : Pattern} (h : r.finish = .ok p) :
    r.outer = [] ∧ p = Part.sequence r.current.parts := by
  rw [finish] at h
  split at h
  · next houter =>
    split at h
    · cases h
    · cases h
    · cases h
      exact ⟨List.isEmpty_iff.1 houter, rfl⟩
  · cases h

/-! ### A group that stands in the pattern itself -/

/-- Whether the group `i` is open or kept, among groups that are open, the innermost first: it is
the one inside the pattern itself, or that has it. -/
def HoldsIn (i : ℕ) : List Level → Prop
  | [] => False
  -- the pattern itself comes last, and what is open inside it right before
  | [whole] => whole.Keeps i
  | [l, whole] => l.opener = .kept i ∨ whole.Keeps i
  | _ :: l :: l' :: ls => HoldsIn i (l :: l' :: ls)

/-- Whether a reader has opened the group `i` in the pattern itself. -/
def Holds (i : ℕ) (r : Reader) : Prop := HoldsIn i (r.current :: r.outer)

variable {i : ℕ}

theorem Moves.holds (h : r.Moves r') (hr : r.Holds i) : r'.Holds i := by
  cases h with
  | go h => cases h with
    | «continue» houter _ hcontinues =>
      rw [Holds, houter]
      match hopen : r.outer with
      | [] =>
        rw [Holds, hopen] at hr
        exact (hcontinues.anyHas_iff (isInherited_keeps i)).2 hr
      | [whole] =>
        rw [Holds, hopen] at hr
        exact hr.imp_left fun hopener => hcontinues.opener_eq.trans hopener
      | l :: l' :: ls => rw [Holds, hopen] at hr; exact hr
    | enter houter _ _ =>
      rw [Holds, houter]
      match hopen : r.outer with
      | [] => rw [Holds, hopen] at hr; exact .inr hr
      | l :: ls => rw [Holds, hopen] at hr; exact hr
  | @leave parent outer hopen heq =>
    obtain ⟨parts, hcurrent, houter, -, hkept, -⟩ := r.exists_leave parent outer
    rw [Holds, hopen] at hr
    rw [heq, Holds, houter, hcurrent]
    match outer with
    | [] =>
      -- what is closed goes into the pattern itself, the group `i` or another
      exact Level.anyHas_push.2 (hr.symm.imp_right (hkept i))
    | [whole] => exact hr
    | l :: l' :: ls => exact hr

theorem keeps_of_finish {p : Pattern} (hr : r.Holds i) (h : r.finish = .ok p) : p.keeps i := by
  obtain ⟨houter, rfl⟩ := of_finish h
  rw [Holds, houter] at hr
  exact (Part.has_sequence (isInherited_keeps i)).2 (Level.keep_parts hr)

/-- A parenthesis opens the next group unless a question mark follows. -/
theorem readGroup_eq {opening : ℕ} (h : s.rest.head? ≠ some '?') :
    r.readGroup s opening = .ok (r.enterKept opening, s) := by
  unfold readGroup
  split
  · next hrest => rw [hrest] at h; exact absurd rfl h
  · rfl

/-- The reader of a pattern in parentheses, behind the whitespace and the parenthesis in front. -/
def opened (flags : Flags) : Reader :=
  let space : Part := .char (.union [.named .space false false] false flags.caseRule)
  let whole : Level := (Level.empty .whole 0 flags).push
    [.other (.loop 0 none true (Part.sequence [space]))] .loop
  { start flags with current := whole }.enterKept 3

/-- Unless a question mark follows, the parenthesis in front is one that opens a group. -/
theorem steps_enclose {caseless : Bool} {pattern : String}
    (hpattern : pattern.toList.head? ≠ some '?') :
    (start ⟨caseless, false, false, false, false⟩).steps (Lexicon.enclose pattern).length
        ⟨Lexicon.enclose pattern, 0⟩ =
      (opened ⟨caseless, false, false, false, false⟩).steps (pattern.toList.length + 2)
        ⟨pattern.toList ++ [')'], 4⟩ := by
  obtain ⟨rest, hrest⟩ : ∃ rest, rest = pattern.toList ++ [')'] := ⟨_, rfl⟩
  have henclose : Lexicon.enclose pattern = '\\' :: 's' :: '*' :: '(' :: rest := by
    rw [hrest]
    rfl
  have hhead : rest.head? ≠ some '?' := by
    rw [hrest]
    cases hlist : pattern.toList with
    | nil => simp
    | cons x xs => rw [hlist] at hpattern; exact hpattern
  have hlength : pattern.toList.length + 2 = rest.length + 1 := by simp [hrest]
  rw [henclose, ← hrest, hlength]
  -- the whitespace in front is an escape and a loop, and then the parenthesis comes
  have hgroup (r : Reader) : r.readGroup ⟨rest, 4⟩ 3 = .ok (r.enterKept 3, ⟨rest, 4⟩) :=
    readGroup_eq hhead
  exact congrArg (· >>= fun p : Reader × Source => steps (rest.length + 1) p.1 p.2) (hgroup _)

/-! ### A group that no condition has hold of -/

/-- Whether no condition on what lies ahead or behind has hold of the group `i`, among groups that
are open, the innermost first: if the group itself is one of them, it is the one inside the pattern
itself. -/
def OutrightIn (i : ℕ) : List Level → Prop
  | [] => True
  | [whole] => ¬whole.AnyHas (keepsAside i)
  | l :: l' :: ls => ¬l.Keeps i ∧ (l.opener = .kept i → ls = []) ∧ OutrightIn i (l' :: ls)

/-- Whether a reader has opened the group `i`, outside of all conditions on what lies ahead or
behind. -/
structure Outright (i : ℕ) (r : Reader) : Prop where
  outrightIn : OutrightIn i (r.current :: r.outer)
  le_groups : i ≤ r.groups

theorem Moves.outright (h : r.Moves r') (hr : r.Outright i) : r'.Outright i := by
  obtain ⟨hr, hle⟩ := hr
  cases h with
  | go h => cases h with
    | «continue» houter hgroups hcontinues =>
      refine ⟨?_, hgroups ▸ hle⟩
      rw [houter]
      match hopen : r.outer with
      | [] =>
        rw [hopen] at hr
        exact fun h => hr ((hcontinues.anyHas_iff (isInherited_keepsAside i)).1 h)
      | l :: ls =>
        rw [hopen] at hr
        obtain ⟨hfree, hopener, hr⟩ := hr
        refine ⟨fun h => hfree ((hcontinues.anyHas_iff (isInherited_keeps i)).1 h), ?_, hr⟩
        rwa [hcontinues.opener_eq]
    | @enter opener position flags houter hcurrent hopener =>
      have hne : opener ≠ .kept i := by
        rintro rfl
        rcases hopener with ⟨hnext, -⟩ | ⟨hother, -⟩
        · cases hnext
          omega
        · exact hother i rfl
      refine ⟨?_, by omega⟩
      rw [houter, hcurrent]
      exact ⟨Level.not_anyHas_empty, fun h => absurd h hne, hr⟩
  | @leave parent outer hopen heq =>
    obtain ⟨parts, hcurrent, houter, hgroups, -, hkeeps, haside⟩ := r.exists_leave parent outer
    refine ⟨?_, by rw [heq, hgroups]; exact hle⟩
    rw [hopen] at hr
    obtain ⟨hfree, hopener, hr⟩ := hr
    rw [heq, houter, hcurrent]
    match outer with
    | [] =>
      -- what a condition has hold of was kept inside the group that is closed
      exact fun h => (Level.anyHas_push.1 h).elim hr fun h => hfree (haside i h)
    | l :: ls =>
      obtain ⟨hparent, hrest⟩ := hr
      refine ⟨fun h => (Level.anyHas_push.1 h).elim hparent fun h => ?_, hrest⟩
      rcases hkeeps i h with hkept | hkept
      · cases hopener hkept
      · exact hfree hkept

theorem not_keepsAside_of_finish {p : Pattern} (hr : r.Outright i) (h : r.finish = .ok p) :
    p.keepsAside i = false := by
  obtain ⟨houter, rfl⟩ := of_finish h
  have hwhole := hr.outrightIn
  rw [houter] at hwhole
  rw [Bool.eq_false_iff]
  exact fun h => hwhole <| Level.anyHas_of_parts (isInherited_keepsAside i) <|
    (Part.has_sequence (isInherited_keepsAside i)).1 h

end Reader

/-- What is read of a pattern in parentheses, unless it starts with a question mark. -/
theorem exists_of_read_enclose {caseless : Bool} {pattern : String}
    (hpattern : pattern.toList.head? ≠ some '?') {p : Pattern}
    (h : Pattern.read caseless (Lexicon.enclose pattern) = .ok p) :
    ∃ r, (Reader.opened ⟨caseless, false, false, false, false⟩).steps (pattern.toList.length + 2)
      ⟨pattern.toList ++ [')'], 4⟩ = .ok r ∧ r.finish = .ok p := by
  rw [Pattern.read, Reader.steps_enclose hpattern] at h
  split at h
  · next hread =>
    cases h
    exact Reader.exists_of_bind hread
  · cases h

/-- Unless it starts with a question mark, a pattern that is read in parentheses keeps a group. -/
theorem keeps_of_read_enclose {caseless : Bool} {pattern : String}
    (hpattern : pattern.toList.head? ≠ some '?') {p : Pattern}
    (h : Pattern.read caseless (Lexicon.enclose pattern) = .ok p) : p.keeps 1 := by
  obtain ⟨r, hsteps, hfinish⟩ := exists_of_read_enclose hpattern h
  have hopened : (Reader.opened ⟨caseless, false, false, false, false⟩).Holds 1 := Or.inl rfl
  exact Reader.keeps_of_finish (Reader.invariant_steps Reader.Moves.holds hopened hsteps) hfinish

/-- That group stands in no condition on what lies ahead or behind. -/
theorem not_keepsAside_of_read_enclose {caseless : Bool} {pattern : String}
    (hpattern : pattern.toList.head? ≠ some '?') {p : Pattern}
    (h : Pattern.read caseless (Lexicon.enclose pattern) = .ok p) : p.keepsAside 1 = false := by
  obtain ⟨r, hsteps, hfinish⟩ := exists_of_read_enclose hpattern h
  have hopened : (Reader.opened ⟨caseless, false, false, false, false⟩).Outright 1 := by
    refine ⟨⟨Level.not_anyHas_empty, fun _ => rfl, fun h => ?_⟩, Nat.le_refl 1⟩
    rcases Level.anyHas_push.1 h with h | h
    · exact Level.not_anyHas_empty h
    · cases Part.anyHas_singleton.1 h
  exact Reader.not_keepsAside_of_finish
    (Reader.invariant_steps Reader.Moves.outright hopened hsteps) hfinish

end Pattern

end OrderedGrammar
