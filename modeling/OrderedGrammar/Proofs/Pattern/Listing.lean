import Mathlib.Data.List.Forall2
import OrderedGrammar.Proofs.Scanning

/-!
# Patterns whose matches can be listed

A pattern with groups and conditions on places inside is not plain, and yet its matches from a place
on may come in a known order: `Pattern.Lists` says so of a pattern and of a function that gives them
for each place.  Such lists are put together as the patterns are.

The groups inside have numbers of their own, so that the group `1` around a lexer rule's pattern
keeps what the whole of it matches: the token of such a rule is the first of its matches behind some
of the whitespace (`Lexicon.match?_of_lists`).

## Main definitions

* `Pattern.State.IsPast` : a state behind some characters, with the group `1` as it was.
* `Pattern.Lists` : the matches of a pattern from each place on, in the matcher's order.
-/

namespace OrderedGrammar

namespace Pattern

/-- The state `t` is behind the characters `a`, with which the text goes on at the state `s`, and
the group `1` is as it was. -/
structure State.IsPast (s : State) (a : List Char) (t : State) : Prop where
  isPrefix : a <+: s.cursor.after
  cursor_eq : t.cursor = s.cursor.past a
  entered_eq : t.entered.lookup 1 = s.entered.lookup 1
  left_eq : t.left.lookup 1 = s.left.lookup 1

theorem State.isPast_past {s : State} {a : List Char} (h : a <+: s.cursor.after) :
    s.IsPast a (s.past a) :=
  ⟨h, rfl, rfl, rfl⟩

theorem State.IsPast.append {s t u : State} {a b : List Char} (h : s.IsPast a t)
    (h' : t.IsPast b u) : s.IsPast (a ++ b) u where
  isPrefix := by
    refine append_isPrefix h.isPrefix ?_
    rw [← Cursor.after_past, ← h.cursor_eq]
    exact h'.isPrefix
  cursor_eq := by rw [h'.cursor_eq, h.cursor_eq, Cursor.past_past]
  entered_eq := h'.entered_eq.trans h.entered_eq
  left_eq := h'.left_eq.trans h.left_eq

/-- The matches of a pattern from each place on, in the order in which the matcher comes to them. -/
def Lists (p : Pattern) (find : Cursor → List (List Char)) : Prop :=
  ∃ found : State → List State, (∀ s next, p.run s next = (found s).findSome? next) ∧
    ∀ s, List.Forall₂ s.IsPast (find s.cursor) (found s)

section Lists

variable {p q : Pattern} {find find' : Cursor → List (List Char)}

theorem lists_of_isPlain (hp : p.isPlain) : p.Lists fun c => p.prefixes c.after := by
  refine ⟨fun s => (p.prefixes s.cursor.after).map s.past, fun s next => ?_, fun s => ?_⟩
  · rw [run_of_isPlain hp, List.findSome?_map]
    rfl
  · rw [List.forall₂_map_right_iff, List.forall₂_same]
    exact fun a ha => State.isPast_past (isPrefix_of_mem ha)

theorem lists_anchor (a : Anchor) :
    (Pattern.anchor a).Lists fun c => if a.holds c then [[]] else [] := by
  refine ⟨fun s => if a.holds s.cursor then [s] else [], fun s next => ?_, fun s => ?_⟩
  · rw [run]
    by_cases ha : a.holds s.cursor <;> simp [ha]
  · by_cases ha : a.holds s.cursor
    · simpa [ha] using State.isPast_past List.nil_prefix
    · simp [ha]

theorem Lists.seq (hp : p.Lists find) (hq : q.Lists find') :
    (Pattern.seq p q).Lists fun c =>
      (find c).flatMap fun a => (find' (c.past a)).map (a ++ ·) := by
  obtain ⟨found, hrun, hfound⟩ := hp
  obtain ⟨found', hrun', hfound'⟩ := hq
  refine ⟨fun s => (found s).flatMap found', fun s next => ?_, fun s => ?_⟩
  · rw [run, hrun, findSome?_flatMap]
    simp only [hrun']
  · refine List.rel_flatMap (hfound s) fun a t ht => ?_
    rw [List.forall₂_map_left_iff, ← ht.cursor_eq]
    exact (hfound' t).imp fun b u hu => ht.append hu

theorem Lists.alt (hp : p.Lists find) (hq : q.Lists find') :
    (Pattern.alt p q).Lists fun c => find c ++ find' c := by
  obtain ⟨found, hrun, hfound⟩ := hp
  obtain ⟨found', hrun', hfound'⟩ := hq
  refine ⟨fun s => found s ++ found' s, fun s next => ?_, fun s => ?_⟩
  · rw [run, hrun, hrun', List.findSome?_append, Option.orElse_eq_orElse, Option.orElse_eq_or]
  · exact List.rel_append (hfound s) (hfound' s)

/-- A group inside that is not the group `1`. -/
theorem Lists.group (hp : p.Lists find) {i : ℕ} (hi : i ≠ 1) : (Pattern.group i p).Lists find := by
  obtain ⟨found, hrun, hfound⟩ := hp
  refine ⟨fun s => (found (s.enter i)).map (·.leave i), fun s next => ?_, fun s => ?_⟩
  · rw [run, hrun, List.findSome?_map]
    rfl
  · rw [List.forall₂_map_right_iff]
    refine (hfound (s.enter i)).imp fun a t ht => ?_
    have hlookup (c : Cursor) (rest : List (ℕ × Cursor)) :
        ((i, c) :: rest).lookup 1 = rest.lookup 1 := by
      rw [List.lookup_cons, beq_false_of_ne hi.symm]
    refine ⟨ht.isPrefix, ht.cursor_eq, ?_, ?_⟩
    · exact ht.entered_eq.trans (hlookup _ _)
    · exact (hlookup _ _).trans ht.left_eq

/-- What may be left out is matched if it can be. -/
theorem Lists.optional (hp : p.Lists find) :
    (Pattern.loop 0 (some 1) true p).Lists fun c => find c ++ [[]] := by
  obtain ⟨found, hrun, hfound⟩ := hp
  refine ⟨fun s => found s ++ [s], fun s next => ?_, fun s => ?_⟩
  · have hrounds (ahead : List Char) : optionalRounds p.run true next ahead (some 1) s =
        (p.run s next <|> next s) := by
      cases ahead with
      | nil => simp [optionalRounds]
      | cons x ahead =>
        have hlast (rest : List Char) (t : State) :
            optionalRounds p.run true next rest (some 0) t = next t := by
          cases rest <;> simp [optionalRounds]
        simp [optionalRounds, hlast]
    rw [run, requiredRounds, Option.map_some, hrounds, hrun, List.findSome?_append,
      List.findSome?_singleton, Option.orElse_eq_orElse, Option.orElse_eq_or]
  · exact List.rel_append (hfound s) (.cons (State.isPast_past List.nil_prefix) .nil)

end Lists

end Pattern

namespace Lexicon

open Pattern

theorem rel_findSome? {α β γ : Type} {R : β → γ → Prop} {f : α → Option β} {g : α → Option γ}
    (h : ∀ a, Option.Rel R (f a) (g a)) (as : List α) :
    Option.Rel R (as.findSome? f) (as.findSome? g) := by
  induction as with
  | nil => exact .none
  | cons a as ih =>
    have ha := h a
    rw [List.findSome?_cons, List.findSome?_cons]
    generalize f a = x at ha
    generalize g a = y at ha
    cases ha with
    | some hr => exact .some hr
    | none => exact ih

/-- The whitespace that is left out in front of a token, and what is matched behind it.  As little
of the whitespace is given back as will do. -/
def foundBehind? (rule : CaseRule) (find : Cursor → List (List Char)) (c : Cursor) :
    Option (List Char × List Char) :=
  ((Pattern.star (.char (spaceSet rule))).prefixes c.after).findSome? fun gap =>
    (find (c.past gap)).head?.map (gap, ·)

variable {body : Pattern} {find : Cursor → List (List Char)}

/-- What the matcher comes to first is what is listed first, kept as the group `1`. -/
theorem rel_matchAt_enclosed (h : body.Lists find) (rule : CaseRule) (c : Cursor) :
    Option.Rel (fun x s => x.2 <+: (c.past x.1).after ∧ s.cursor = c.past (x.1 ++ x.2) ∧
        s.capture? 1 = some ⟨c.past x.1, c.past (x.1 ++ x.2)⟩)
      (foundBehind? rule find c) ((enclosed rule body).matchAt c) := by
  obtain ⟨found, hrun, hfound⟩ := h
  have hspaces : (Pattern.star (.char (spaceSet rule))).isPlain := rfl
  rw [matchAt, enclosed, run, run_of_isPlain hspaces, foundBehind?]
  refine rel_findSome? (fun gap => ?_) _
  have hgap := hfound (((State.start c).past gap).enter 1)
  rw [run, hrun]
  have hcursor : (((State.start c).past gap).enter 1).cursor = c.past gap := rfl
  rw [hcursor] at hgap
  generalize find (c.past gap) = as at hgap
  generalize found (((State.start c).past gap).enter 1) = ts at hgap
  cases hgap with
  | nil => exact .none
  | @cons a t as ts ht _ =>
    have hplace : t.cursor = c.past (gap ++ a) := by
      rw [ht.cursor_eq, hcursor, Cursor.past_past]
    refine .some ⟨ht.isPrefix, hplace, ?_⟩
    have hentered : t.entered.lookup 1 = some (c.past gap) := ht.entered_eq
    have hle : (c.past gap).offset ≤ (c.past (gap ++ a)).offset := by simp
    rw [State.capture?, State.leave, hplace]
    simp only [hentered, List.lookup_cons_self, if_pos hle]

/-- **The token of a lexer rule whose matches are listed** is the first that is listed behind
whitespace, unless it is empty. -/
theorem match?_of_lists (h : body.Lists find) (rule : CaseRule) (kind : String) (c : Cursor) :
    LexEntry.match? ⟨kind, enclosed rule body⟩ c =
      .ok (((foundBehind? rule find c).filter (·.2 ≠ [])).map fun x =>
        (⟨kind, String.ofList x.2, (c.past x.1).offset⟩, c.past (x.1 ++ x.2))) := by
  have hrel := rel_matchAt_enclosed h rule c
  rw [LexEntry.match?]
  generalize foundBehind? rule find c = x at hrel
  generalize (enclosed rule body).matchAt c = s at hrel
  cases hrel with
  | none => rfl
  | @some x s hs =>
    obtain ⟨ha, hcursor, hcapture⟩ := hs
    have htext : Capture.text ⟨c.past x.1, c.past (x.1 ++ x.2)⟩ = x.2 := by
      rw [Capture.text, ← Cursor.past_past, Cursor.slice_past ha]
    simp only [hcapture, htext, hcursor]
    by_cases hne : x.2 = []
    · simp [hne, Option.filter_some]
    · have hpos := List.length_pos_iff.2 hne
      simp [hne, hpos, Option.filter_some]

/-- A token is one of the matches that are listed. -/
theorem exists_of_match?_lists (h : body.Lists find) {rule : CaseRule} {kind : String}
    {c d : Cursor} {t : Token} (hmatch : LexEntry.match? ⟨kind, enclosed rule body⟩ c =
      .ok (some (t, d))) :
    t.kind = kind ∧ ∃ c, t.text.toList ∈ find c := by
  rw [match?_of_lists h] at hmatch
  obtain ⟨x, hx, heq⟩ := Option.map_eq_some_iff.1 (Except.ok.inj hmatch)
  obtain ⟨hfound, -⟩ := Option.filter_eq_some_iff.1 hx
  obtain ⟨rfl, -⟩ := Prod.mk.inj heq
  obtain ⟨gap, -, hgap⟩ := List.exists_of_findSome?_eq_some hfound
  obtain ⟨a, ha, rfl⟩ := Option.map_eq_some_iff.1 hgap
  refine ⟨rfl, c.past gap, ?_⟩
  rw [String.toList_ofList]
  exact List.mem_of_head? ha

/-! ### Tokens that are listed -/

/-- A kind of tokens, the body of its pattern, and the matches of the body from each place on. -/
structure Listing where
  kind : String
  body : Pattern
  find : Cursor → List (List Char)

/-- The listed matches are those of the body, and none of them starts with whitespace. -/
structure Listing.IsListed (l : Listing) : Prop where
  lists : l.body.Lists l.find
  find_space : ∀ c : Cursor, (∃ x ∈ c.after.head?, Text.isSpace x) → l.find c = []

/-- The first of the kinds with a match at a place, and what it matches. -/
def firstListed? (listings : List Listing) (c : Cursor) : Option (String × List Char) :=
  listings.findSome? fun l => ((l.find c).head?.filter (· ≠ [])).map (l.kind, ·)

theorem firstListed?_cons (l : Listing) (listings : List Listing) (c : Cursor) :
    firstListed? (l :: listings) c = (((l.find c).head?.filter (· ≠ [])).map (l.kind, ·)).or
      (firstListed? listings c) := by
  rw [firstListed?, List.findSome?_cons]
  cases ((l.find c).head?.filter (· ≠ [])).map (l.kind, ·) <;> rfl

/-- A token is matched behind all of the whitespace. -/
theorem foundBehind?_listing {l : Listing} (h : l.IsListed) (rule : CaseRule) (c : Cursor) :
    foundBehind? rule l.find c = (l.find (c.past (gap c))).head?.map (gap c, ·) := by
  have hholds : (spaceSet rule).holds = Text.isSpace := funext (holds_spaceSet rule)
  rw [foundBehind?, findSome?_prefixes_star_char, hholds]
  · rfl
  · intro a x rest hafter hx
    rw [h.find_space]
    · rfl
    · refine ⟨x, ?_, by rwa [holds_spaceSet] at hx⟩
      rw [Cursor.after_past, hafter, List.drop_left]
      rfl

theorem firstMatch?_listings {listings : List Listing} (h : ∀ l ∈ listings, l.IsListed)
    (rule : CaseRule) (c : Cursor) :
    firstMatch? c (listings.map fun l => ⟨l.kind, enclosed rule l.body⟩) =
      .ok ((firstListed? listings (c.past (gap c))).map fun found =>
        (⟨found.1, String.ofList found.2, (c.past (gap c)).offset⟩,
          c.past (gap c ++ found.2))) := by
  induction listings with
  | nil => rfl
  | cons l listings ih =>
    obtain ⟨hl, hlistings⟩ := List.forall_mem_cons.1 h
    have hfound : (foundBehind? rule l.find c).filter (·.2 ≠ []) =
        ((l.find (c.past (gap c))).head?.filter (· ≠ [])).map (gap c, ·) := by
      rw [foundBehind?_listing hl, Option.filter_map]
      rfl
    rw [List.map_cons, firstMatch?, match?_of_lists hl.lists, hfound, firstListed?_cons]
    cases (l.find (c.past (gap c))).head?.filter (· ≠ []) with
    | none => exact ih hlistings
    | some a => rfl

end Lexicon

end OrderedGrammar
