import Mathlib.Data.List.TakeWhile
import OrderedGrammar.Lexicon
import OrderedGrammar.Proofs.Pattern.Prefixes

/-!
# How a text is split into tokens

The pattern of a lexer rule stands behind whitespace and is kept as the first group.  A body that
never starts with whitespace is matched right behind all of it, so that the token there depends on
the text ahead alone.

## Main definitions

* `Pattern.enclosed` : a body behind whitespace, kept as the first group.
* `Lexicon.Reads` : what is read of a text, whatever is ignored and wherever it stands.
* `Lexicon.SplitsAt` : the tokens that a text is split into, each at its offset.
-/

namespace OrderedGrammar

/-! ### Whitespace around a text -/

namespace Text

theorem trim_of_ends {cs : List Char} (hhead : ∀ x ∈ cs.head?, ¬isSpace x)
    (hlast : ∀ x ∈ cs.getLast?, ¬isSpace x) : trim cs = cs := by
  have hkeep {ds : List Char} (hds : ∀ x ∈ ds.head?, ¬isSpace x) : ds.dropWhile isSpace = ds := by
    cases ds with
    | nil => rfl
    | cons x ds => exact List.dropWhile_cons_of_neg (hds x rfl)
  rw [trim, trimStart, hkeep hhead, trimEnd, hkeep (by rwa [List.head?_reverse]),
    List.reverse_reverse]

theorem trim_of_forall_not_isSpace {cs : List Char} (h : ∀ x ∈ cs, ¬isSpace x) : trim cs = cs :=
  trim_of_ends (fun x hx => h x (List.mem_of_head? hx)) fun x hx => h x (List.mem_of_getLast? hx)

theorem trim_cons_of_isSpace {x : Char} (hx : isSpace x) (cs : List Char) :
    trim (x :: cs) = trim cs := by
  rw [trim, trimStart, List.dropWhile_cons_of_pos hx]
  rfl

/-- A text is what is left of it with whitespace around. -/
theorem exists_trim (cs : List Char) : ∃ lead trail, cs = lead ++ (trim cs ++ trail) ∧
    lead.all isSpace ∧ trail.all isSpace := by
  refine ⟨cs.takeWhile isSpace, ((trimStart cs).reverse.takeWhile isSpace).reverse, ?_,
    List.all_takeWhile, ?_⟩
  · rw [trim, trimEnd, ← List.reverse_append, List.takeWhile_append_dropWhile,
      List.reverse_reverse, trimStart, List.takeWhile_append_dropWhile]
  · rw [List.all_reverse]
    exact List.all_takeWhile

end Text

namespace Pattern

/-- The set of whitespace. -/
def spaceSet (rule : CaseRule) : CharSet := .union [.named .space false false] false rule

@[simp] theorem holds_spaceSet (rule : CaseRule) (c : Char) :
    (spaceSet rule).holds c = Text.isSpace c := by
  simp [spaceSet, CharSet.holds, CharItem.holds, CharClass.holds]

/-- A body behind whitespace, kept as the first group. -/
def enclosed (rule : CaseRule) (body : Pattern) : Pattern :=
  .seq (Pattern.star (.char (spaceSet rule))) (.group 1 body)

/-- What can stand in a lexer rule whose tokens start with no whitespace. -/
structure IsBody (p : Pattern) : Prop where
  isPlain : p.isPlain
  prefixes_space : ∀ x cs, Text.isSpace x → p.prefixes (x :: cs) = []

/-- The whitespace ahead. -/
def gap (c : Cursor) : List Char := c.after.takeWhile Text.isSpace

theorem drop_gap (c : Cursor) : c.after.drop (gap c).length = Text.trimStart c.after := by
  conv_lhs => rw [← List.takeWhile_append_dropWhile (p := Text.isSpace) (l := c.after)]
  exact List.drop_left

theorem matchAt_enclosed {body : Pattern} (hbody : body.IsBody) (rule : CaseRule) (c : Cursor) :
    (enclosed rule body).matchAt c =
      (body.prefixes (Text.trimStart c.after)).head?.map fun a =>
        ⟨c.past (gap c ++ a), [(1, c.past (gap c))], [(1, c.past (gap c ++ a))]⟩ := by
  have hspaces : (Pattern.star (.char (spaceSet rule))).isPlain := rfl
  have hgroup (s : State) : (Pattern.group 1 body).run s some =
      (body.prefixes s.cursor.after).head?.map fun a => (((s.enter 1).past a).leave 1) := by
    rw [run, run_of_isPlain hbody.isPlain]
    cases hfound : body.prefixes s.cursor.after with
    | nil => rw [State.enter, hfound]; rfl
    | cons a found => rw [State.enter, hfound]; rfl
  have hholds : (spaceSet rule).holds = Text.isSpace := funext (holds_spaceSet rule)
  rw [matchAt, enclosed, run, run_of_isPlain hspaces, findSome?_prefixes_star_char, hgroup, hholds]
  · have hafter : ((State.start c).past (c.after.takeWhile Text.isSpace)).cursor.after =
        Text.trimStart c.after := drop_gap c
    have hstart : (State.start c).cursor.after = c.after := rfl
    rw [hstart, hafter]
    simp [State.start, State.past, State.moveTo, State.enter, State.leave, gap]
  · -- the body does not match where whitespace is still ahead
    intro a x rest hafter hx
    have hrest : ((State.start c).past a).cursor.after = x :: rest := by
      rw [State.cursor_past, Cursor.after_past, hafter, List.drop_left]
    rw [hgroup, hrest, hbody.prefixes_space x rest (by rwa [holds_spaceSet] at hx)]
    rfl

end Pattern

namespace Lexicon

open Pattern

/-- A token rule's match is the first match of its body behind the whitespace, unless it is
empty. -/
theorem LexEntry.match?_enclosed {body : Pattern} (hbody : body.IsBody) (rule : CaseRule)
    (kind : String) (c : Cursor) :
    LexEntry.match? ⟨kind, enclosed rule body⟩ c =
      .ok (((body.prefixes (Text.trimStart c.after)).head?.filter (· ≠ [])).map fun a =>
        (⟨kind, String.ofList a, (c.past (gap c)).offset⟩, c.past (gap c ++ a))) := by
  rw [LexEntry.match?, matchAt_enclosed hbody]
  cases hfound : (body.prefixes (Text.trimStart c.after)).head? with
  | none => rfl
  | some a =>
    have ha : a <+: (c.past (gap c)).after := by
      rw [Cursor.after_past, drop_gap]
      exact isPrefix_of_mem (List.mem_of_head? hfound)
    have hcapture : State.capture? ⟨c.past (gap c ++ a), [(1, c.past (gap c))],
        [(1, c.past (gap c ++ a))]⟩ 1 = some ⟨c.past (gap c), c.past (gap c ++ a)⟩ := by
      simp [State.capture?]
    have htext : Capture.text ⟨c.past (gap c), c.past (gap c ++ a)⟩ = a := by
      rw [Capture.text, ← Cursor.past_past, Cursor.slice_past ha]
    simp only [Option.map_some, hcapture, htext]
    by_cases hne : a = []
    · simp [hne, Option.filter_some]
    · have hpos := List.length_pos_iff.2 hne
      simp [hne, hpos, Option.filter_some]

/-! ### Reading one token after the other -/

/-- The first of the bodies that matches at the start of a text, and what it matches. -/
def firstToken? (bodies : List (String × Pattern)) (cs : List Char) : Option (String × List Char) :=
  bodies.findSome? fun body => ((body.2.prefixes cs).head?.filter (· ≠ [])).map (body.1, ·)

/-- The entries of bodies behind whitespace. -/
def entriesOf (rule : CaseRule) (bodies : List (String × Pattern)) : List LexEntry :=
  bodies.map fun body => ⟨body.1, enclosed rule body.2⟩

theorem firstMatch?_entriesOf {rule : CaseRule} {bodies : List (String × Pattern)}
    (hbodies : ∀ body ∈ bodies, body.2.IsBody) (c : Cursor) :
    firstMatch? c (entriesOf rule bodies) =
      .ok ((firstToken? bodies (Text.trimStart c.after)).map fun found =>
        (⟨found.1, String.ofList found.2, (c.past (gap c)).offset⟩,
          c.past (gap c ++ found.2))) := by
  induction bodies with
  | nil => rfl
  | cons body bodies ih =>
    obtain ⟨hbody, hbodies⟩ := List.forall_mem_cons.1 hbodies
    have hrest := ih hbodies
    rw [entriesOf] at hrest
    rw [entriesOf, List.map_cons, firstMatch?, LexEntry.match?_enclosed hbody, firstToken?,
      List.findSome?_cons]
    cases (body.2.prefixes (Text.trimStart c.after)).head?.filter (· ≠ []) with
    | none => exact hrest
    | some a => rfl

/-- A text is read up to a rest: whitespace is left out, and each token is the first that is found
at its place with all that follows in view. -/
inductive Reads (bodies : List (String × Pattern)) :
    List Char → List (String × List Char) → List Char → Prop
  | done {rest : List Char} : Reads bodies rest [] rest
  | space {x : Char} {cs rest : List Char} {found : List (String × List Char)} :
      Text.isSpace x → Reads bodies cs found rest → Reads bodies (x :: cs) found rest
  | token {kind : String} {a cs rest : List Char} {found : List (String × List Char)} :
      firstToken? bodies cs = some (kind, a) → Reads bodies (cs.drop a.length) found rest →
      Reads bodies cs ((kind, a) :: found) rest

namespace Reads

variable {bodies : List (String × Pattern)} {cs ds rest : List Char}
  {found more : List (String × List Char)}

theorem append (first : Reads bodies cs found ds) (second : Reads bodies ds more rest) :
    Reads bodies cs (found ++ more) rest := by
  induction first with
  | done => exact second
  | space hx _ ih => exact .space hx (ih second)
  | token hfirst _ ih => exact .token hfirst (ih second)

end Reads

/-- What is read of a text to its end, if it can be; the characters ahead are fuel. -/
def readAll? (bodies : List (String × Pattern)) :
    List Char → List Char → Option (List (String × List Char))
  | _, [] => some []
  | [], _ :: _ => none
  | _ :: ahead, x :: cs =>
    if Text.isSpace x then readAll? bodies ahead cs
    else (firstToken? bodies (x :: cs)).bind fun token =>
      (readAll? bodies ahead ((x :: cs).drop token.2.length)).map (token :: ·)

theorem reads_of_readAll? {bodies : List (String × Pattern)} {ahead cs : List Char}
    {found : List (String × List Char)} (h : readAll? bodies ahead cs = some found) :
    Reads bodies cs found [] := by
  induction ahead generalizing cs found with
  | nil =>
    cases cs <;> cases h
    exact .done
  | cons _ ahead ih =>
    cases cs with
    | nil =>
      cases h
      exact .done
    | cons x cs =>
      rw [readAll?] at h
      split_ifs at h with hx
      · exact .space hx (ih h)
      · obtain ⟨token, hfirst, hrest⟩ := Option.bind_eq_some_iff.1 h
        obtain ⟨more, hmore, rfl⟩ := Option.map_eq_some_iff.1 hrest
        exact .token hfirst (ih hmore)

/-- A text that stands at an offset is split into tokens: whitespace is left out, each token is the
first that is found at its place with all that follows in view, and those of ignored kinds are
dropped. -/
inductive SplitsAt (bodies : List (String × Pattern)) (ignored : List String) :
    ℕ → List Char → List Token → Prop
  | done {n : ℕ} : SplitsAt bodies ignored n [] []
  | space {n : ℕ} {x : Char} {cs : List Char} {ts : List Token} :
      Text.isSpace x → SplitsAt bodies ignored (n + 1) cs ts →
      SplitsAt bodies ignored n (x :: cs) ts
  | token {n : ℕ} {kind : String} {a cs : List Char} {ts : List Token} :
      firstToken? bodies cs = some (kind, a) →
      SplitsAt bodies ignored (n + a.length) (cs.drop a.length) ts →
      SplitsAt bodies ignored n cs
        (if ignored.contains kind then ts else ⟨kind, String.ofList a, n⟩ :: ts)

namespace SplitsAt

variable {bodies : List (String × Pattern)} {ignored : List String} {n : ℕ} {kind : String}
  {a cs : List Char} {ts : List Token}

theorem found (hfirst : firstToken? bodies (a ++ cs) = some (kind, a))
    (h : SplitsAt bodies ignored (n + a.length) cs ts) : SplitsAt bodies ignored n (a ++ cs)
      (if ignored.contains kind then ts else ⟨kind, String.ofList a, n⟩ :: ts) := by
  refine .token hfirst ?_
  rwa [List.drop_left]

theorem dropped (hfirst : firstToken? bodies (a ++ cs) = some (kind, a)) (hkind : kind ∈ ignored)
    (h : SplitsAt bodies ignored (n + a.length) cs ts) :
    SplitsAt bodies ignored n (a ++ cs) ts := by
  simpa [hkind] using found hfirst h

theorem kept (hfirst : firstToken? bodies (a ++ cs) = some (kind, a)) (hkind : kind ∉ ignored)
    (h : SplitsAt bodies ignored (n + a.length) cs ts) :
    SplitsAt bodies ignored n (a ++ cs) (⟨kind, String.ofList a, n⟩ :: ts) := by
  simpa [hkind] using found hfirst h

end SplitsAt

/-- What is read of a text at any offset is what it is split into, without what is ignored. -/
theorem Reads.splitsAt {bodies : List (String × Pattern)} {cs rest : List Char}
    {found : List (String × List Char)} (h : Reads bodies cs found rest) (hrest : rest = [])
    (ignored : List String) (n : ℕ) :
    ∃ ts, SplitsAt bodies ignored n cs ts ∧
      ts.map (fun t => (t.kind, t.text)) =
        (found.filter fun x => !ignored.contains x.1).map fun x => (x.1, String.ofList x.2) := by
  induction h generalizing n with
  | done => exact ⟨[], hrest ▸ .done, rfl⟩
  | space hx _ ih =>
    obtain ⟨ts, hsplits, hts⟩ := ih hrest (n + 1)
    exact ⟨ts, .space hx hsplits, hts⟩
  | @token kind a cs rest found hfirst _ ih =>
    obtain ⟨ts, hsplits, hts⟩ := ih hrest (n + a.length)
    refine ⟨_, .token hfirst hsplits, ?_⟩
    by_cases hkind : ignored.contains kind
    · rw [if_pos hkind, hts, List.filter_cons_of_neg (by simpa using hkind)]
    · rw [if_neg hkind, List.filter_cons_of_pos (by simpa using hkind), List.map_cons,
        List.map_cons, hts]

theorem firstToken?_space {bodies : List (String × Pattern)}
    (hbodies : ∀ body ∈ bodies, body.2.IsBody) {x : Char} (hx : Text.isSpace x) (cs : List Char) :
    firstToken? bodies (x :: cs) = none := by
  rw [firstToken?, List.findSome?_eq_none_iff]
  intro body hbody
  rw [(hbodies body hbody).prefixes_space x cs hx]
  rfl

theorem head_of_firstToken? {bodies : List (String × Pattern)}
    (hbodies : ∀ body ∈ bodies, body.2.IsBody) {cs : List Char} {found : String × List Char}
    (h : firstToken? bodies cs = some found) : Text.trimStart cs = cs := by
  cases cs with
  | nil => rfl
  | cons x cs =>
    by_cases hx : Text.isSpace x
    · rw [firstToken?_space hbodies hx] at h
      cases h
    · exact List.dropWhile_cons_of_neg hx

/-- The first token at a place is a match of one of the bodies. -/
theorem exists_of_firstToken? {bodies : List (String × Pattern)} {cs a : List Char}
    {kind : String} (h : firstToken? bodies cs = some (kind, a)) :
    ∃ body ∈ bodies, body.1 = kind ∧ a ∈ body.2.prefixes cs ∧ a ≠ [] := by
  obtain ⟨body, hmem, hbody⟩ := List.exists_of_findSome?_eq_some h
  obtain ⟨b, hb, heq⟩ := Option.map_eq_some_iff.1 hbody
  cases heq
  obtain ⟨hhead, hne⟩ := Option.filter_eq_some_iff.1 hb
  exact ⟨body, hmem, rfl, List.mem_of_head? hhead, by simpa using hne⟩

/-- The body that comes first among those that can start as the text does. -/
theorem firstToken?_of_split {bodies first more : List (String × Pattern)} {kind : String}
    {body : Pattern} (hbodies : bodies = first ++ (kind, body) :: more) {x : Char}
    {cs a : List Char} (hfirst : ∀ b ∈ first, ∃ set ∈ b.2.headSet?, ¬set.holds x)
    (ha : (body.prefixes (x :: cs)).head? = some a) (hne : a ≠ []) :
    firstToken? bodies (x :: cs) = some (kind, a) := by
  have hskip : firstToken? first (x :: cs) = none := by
    rw [firstToken?, List.findSome?_eq_none_iff]
    intro b hb
    obtain ⟨set, hset, hholds⟩ := hfirst b hb
    rw [prefixes_of_head hset (by simpa using hholds)]
    rfl
  rw [firstToken?] at hskip
  rw [firstToken?, hbodies, List.findSome?_append, hskip, List.findSome?_cons, ha]
  simp [Option.filter_some, hne]

/-- A rest of nothing but whitespace ends the text. -/
theorem scanFrom_of_all {l : Lexicon} {c : Cursor} (h : c.after.all Text.isSpace)
    (ahead : List Char) : l.scanFrom ahead c = .ok [] := by
  cases ahead <;> rw [scanFrom, if_pos h]

/-- A token that is found is kept unless its kind is ignored. -/
theorem scanFrom_cons {l : Lexicon} {x : Char} {ahead : List Char} {c d : Cursor} {t : Token}
    {ts : List Token} (hspace : ¬ c.after.all Text.isSpace)
    (hmatch : l.match? c = .ok (some (t, d)))
    (hscan : l.scanFrom ahead d = .ok ts) :
    l.scanFrom (x :: ahead) c = .ok (if l.ignored.contains t.kind then ts else t :: ts) := by
  rw [scanFrom, if_neg hspace, hmatch]
  simp only [bind, Except.bind, hscan]
  rfl

theorem scanFrom_cons_error {l : Lexicon} {x : Char} {ahead : List Char} {c d : Cursor} {t : Token}
    {fault : ScanError} (hspace : ¬ c.after.all Text.isSpace)
    (hmatch : l.match? c = .ok (some (t, d))) (hscan : l.scanFrom ahead d = .error fault) :
    l.scanFrom (x :: ahead) c = .error fault := by
  rw [scanFrom, if_neg hspace, hmatch]
  simp only [bind, Except.bind, hscan]

section Scan

variable {l : Lexicon} {rule : CaseRule} {bodies : List (String × Pattern)}
  (hbodies : ∀ body ∈ bodies, body.2.IsBody) (hentries : l.entries = entriesOf rule bodies)

include hbodies hentries

/-- The token at a cursor is the first one at the text behind the whitespace. -/
theorem match?_of_firstToken? {c : Cursor} {kind : String} {a : List Char}
    (h : firstToken? bodies (Text.trimStart c.after) = some (kind, a)) :
    l.match? c =
      .ok (some (⟨kind, String.ofList a, (c.past (gap c)).offset⟩, c.past (gap c ++ a))) := by
  rw [Lexicon.match?, hentries, firstMatch?_entriesOf hbodies, h]
  rfl

/-- A token that is found at an offset is matched there, and the scanner goes on behind it. -/
theorem step_of_firstToken? {n : ℕ} {c : Cursor} {kind : String} {a cs : List Char}
    (hfirst : firstToken? bodies cs = some (kind, a))
    (hafter : Text.trimStart c.after = Text.trimStart cs)
    (hoffset : c.offset + c.after.length = n + cs.length) :
    ¬c.after.all Text.isSpace ∧
      l.match? c = .ok (some (⟨kind, String.ofList a, n⟩, c.past (gap c ++ a))) ∧
      (c.past (gap c ++ a)).after = cs.drop a.length ∧
      (c.past (gap c ++ a)).offset + (c.past (gap c ++ a)).after.length =
        n + a.length + (cs.drop a.length).length ∧
      (c.past (gap c ++ a)).after.length < c.after.length := by
  rw [head_of_firstToken? hbodies hfirst] at hafter
  obtain ⟨body, -, -, hprefix, hne⟩ := exists_of_firstToken? hfirst
  have hle := (isPrefix_of_mem hprefix).length_le
  have hpos := List.length_pos_iff.2 hne
  have hlength : (gap c).length + cs.length = c.after.length := by
    rw [← hafter, ← List.length_append, gap, Text.trimStart, List.takeWhile_append_dropWhile]
  have hdrop : (c.past (gap c ++ a)).after = cs.drop a.length := by
    rw [Cursor.after_past, List.length_append, ← List.drop_drop, drop_gap, hafter]
  have hplace : (c.past (gap c)).offset = n := by
    rw [Cursor.offset_past]
    omega
  refine ⟨fun hall => ?_, ?_, hdrop, ?_, ?_⟩
  · rw [Text.trimStart, List.dropWhile_eq_nil_iff.2 (List.all_eq_true.1 hall)] at hafter
    rw [← hafter, List.length_nil] at hle
    omega
  · have hmatch := match?_of_firstToken? hbodies hentries (hafter ▸ hfirst)
    rwa [hplace] at hmatch
  · rw [hdrop, Cursor.offset_past, List.length_append, List.length_drop]
    omega
  · rw [hdrop, List.length_drop]
    omega

/-- Scanning gives the tokens that a text is split into.  Whitespace in front is matched with the
token behind it, so that it may be passed in the text before the cursor passes it. -/
theorem scanFrom_of_splitsAt {n : ℕ} {cs : List Char} {ts : List Token}
    (h : SplitsAt bodies l.ignored n cs ts) {ahead : List Char} {c : Cursor}
    (hafter : Text.trimStart c.after = Text.trimStart cs)
    (hoffset : c.offset + c.after.length = n + cs.length)
    (hahead : c.after.length ≤ ahead.length) : l.scanFrom ahead c = .ok ts := by
  induction h generalizing ahead c with
  | done => exact scanFrom_of_all (List.all_eq_true.2 (List.dropWhile_eq_nil_iff.1 hafter)) ahead
  | space hx _ ih =>
    refine ih (hafter.trans ?_) ?_ hahead
    · exact List.dropWhile_cons_of_pos hx
    · rw [hoffset, List.length_cons]
      omega
  | @token n kind a cs ts hfirst _ ih =>
    obtain ⟨hspace, hmatch, hafter', hoffset', hlength⟩ :=
      step_of_firstToken? hbodies hentries hfirst hafter hoffset
    -- the token is not empty, so that less is ahead of the next one
    obtain ⟨x, ahead, rfl⟩ := List.exists_cons_of_length_pos (l := ahead) (by omega)
    rw [List.length_cons] at hahead
    refine scanFrom_cons hspace hmatch (ih (congrArg Text.trimStart hafter') hoffset' ?_)
    omega

/-- A text is scanned into the tokens that it is split into. -/
theorem scan_of_splitsAt {text : String} {ts : List Token}
    (h : SplitsAt bodies l.ignored 0 text.toList ts) : l.scan text = .ok ts := by
  refine scanFrom_of_splitsAt hbodies hentries h rfl ?_ le_rfl
  simp [Cursor.start]

/-- A text that is read to its end is split into what is read, without what is ignored. -/
theorem scan_of_reads {text : String} {found : List (String × List Char)}
    (h : Reads bodies text.toList found []) :
    ∃ ts, l.scan text = .ok ts ∧
      ts.map (fun t => (t.kind, t.text)) =
        (found.filter fun x => !l.ignored.contains x.1).map fun x => (x.1, String.ofList x.2) := by
  obtain ⟨ts, hsplits, hts⟩ := h.splitsAt rfl l.ignored 0
  exact ⟨ts, scan_of_splitsAt hbodies hentries hsplits, hts⟩

/-- Scanning fails in front of what starts no token. -/
theorem scanFrom_stuck {m : ℕ} {x : Char} {more ahead : List Char} {c : Cursor}
    (hnone : firstToken? bodies (x :: more) = none) (hafter : Text.trimStart c.after = x :: more)
    (hoffset : c.offset + c.after.length = m + (x :: more).length)
    (hahead : c.after.length ≤ ahead.length) :
    l.scanFrom ahead c = .error (.lex ⟨m, String.ofList ((x :: more).take previewLength)⟩) := by
  have hspace : ¬c.after.all Text.isSpace := by
    intro hall
    rw [Text.trimStart, List.dropWhile_eq_nil_iff.2 (List.all_eq_true.1 hall)] at hafter
    cases hafter
  have hlength : (gap c).length + (x :: more).length = c.after.length := by
    rw [← hafter, ← List.length_append, gap, Text.trimStart, List.takeWhile_append_dropWhile]
  have hmatch : l.match? c = .ok none := by
    rw [Lexicon.match?, hentries, firstMatch?_entriesOf hbodies, hafter, hnone]
    rfl
  have hplace : c.offset + (c.after.takeWhile Text.isSpace).length = m := by
    rw [gap] at hlength
    omega
  rw [List.length_cons] at hlength
  obtain ⟨y, ahead, rfl⟩ := List.exists_cons_of_length_pos (l := ahead) (by omega)
  rw [scanFrom, if_neg hspace, hmatch]
  simp only [bind, Except.bind, errorAt, hplace, hafter]

/-- Scanning fails where a text that is read goes on with what starts no token. -/
theorem scanFrom_of_reads_stuck {n m : ℕ} {cs rest : List Char} {found : List (String × List Char)}
    {x : Char} {more : List Char} (h : Reads bodies cs found rest) (hrest : rest = x :: more)
    (hx : ¬Text.isSpace x) (hnone : firstToken? bodies rest = none)
    (hm : m + rest.length = n + cs.length) {ahead : List Char} {c : Cursor}
    (hafter : Text.trimStart c.after = Text.trimStart cs)
    (hoffset : c.offset + c.after.length = n + cs.length)
    (hahead : c.after.length ≤ ahead.length) :
    l.scanFrom ahead c = .error (.lex ⟨m, String.ofList (rest.take previewLength)⟩) := by
  induction h generalizing n ahead c with
  | @done rest =>
    subst hrest
    have htrim : Text.trimStart (x :: more) = x :: more := List.dropWhile_cons_of_neg hx
    exact scanFrom_stuck hbodies hentries hnone (hafter.trans htrim) (hoffset.trans hm.symm) hahead
  | @space y cs rest found hy _ ih =>
    refine ih (n := n + 1) hrest hnone ?_ (hafter.trans (List.dropWhile_cons_of_pos hy)) ?_ hahead
    · rw [hm, List.length_cons]
      omega
    · rw [hoffset, List.length_cons]
      omega
  | @token kind a cs rest found hfirst _ ih =>
    obtain ⟨hspace, hmatch, hafter', hoffset', hlength⟩ :=
      step_of_firstToken? hbodies hentries hfirst hafter hoffset
    obtain ⟨body, -, -, hprefix, -⟩ := exists_of_firstToken? hfirst
    have hle := (isPrefix_of_mem hprefix).length_le
    obtain ⟨y, ahead, rfl⟩ := List.exists_cons_of_length_pos (l := ahead) (by omega)
    rw [List.length_cons] at hahead
    refine scanFrom_cons_error hspace hmatch
      (ih hrest hnone ?_ (congrArg Text.trimStart hafter') hoffset' ?_)
    · rw [hm, List.length_drop]
      omega
    · omega

/-- A text is refused where what is read of it stops in front of what starts no token. -/
theorem scan_of_reads_stuck {text : String} {x : Char} {more : List Char}
    {found : List (String × List Char)} (h : Reads bodies text.toList found (x :: more))
    (hx : ¬Text.isSpace x) (hnone : firstToken? bodies (x :: more) = none) {m : ℕ}
    (hm : m + (x :: more).length = text.toList.length) :
    l.scan text = .error (.lex ⟨m, String.ofList ((x :: more).take previewLength)⟩) := by
  refine scanFrom_of_reads_stuck (n := 0) hbodies hentries h rfl hx hnone ?_ rfl ?_ le_rfl
  · rw [hm, Nat.zero_add]
  · simp [Cursor.start]

end Scan

/-! ### The tokens that there are -/

/-- Whether some lexer rule of a kind that is not ignored matches such a token somewhere. -/
def Produces (l : Lexicon) (t : Token) : Prop :=
  t.kind ∉ l.ignored ∧ ∃ e ∈ l.entries, ∃ c found d,
    LexEntry.match? e c = .ok (some (found, d)) ∧ found.alike t

theorem exists_of_firstMatch? {c : Cursor} {entries : List LexEntry} {found : Token × Cursor}
    (h : firstMatch? c entries = .ok (some found)) :
    ∃ e ∈ entries, LexEntry.match? e c = .ok (some found) := by
  induction entries with
  | nil => cases h
  | cons e entries ih =>
    rw [firstMatch?] at h
    cases he : LexEntry.match? e c with
    | error fault => rw [he] at h; cases h
    | ok result =>
      rw [he] at h
      cases result with
      | some found' =>
        cases h
        exact ⟨e, List.mem_cons_self, he⟩
      | none =>
        obtain ⟨e', hmem, he'⟩ := ih h
        exact ⟨e', List.mem_cons_of_mem e hmem, he'⟩

theorem produces_of_mem_scanFrom {l : Lexicon} {ahead : List Char} {c : Cursor} {ts : List Token}
    (h : l.scanFrom ahead c = .ok ts) : ∀ t ∈ ts, l.Produces t := by
  induction ahead generalizing c ts with
  | nil =>
    rw [scanFrom] at h
    split at h <;> cases h
    simp
  | cons x ahead ih =>
    rw [scanFrom] at h
    split at h
    · cases h
      simp
    · cases hmatch : l.match? c with
      | error fault => rw [hmatch] at h; cases h
      | ok result =>
        rw [hmatch] at h
        cases result with
        | none => cases h
        | some found =>
          obtain ⟨t, d⟩ := found
          cases hscan : l.scanFrom ahead d with
          | error fault =>
            simp only [bind, Except.bind, hscan] at h
            cases h
          | ok rest =>
            simp only [bind, Except.bind, hscan] at h
            cases h
            split
            · exact ih hscan
            · next hkind =>
              obtain ⟨e, he, hfound⟩ := exists_of_firstMatch? hmatch
              rw [List.forall_mem_cons]
              exact ⟨⟨by simpa using hkind, e, he, c, t, d, hfound, t.alike_refl⟩, ih hscan⟩

/-- A text is split into tokens that there are. -/
theorem produces_of_mem_scan {l : Lexicon} {text : String} {ts : List Token}
    (h : l.scan text = .ok ts) : ∀ t ∈ ts, l.Produces t :=
  produces_of_mem_scanFrom h

/-- The token of a match is what the match keeps, which is not empty. -/
theorem exists_of_match? {e : LexEntry} {c d : Cursor} {t : Token}
    (h : LexEntry.match? e c = .ok (some (t, d))) :
    ∃ s group, e.pattern.matchAt c = some s ∧ s.capture? 1 = some group ∧
      group.first.offset < group.last.offset ∧ d = s.cursor ∧
      t = ⟨e.kind, String.ofList group.text, group.first.offset⟩ := by
  rw [LexEntry.match?] at h
  split at h
  · cases h
  · next s hmatch =>
    split at h
    · split at h <;> cases h
    · next group hgroup =>
      split at h
      · next hlt =>
        cases h
        exact ⟨s, group, hmatch, hgroup, hlt, rfl, rfl⟩
      · cases h

theorem kind_of_match? {e : LexEntry} {c d : Cursor} {t : Token}
    (h : LexEntry.match? e c = .ok (some (t, d))) : t.kind = e.kind := by
  obtain ⟨s, group, -, -, -, -, rfl⟩ := exists_of_match? h
  rfl

/-- A token has the kind of one of the entries. -/
theorem Produces.exists_entry {l : Lexicon} {t : Token} (h : l.Produces t) :
    ∃ e ∈ l.entries, e.kind = t.kind := by
  obtain ⟨-, e, he, c, found, d, hmatch, halike⟩ := h
  exact ⟨e, he, (kind_of_match? hmatch).symm.trans (Token.alike_iff.1 halike).1⟩

theorem Produces.exists_body {l : Lexicon} {rule : CaseRule} {bodies : List (String × Pattern)}
    (hbodies : ∀ body ∈ bodies, body.2.IsBody) (hentries : l.entries = entriesOf rule bodies)
    {t : Token} (h : l.Produces t) :
    ∃ body ∈ bodies, body.1 = t.kind ∧ ∃ cs, t.text.toList ∈ body.2.prefixes cs := by
  obtain ⟨-, e, he, c, found, d, hmatch, halike⟩ := h
  obtain ⟨hkind, htext⟩ := Token.alike_iff.1 halike
  rw [hentries] at he
  obtain ⟨body, hbody, rfl⟩ := List.mem_map.1 he
  rw [LexEntry.match?_enclosed (hbodies body hbody)] at hmatch
  obtain ⟨a, ha, heq⟩ := Option.map_eq_some_iff.1 (Except.ok.inj hmatch)
  obtain ⟨hhead, -⟩ := Option.filter_eq_some_iff.1 ha
  obtain ⟨rfl, rfl⟩ := Prod.mk.inj heq
  refine ⟨body, hbody, hkind, Text.trimStart c.after, ?_⟩
  rw [← htext, String.toList_ofList]
  exact List.mem_of_head? hhead

/-! ### The errors that there are -/

theorem keeps_of_match?_error {e : LexEntry} {c : Cursor} {fault : ScanError}
    (h : LexEntry.match? e c = .error fault) :
    e.pattern.keeps 1 = false ∧ fault = .noGroup e.kind := by
  rw [LexEntry.match?] at h
  split at h
  · cases h
  · split at h
    · split at h
      · cases h
      · next hkeeps =>
        cases h
        exact ⟨by simpa using hkeeps, rfl⟩
    · split at h <;> cases h

theorem exists_of_firstMatch?_error {c : Cursor} {entries : List LexEntry} {fault : ScanError}
    (h : firstMatch? c entries = .error fault) :
    ∃ e ∈ entries, e.pattern.keeps 1 = false ∧ fault = .noGroup e.kind := by
  induction entries with
  | nil => cases h
  | cons e entries ih =>
    rw [firstMatch?] at h
    cases he : LexEntry.match? e c with
    | error fault' =>
      rw [he] at h
      cases h
      exact ⟨e, List.mem_cons_self, keeps_of_match?_error he⟩
    | ok result =>
      rw [he] at h
      cases result with
      | some found => cases h
      | none =>
        obtain ⟨e', hmem, he'⟩ := ih h
        exact ⟨e', List.mem_cons_of_mem e hmem, he'⟩

theorem scanFrom_error_cases {l : Lexicon} {ahead : List Char} {c : Cursor} {fault : ScanError}
    (h : l.scanFrom ahead c = .error fault) : (∃ e, fault = .lex e) ∨
      (∃ e ∈ l.entries, e.pattern.keeps 1 = false ∧ fault = .noGroup e.kind) ∨
      fault = .endless := by
  induction ahead generalizing c with
  | nil =>
    rw [scanFrom] at h
    split at h <;> cases h
    exact .inr (.inr rfl)
  | cons x ahead ih =>
    rw [scanFrom] at h
    split at h
    · cases h
    · cases hmatch : l.match? c with
      | error fault' =>
        rw [hmatch] at h
        cases h
        exact .inr (.inl (exists_of_firstMatch?_error hmatch))
      | ok result =>
        rw [hmatch] at h
        cases result with
        | none => cases h; exact .inl ⟨_, rfl⟩
        | some found =>
          obtain ⟨t, d⟩ := found
          cases hscan : l.scanFrom ahead d with
          | error fault' =>
            simp only [bind, Except.bind, hscan] at h
            cases h
            exact ih hscan
          | ok rest => simp only [bind, Except.bind, hscan] at h; cases h

/-- A text is not split because no pattern matches somewhere, or one does that keeps no group, or
the scan does not end. -/
theorem scan_error_cases {l : Lexicon} {text : String} {fault : ScanError}
    (h : l.scan text = .error fault) : (∃ e, fault = .lex e) ∨
      (∃ e ∈ l.entries, e.pattern.keeps 1 = false ∧ fault = .noGroup e.kind) ∨
      fault = .endless :=
  scanFrom_error_cases h

end Lexicon

end OrderedGrammar
