import OrderedGrammar.Proofs.Construction
import OrderedGrammar.Proofs.Pattern.Enclosing
import OrderedGrammar.Proofs.Pattern.Extent

/-!
# The parts of a text

Scanning takes a text apart: it is gaps of whitespace and the tokens behind them, in turn, up to
whitespace at its end, or up to a place where no rule matches (`Lexicon.scan_partition`).  Each
token is a match of the first rule that has one there with a character in it, whatever the patterns
are made of.

All that is asked of a pattern is that it is one on its own.  It is read in parentheses then, behind
whitespace that it may give back, and what the parentheses keep is the token
(`Lexicon.LexEntry.finds_or_not`).

## Main definitions

* `Rule.Finds` : a lexer rule matches at a place, with a character at least.
* `Piece` : a gap and the token behind it.
* `Splits` : a text is taken apart up to a place.
-/

namespace OrderedGrammar

open Pattern

/-! ### The match of a rule -/

/-- Whether an entry matches at a place: a gap, then a token with a character at least. -/
structure LexEntry.Finds (e : LexEntry) (c : Cursor) (gap token : List Char) : Prop where
  ne_nil : token ≠ []
  isPrefix : gap ++ token <+: c.after
  matches_at : ∃ s, e.pattern.matchAt c = some s ∧ s.cursor = c.past (gap ++ token) ∧
    s.capture? 1 = some ⟨c.past gap, c.past (gap ++ token)⟩

/-- Whether a lexer rule matches at a place: a gap, then a token with a character at least. -/
def Rule.Finds (ignoreCase : Bool) (rule : Rule) (c : Cursor) (gap token : List Char) : Prop :=
  ∃ e, Lexicon.entry ignoreCase rule = .ok e ∧ e.Finds c gap token

/-- Whether a lexer rule has a pattern that is one on its own. -/
def Rule.IsValid (ignoreCase : Bool) (rule : Rule) : Prop :=
  ∃ pattern, rule.pattern? = some pattern ∧ (Pattern.read ignoreCase pattern.toList).isOk

/-- What a body in parentheses matches: whitespace, then what the parentheses keep. -/
theorem Pattern.exists_of_matchAt_enclosed {rule : CaseRule} {body : Pattern}
    (hbody : body.keeps 1 = false) {c : Cursor} {s : State}
    (h : (enclosed rule body).matchAt c = some s) :
    ∃ gap token, gap.all Text.isSpace ∧ gap ++ token <+: c.after ∧
      s.cursor = c.past (gap ++ token) ∧
      s.capture? 1 = some ⟨c.past gap, c.past (gap ++ token)⟩ := by
  have hspaces : (Pattern.star (.char (spaceSet rule))).isPlain := rfl
  rw [matchAt, enclosed, run, run_of_isPlain hspaces] at h
  obtain ⟨gap, hgap, h⟩ := List.exists_of_findSome?_eq_some h
  obtain ⟨t, ⟨⟨token, htoken, hcursor⟩, hentered, -⟩, h⟩ := run_advances hbody h
  cases h
  replace hcursor : t.cursor = c.past (gap ++ token) := hcursor.trans (Cursor.past_past _ _ _)
  have hspace : gap.all Text.isSpace := by
    rw [List.all_eq_true]
    intro x hx
    have hholds := all_of_mem_prefixes_star_char hgap x hx
    rwa [holds_spaceSet] at hholds
  refine ⟨gap, token, hspace, append_isPrefix (isPrefix_of_mem hgap) htoken, hcursor, ?_⟩
  have hfirst : (t.leave 1).entered.lookup 1 = some (c.past gap) := by
    rw [State.leave, hentered, State.enter, List.lookup_cons_self]
    rfl
  have hlast : (t.leave 1).left.lookup 1 = some (c.past (gap ++ token)) := by
    rw [State.leave, List.lookup_cons_self, hcursor]
  rw [State.capture?, hfirst, hlast]
  simp

namespace Lexicon

/-- An entry for a pattern in parentheses finds a token behind whitespace, or has no match with a
character in it. -/
theorem LexEntry.finds_or_not {rule : CaseRule} {body : Pattern} (hbody : body.keeps 1 = false)
    (kind : String) (c : Cursor) :
    (∃ gap token, gap.all Text.isSpace ∧ (LexEntry.mk kind (enclosed rule body)).Finds c gap token ∧
      LexEntry.match? ⟨kind, enclosed rule body⟩ c =
        .ok (some (⟨kind, String.ofList token, (c.past gap).offset⟩, c.past (gap ++ token)))) ∨
    (∀ gap token, ¬(LexEntry.mk kind (enclosed rule body)).Finds c gap token) ∧
      LexEntry.match? ⟨kind, enclosed rule body⟩ c = .ok none := by
  rw [LexEntry.match?]
  cases hmatch : (enclosed rule body).matchAt c with
  | none =>
    refine .inr ⟨?_, rfl⟩
    rintro gap token ⟨_, _, s, hs, _⟩
    rw [hmatch] at hs
    cases hs
  | some s =>
    obtain ⟨gap, token, hspace, hprefix, hcursor, hcapture⟩ :=
      exists_of_matchAt_enclosed hbody hmatch
    have htoken : token <+: (c.past gap).after := by
      obtain ⟨rest, hrest⟩ := hprefix
      rw [Cursor.after_past, ← hrest, List.append_assoc, List.drop_left]
      exact List.prefix_append token rest
    have htext : Capture.text ⟨c.past gap, c.past (gap ++ token)⟩ = token := by
      rw [Capture.text, ← Cursor.past_past, Cursor.slice_past htoken]
    simp only [hcapture, htext, hcursor]
    by_cases hne : token = []
    · refine .inr ⟨?_, ?_⟩
      · -- the matcher keeps one stretch only, and that is empty
        rintro gap' token' ⟨hne', hprefix', s', hs', hcursor', hcapture'⟩
        refine hne' ?_
        cases hmatch.symm.trans hs'
        have hsame := Capture.mk.inj (Option.some.inj (hcapture.symm.trans hcapture'))
        have hfirst := congrArg Cursor.offset hsame.1
        have hlast := congrArg Cursor.offset hsame.2
        simp only [Cursor.offset_past, List.length_append, hne, List.length_nil] at hfirst hlast
        exact List.eq_nil_of_length_eq_zero (by omega)
      · rw [if_neg (by simp [hne])]
    · refine .inl ⟨gap, token, hspace, ⟨hne, hprefix, s, hmatch, hcursor, hcapture⟩, ?_⟩
      rw [if_pos (by simp [List.length_pos_iff.2 hne])]

end Lexicon

/-! ### The first rule that matches -/

variable {ignoreCase : Bool} {rules : List Rule} {c d : Cursor} {gap token : List Char}

/-- Whether a rule is the first of several to match at a place. -/
def FindsFirst (ignoreCase : Bool) (rules : List Rule) (c : Cursor) (rule : Rule)
    (gap token : List Char) : Prop :=
  ∃ before after, rules = before ++ rule :: after ∧ rule.Finds ignoreCase c gap token ∧
    ∀ earlier ∈ before, ∀ gap token, ¬earlier.Finds ignoreCase c gap token

/-- The entry of a rule, whose pattern is one on its own. -/
theorem Rule.IsValid.exists_body {rule : Rule} (hrule : rule.IsValid ignoreCase) {e : LexEntry}
    (he : Lexicon.entry ignoreCase rule = .ok e) :
    ∃ caseRule body, body.keeps 1 = false ∧ e = ⟨rule.name, enclosed caseRule body⟩ := by
  obtain ⟨pattern, hpattern, halone⟩ := hrule
  rw [Lexicon.entry, hpattern] at he
  dsimp only at he
  split at he
  · next p hread =>
    cases he
    obtain ⟨caseRule, body, hbody, rfl⟩ := exists_body_of_read_enclose halone hread
    exact ⟨caseRule, body, hbody, rfl⟩
  · split at he <;> cases he

theorem Rule.finds_iff {rule : Rule} {e : LexEntry} (he : Lexicon.entry ignoreCase rule = .ok e) :
    rule.Finds ignoreCase c gap token ↔ e.Finds c gap token := by
  constructor
  · rintro ⟨e', he', hfinds⟩
    rw [he] at he'
    cases he'
    exact hfinds
  · exact fun hfinds => ⟨e, he, hfinds⟩

/-- A lexicon finds what the first of its rules finds, and nothing where none finds anything. -/
theorem Lexicon.firstMatch?_cases {entries : List LexEntry}
    (hentries : rules.mapM (entry ignoreCase) = .ok entries)
    (hvalid : ∀ rule ∈ rules, rule.IsValid ignoreCase) (c : Cursor) :
    (∃ rule gap token, gap.all Text.isSpace ∧ FindsFirst ignoreCase rules c rule gap token ∧
      firstMatch? c entries = .ok (some (⟨rule.name, String.ofList token, (c.past gap).offset⟩,
        c.past (gap ++ token)))) ∨
    (∀ rule ∈ rules, ∀ gap token, ¬rule.Finds ignoreCase c gap token) ∧
      firstMatch? c entries = .ok none := by
  induction rules generalizing entries with
  | nil =>
    cases hentries
    exact .inr ⟨by simp, rfl⟩
  | cons rule rules ih =>
    rw [List.mapM_cons] at hentries
    obtain ⟨e, he, hentries⟩ := exists_ok_of_bind hentries
    obtain ⟨entries, hmap, hentries⟩ := exists_ok_of_bind hentries
    cases hentries
    obtain ⟨hrule, hvalid⟩ := List.forall_mem_cons.1 hvalid
    obtain ⟨caseRule, body, hbody, rfl⟩ := hrule.exists_body he
    rw [firstMatch?]
    rcases LexEntry.finds_or_not hbody rule.name c with
      ⟨gap, token, hspace, hfinds, hmatch⟩ | ⟨hnot, hmatch⟩
    · refine .inl ⟨rule, gap, token, hspace,
        ⟨[], rules, rfl, (Rule.finds_iff he).2 hfinds, by simp⟩, ?_⟩
      rw [hmatch]
      rfl
    · replace hnot : ∀ gap token, ¬rule.Finds ignoreCase c gap token :=
        fun gap token h => hnot gap token ((Rule.finds_iff he).1 h)
      rw [hmatch]
      rcases ih hmap hvalid with ⟨first, gap, token, hspace, hfirst, hfound⟩ | ⟨hnone, hfound⟩
      -- the first rule that finds a token is a later one, and this one finds none
      · obtain ⟨before, after, hsplit, hfinds, hbefore⟩ := hfirst
        refine .inl ⟨first, gap, token, hspace, ⟨rule :: before, after, ?_, hfinds, ?_⟩, hfound⟩
        · rw [hsplit, List.cons_append]
        · exact List.forall_mem_cons.2 ⟨hnot, hbefore⟩
      · exact .inr ⟨List.forall_mem_cons.2 ⟨hnot, hnone⟩, hfound⟩

/-! ### Pieces of a text -/

/-- A gap and the token behind it. -/
structure Piece where
  gap : List Char
  kind : String
  text : List Char

namespace Piece

/-- The characters of a piece. -/
def chars (p : Piece) : List Char := p.gap ++ p.text

/-- The tokens of pieces in a row, the first of which starts at `offset`. -/
def tokens : ℕ → List Piece → List Token
  | _, [] => []
  | offset, p :: ps =>
    ⟨p.kind, String.ofList p.text, (offset + p.gap.length : ℕ)⟩ ::
      tokens (offset + p.chars.length) ps

/-- The text of a token is what stands at its offset. -/
theorem slice_of_mem_tokens {ps : List Piece} (before rest : List Char) {t : Token}
    (h : t ∈ tokens before.length ps) :
    ∃ offset : ℕ, t.offset = offset ∧
      ((before ++ ps.flatMap chars ++ rest).drop offset).take t.text.length = t.text.toList := by
  induction ps generalizing before with
  | nil => cases h
  | cons p ps ih =>
    rcases List.mem_cons.1 h with rfl | h
    · refine ⟨(before ++ p.gap).length, by simp, ?_⟩
      have hsplit : before ++ (p :: ps).flatMap chars ++ rest =
          (before ++ p.gap) ++ (p.text ++ (ps.flatMap chars ++ rest)) := by
        simp [chars]
      rw [hsplit, List.drop_left, String.length_ofList, List.take_left, String.toList_ofList]
    · rw [← List.length_append] at h
      have hmore := ih _ h
      rwa [List.append_assoc before] at hmore

end Piece

/-- A text is taken apart from one place to another: each piece is what the first rule finds that
finds anything at its place. -/
inductive Splits (ignoreCase : Bool) (rules : List Rule) : Cursor → List Piece → Cursor → Prop
  | done {c : Cursor} : Splits ignoreCase rules c [] c
  | piece {c d : Cursor} {rule : Rule} {gap text : List Char} {ps : List Piece} :
      FindsFirst ignoreCase rules c rule gap text →
      Splits ignoreCase rules (c.past (gap ++ text)) ps d →
      Splits ignoreCase rules c (⟨gap, rule.name, text⟩ :: ps) d

theorem Splits.eq_past {ps : List Piece} (h : Splits ignoreCase rules c ps d) :
    d = c.past (ps.flatMap Piece.chars) ∧ c.after = ps.flatMap Piece.chars ++ d.after := by
  induction h with
  | done => exact ⟨rfl, rfl⟩
  | @piece c d rule gap text ps hfirst _ ih =>
    obtain ⟨before, after, -, ⟨e, -, -, ⟨rest, hrest⟩, -⟩, -⟩ := hfirst
    obtain ⟨hd, hafter⟩ := ih
    rw [Cursor.past_past] at hd
    rw [Cursor.after_past, ← hrest, List.drop_left] at hafter
    refine ⟨hd, ?_⟩
    rw [← hrest, hafter, List.flatMap_cons, Piece.chars, List.append_assoc (gap ++ text)]

namespace Lexicon

/-- Scanning goes from piece to piece, until whitespace is all that is left or no rule matches. -/
theorem scanFrom_cases {l : Lexicon} (hentries : rules.mapM (entry ignoreCase) = .ok l.entries)
    (hvalid : ∀ rule ∈ rules, rule.IsValid ignoreCase) {ahead : List Char}
    (hahead : c.after.length ≤ ahead.length) :
    ∃ ps d, Splits ignoreCase rules c ps d ∧
      (∀ p ∈ ps, p.gap.all Text.isSpace ∧ p.text ≠ []) ∧
      (d.after.all Text.isSpace ∧
          l.scanFrom ahead c =
            .ok ((Piece.tokens c.offset ps).filter fun t => !l.ignored.contains t.kind) ∨
        ¬d.after.all Text.isSpace ∧
          (∀ rule ∈ rules, ∀ gap token, ¬rule.Finds ignoreCase d gap token) ∧
          l.scanFrom ahead c = .error (.lex (errorAt d))) := by
  induction ahead generalizing c with
  | nil =>
    have hafter : c.after = [] := List.eq_nil_of_length_eq_zero (Nat.le_zero.1 hahead)
    have hspace : c.after.all Text.isSpace := by simp [hafter]
    exact ⟨[], c, .done, by simp, .inl ⟨hspace, scanFrom_of_all hspace []⟩⟩
  | cons x ahead ih =>
    by_cases hspace : c.after.all Text.isSpace
    · exact ⟨[], c, .done, by simp, .inl ⟨hspace, by rw [scanFrom, if_pos hspace]; rfl⟩⟩
    rcases firstMatch?_cases hentries hvalid c with
      ⟨rule, gap, token, hgap, hfirst, hmatch⟩ | ⟨hnone, hmatch⟩
    · obtain ⟨hne, hprefix⟩ : token ≠ [] ∧ gap ++ token <+: c.after := by
        obtain ⟨_, _, _, ⟨_, _, hne, hprefix, _⟩, _⟩ := hfirst
        exact ⟨hne, hprefix⟩
      -- the token has a character, so that less is ahead of the next piece
      have hshorter : (c.past (gap ++ token)).after.length ≤ ahead.length := by
        have hpos := List.length_pos_iff.2 hne
        have hle := hprefix.length_le
        rw [List.length_append] at hle
        rw [List.length_cons] at hahead
        rw [Cursor.after_past, List.length_drop, List.length_append]
        omega
      obtain ⟨ps, d, hsplits, hpieces, hend⟩ := ih hshorter
      refine ⟨⟨gap, rule.name, token⟩ :: ps, d, .piece hfirst hsplits,
        List.forall_mem_cons.2 ⟨⟨hgap, hne⟩, hpieces⟩, ?_⟩
      rcases hend with ⟨hlast, hscan⟩ | ⟨hlast, hnone, hscan⟩
      · refine .inl ⟨hlast, ?_⟩
        rw [scanFrom_cons hspace hmatch hscan, Piece.tokens, Piece.chars, List.filter_cons]
        cases l.ignored.contains rule.name <;> rfl
      · refine .inr ⟨hlast, hnone, ?_⟩
        rw [scanFrom, if_neg hspace, Lexicon.match?, hmatch]
        simp only [bind, Except.bind, hscan]
    · refine ⟨[], c, .done, by simp, .inr ⟨hspace, hnone, ?_⟩⟩
      rw [scanFrom, if_neg hspace, Lexicon.match?, hmatch]
      rfl

/-- The place that an error names: the first character behind the whitespace. -/
theorem exists_of_errorAt (h : ¬c.after.all Text.isSpace) :
    ∃ gap x rest, c.after = gap ++ x :: rest ∧ gap.all Text.isSpace ∧ ¬Text.isSpace x ∧
      (errorAt c).offset = c.offset + gap.length ∧
      (errorAt c).remainder = String.ofList ((x :: rest).take previewLength) := by
  have hsplit := List.takeWhile_append_dropWhile (p := Text.isSpace) (l := c.after)
  cases htrim : c.after.dropWhile Text.isSpace with
  | nil => exact absurd (List.all_eq_true.2 (List.dropWhile_eq_nil_iff.1 htrim)) h
  | cons x rest =>
    have hx : ¬Text.isSpace x := by
      have hhead := List.head?_dropWhile_not Text.isSpace c.after
      rw [htrim] at hhead
      simpa using hhead
    refine ⟨c.after.takeWhile Text.isSpace, x, rest, by rw [← htrim, hsplit], ?_, hx, rfl, ?_⟩
    · exact List.all_takeWhile
    · rw [errorAt, Text.trimStart, htrim]

end Lexicon

/-- A text is taken apart up to a place: gaps of whitespace and tokens with a character in them, in
turn, each token a match of the first rule that has one there. -/
structure Partition (ignoreCase : Bool) (rules : List Rule) (text : List Char) (ps : List Piece)
    (d : Cursor) : Prop where
  splits : Splits ignoreCase rules (.start text) ps d
  text_eq : text = ps.flatMap Piece.chars ++ d.after
  offset_eq : d.offset = (ps.flatMap Piece.chars).length
  gap_all : ∀ p ∈ ps, p.gap.all Text.isSpace
  text_ne_nil : ∀ p ∈ ps, p.text ≠ []

namespace Lexicon

/-- **Scanning takes a text apart.**  If it succeeds, gaps of whitespace and tokens make up the text
in turn, with whitespace at its end; each token is what the first rule finds that finds anything at
its place, and those of the kinds that are not ignored are the result, each with its place.  It
fails only at a place up to which the text is taken apart and where no rule finds anything; then the
error has the first place from there on that is not whitespace, and up to fifty characters from
it. -/
theorem scan_partition {ignored : List String} {l : Lexicon}
    (hl : ofRules rules ignored ignoreCase = .ok l)
    (hvalid : ∀ rule ∈ rules, rule.IsValid ignoreCase) (text : String) :
    (∀ ts, l.scan text = .ok ts → ∃ ps d, Partition ignoreCase rules text.toList ps d ∧
      d.after.all Text.isSpace ∧ ts = (Piece.tokens 0 ps).filter (fun t => t.kind ∉ ignored) ∧
      ∀ t ∈ ts, ∃ offset : ℕ, t.offset = offset ∧
        (text.toList.drop offset).take t.text.length = t.text.toList) ∧
    ∀ fault, l.scan text = .error fault → ∃ e ps d, fault = .lex e ∧
      Partition ignoreCase rules text.toList ps d ∧
      (∀ rule ∈ rules, ∀ gap token, ¬rule.Finds ignoreCase d gap token) ∧
      (∃ gap x rest, d.after = gap ++ x :: rest ∧ gap.all Text.isSpace ∧ ¬Text.isSpace x ∧
        e.offset = d.offset + gap.length) ∧
      e.offset < text.length ∧ e.remainder ≠ "" ∧
      e.remainder.toList = (text.toList.drop e.offset).take 50 := by
  rw [ofRules] at hl
  obtain ⟨entries, hentries, hl⟩ := exists_ok_of_bind hl
  cases hl
  have hahead : (Cursor.start text.toList).after.length ≤ text.toList.length := le_rfl
  obtain ⟨ps, d, hsplits, hpieces, hend⟩ :=
    scanFrom_cases (l := ⟨entries, ignored⟩) hentries hvalid hahead
  obtain ⟨hpast, htext⟩ := hsplits.eq_past
  have hpartition : Partition ignoreCase rules text.toList ps d :=
    ⟨hsplits, htext, by simp [hpast, Cursor.start], fun p hp => (hpieces p hp).1,
      fun p hp => (hpieces p hp).2⟩
  refine ⟨fun ts hts => ?_, fun fault hfault => ?_⟩
  · rcases hend with ⟨hlast, hscan⟩ | ⟨-, -, hscan⟩
    · have heq := Except.ok.inj (hts.symm.trans hscan)
      refine ⟨ps, d, hpartition, hlast, by simpa [Cursor.start] using heq, fun t ht => ?_⟩
      have hmem := (List.mem_filter.1 (heq ▸ ht)).1
      have hslice := Piece.slice_of_mem_tokens [] d.after hmem
      rwa [List.nil_append, ← hpartition.text_eq] at hslice
    · cases hts.symm.trans hscan
  · rcases hend with ⟨-, hscan⟩ | ⟨hlast, hnone, hscan⟩
    · cases hfault.symm.trans hscan
    · cases hfault.symm.trans hscan
      obtain ⟨gap, x, rest, hafter, hgap, hx, hoffset, hremainder⟩ := exists_of_errorAt hlast
      -- the error is behind the pieces and the last gap, where the remainder starts
      have hsplit : text.toList = (ps.flatMap Piece.chars ++ gap) ++ x :: rest := by
        rw [hpartition.text_eq, hafter, List.append_assoc]
      have hplace : (errorAt d).offset = (ps.flatMap Piece.chars ++ gap).length := by
        rw [hoffset, hpartition.offset_eq, List.length_append]
      refine ⟨errorAt d, ps, d, rfl, hpartition, hnone, ⟨gap, x, rest, hafter, hgap, hx, hoffset⟩,
        ?_, ?_, ?_⟩
      · rw [hplace, ← String.length_toList, hsplit]
        simp
      · rw [hremainder]
        simp [previewLength]
      · rw [hremainder, String.toList_ofList, hplace, hsplit, List.drop_left]
        rfl

/-- Words and numbers, with remarks behind a number sign that are left out. -/
theorem scan_partition_words :
    (∀ rule ∈ [Rule.lexer "REMARK" "#\\w*", .lexer "WORD" "[a-z]*", .lexer "NUMBER" "\\d+"],
      rule.IsValid false) ∧
    ∃ l, ofRules [Rule.lexer "REMARK" "#\\w*", .lexer "WORD" "[a-z]*", .lexer "NUMBER" "\\d+"]
        ["REMARK"] false = .ok l ∧
      ∃ ps d, Partition false
          [Rule.lexer "REMARK" "#\\w*", .lexer "WORD" "[a-z]*", .lexer "NUMBER" "\\d+"]
          "ab12 #no c ".toList ps d ∧ d.after.all Text.isSpace ∧
        [⟨"WORD", "ab", 0⟩, ⟨"NUMBER", "12", 2⟩, ⟨"WORD", "c", 9⟩] =
          (Piece.tokens 0 ps).filter (fun t => t.kind ∉ ["REMARK"]) := by
  have hvalid : ∀ rule ∈ [Rule.lexer "REMARK" "#\\w*", .lexer "WORD" "[a-z]*",
      .lexer "NUMBER" "\\d+"], rule.IsValid false := by
    simp only [List.forall_mem_cons]
    exact ⟨⟨_, rfl, by decide +kernel⟩, ⟨_, rfl, by decide +kernel⟩, ⟨_, rfl, by decide +kernel⟩,
      by simp⟩
  have hscan : ((ofRules [Rule.lexer "REMARK" "#\\w*", .lexer "WORD" "[a-z]*",
      .lexer "NUMBER" "\\d+"] ["REMARK"] false).toOption.map fun l =>
        (l.scan "ab12 #no c ").toOption) =
      some (some [⟨"WORD", "ab", 0⟩, ⟨"NUMBER", "12", 2⟩, ⟨"WORD", "c", 9⟩]) := by
    decide +kernel
  obtain ⟨l, hl, hts⟩ := exists_ok_of_toOption hscan
  obtain ⟨ps, d, hpartition, hlast, heq, -⟩ :=
    (scan_partition hl hvalid "ab12 #no c ").1 _ (eq_ok_of_toOption hts)
  exact ⟨hvalid, l, hl, ps, d, hpartition, hlast, heq⟩

end Lexicon

end OrderedGrammar
