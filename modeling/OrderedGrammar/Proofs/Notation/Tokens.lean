import OrderedGrammar.Proofs.Notation.Lexemes
import OrderedGrammar.Proofs.Pattern.Caseless
import OrderedGrammar.Proofs.Scanning

/-!
# The tokens of the notation

The patterns of the notation's tokens as they are read, and what they match: a name is a letter or
an underscore with letters, digits, underscores and apostrophes behind it, in whatever case; a
quoted pattern has neither a quote nor a backslash at its end that would escape the closing quote.

## Main definitions

* `bodies` : the patterns of the tokens, without the whitespace in front.
* `IsIdentifier` : the texts that the pattern of identifiers spells.
* `IsQuotable` : the texts that can stand between quotes.
-/

namespace OrderedGrammar

deriving instance DecidableEq for LexEntry

namespace Notation

open Pattern Lexicon

/-! ### The patterns -/

/-- A sign of one character. -/
def sign (c : Char) : Pattern := .char (.single c.toNat false .full)

/-- The characters that modifiers are written as. -/
def modifierSet : CharSet := .union ([63, 33, 43, 42].map .one) false .full

/-- The characters that a name starts with. -/
def nameHead : CharSet := .union [.range 97 122, .range 65 90, .one 95] false .full

/-- The characters that a name goes on with. -/
def nameTail : CharSet :=
  .union [.range 97 122, .range 65 90, .range 48 57, .one 95, .one 39] false .full

/-- What stands between quotes: any character but the quote and the backslash, or a backslash with
any character but the newline. -/
def quotedUnit (rule : CaseRule) : Pattern :=
  .alt (.char (.union ([34, 92].map .one) true rule))
    (.seq (.char (.single 92 false rule)) (.char .notNewline))

/-- A name. -/
def nameBody : Pattern := .seq (.char nameHead) (Pattern.star (.char nameTail))

/-- A quoted pattern. -/
def quotedBody : Pattern := .seq (sign '"') (.seq (Pattern.star (quotedUnit .full)) (sign '"'))

/-- A comment, which ends as soon as it can. -/
def commentBody : Pattern :=
  .seq (sign '/') (.seq (sign '*') (.seq
    (.loop 0 none false (.char (.union
      [.named .space false false, .named .space false true] false .full)))
    (.seq (sign '*') (sign '/'))))

/-- The patterns of the tokens in their order, without the whitespace in front. -/
def bodies : List (String × Pattern) :=
  [("COMMENT", commentBody), ("EQ", sign '='), ("COMMA", sign ','), ("COLON", sign ':'),
    ("SEMICOLON", sign ';'), ("MODIFIER", .char modifierSet), ("OR", sign '|'),
    ("QUOTEDLITERAL", quotedBody), ("IDENTIFIER", nameBody), ("LPAREN", sign '('),
    ("RPAREN", sign ')')]

theorem entries_eq {g : Grammar} (hg : grammar = .ok g) :
    g.lexicon.entries = entriesOf .full bodies ∧ g.lexicon.ignored = ignored := by
  have hrules : Grammar.lexerRulesOf (lexerRules ++ alternatives) = lexerRules := by
    decide +kernel
  have hread : (lexerRules.mapM (entry true)).toOption = some (entriesOf .full bodies) := by
    decide +kernel
  rw [Grammar.lexicon_of_ofRules (ofRules_of_grammar hg) (hrules ▸ hread)]
  exact ⟨rfl, rfl⟩

/-! ### How tokens start -/

/-- The code points of the whitespace characters. -/
def spaces : List ℕ := Text.spaceRanges.flatMap fun r => List.range' r.1 (r.2 + 1 - r.1)

theorem exists_of_inRanges {ranges : List (ℕ × ℕ)} {n : ℕ} (h : Text.inRanges ranges n) :
    ∃ r ∈ ranges, r.1 ≤ n ∧ n ≤ r.2 := by
  induction ranges with
  | nil => cases h
  | cons r ranges ih =>
    rw [Text.inRanges] at h
    split_ifs at h with hfirst hlast
    · exact ⟨r, List.mem_cons_self, Nat.not_lt.1 hfirst, hlast⟩
    · obtain ⟨r', hmem, hr'⟩ := ih h
      exact ⟨r', List.mem_cons_of_mem r hmem, hr'⟩

theorem mem_spaces {x : Char} (h : Text.isSpace x) : x.toNat ∈ spaces := by
  obtain ⟨r, hr, hfirst, hlast⟩ := exists_of_inRanges h
  exact List.mem_flatMap.2 ⟨r, hr, List.mem_range'_1.2 ⟨hfirst, by omega⟩⟩

/-- Whitespace is a finite table, so that each of its characters can be tried. -/
theorem of_isSpace {P : Char → Prop} (h : ∀ n ∈ spaces, P (Char.ofNat n)) {x : Char}
    (hx : Text.isSpace x) : P x := by
  have hholds := h x.toNat (mem_spaces hx)
  rwa [Char.ofNat_toNat] at hholds

/-- ASCII is a finite table, so that each of its characters can be tried. -/
theorem of_toNat_lt {P : Char → Prop} (h : ∀ n < 0x80, P (Char.ofNat n)) {c : Char}
    (hc : c.toNat < 0x80) : P c := by
  have hchar := h c.toNat hc
  rwa [Char.ofNat_toNat] at hchar

theorem isWord_of_isAlphanum {x : Char} (hx : x.isAlphanum) : Text.isWord x :=
  of_toNat_lt (P := fun x => x.isAlphanum → Text.isWord x) (by decide +kernel)
    (toNat_lt_of_isAlphanum hx) hx

theorem not_isWord_of_isSpace {x : Char} (hx : Text.isSpace x) : ¬Text.isWord x :=
  of_isSpace (P := fun x => ¬Text.isWord x) (by decide +kernel) hx

/-- Whether the set is given by characters of ASCII and holds no whitespace of ASCII. -/
def isSolid (s : CharSet) : Bool :=
  s.isAscii && (spaces.filter (· < 0x80)).all fun n => !s.holds (Char.ofNat n)

/-- There is no whitespace among the lookalikes. -/
theorem not_holds_of_isSolid {s : CharSet} (hs : isSolid s) {x : Char} (hx : Text.isSpace x) :
    ¬s.holds x := by
  simp only [isSolid, Bool.and_eq_true, List.all_eq_true, Bool.not_eq_true'] at hs
  obtain ⟨hascii, hspaces⟩ := hs
  by_cases hlt : x.toNat < 0x80
  · have hholds := hspaces x.toNat (List.mem_filter.2 ⟨mem_spaces hx, by simpa using hlt⟩)
    rw [Char.ofNat_toNat] at hholds
    simp [hholds]
  · have hlookalikes : ∀ n ∈ Text.lookalikes, n ∉ spaces := by decide
    exact fun hholds => hlookalikes x.toNat
      (CharSet.mem_lookalikes_of_holds hascii (by omega) hholds) (mem_spaces hx)

/-- No token starts with whitespace. -/
theorem isBody_of_mem : ∀ body ∈ bodies, body.2.IsBody := by
  have hplain : ∀ body ∈ bodies, body.2.isPlain := by decide
  have hheads : ∀ body ∈ bodies, ∃ set ∈ body.2.headSet?, isSolid set := by decide +kernel
  refine fun body hbody => ⟨hplain body hbody, fun x cs hx => ?_⟩
  obtain ⟨set, hset, hsolid⟩ := hheads body hbody
  exact prefixes_of_head hset (by simpa using not_holds_of_isSolid hsolid hx)

/-! ### Languages -/

/-- Whether the pattern that a text writes matches another text as a whole. -/
def SpelledBy (ignoreCase : Bool) (pattern text : String) : Prop :=
  ∃ p, Pattern.read ignoreCase pattern.toList = .ok p ∧ p.matchesAll text.toList

/-- Whether the pattern of identifiers spells the text; case does not count in the notation. -/
def IsIdentifier (name : String) : Prop :=
  ∃ pattern, Rule.lexer "IDENTIFIER" pattern ∈ lexerRules ∧ SpelledBy true pattern name

/-- Whether the text can stand between quotes. -/
def IsQuotable (pattern : String) : Prop := SpelledBy false "(?:[^\"\\\\]|\\\\.)*" pattern

theorem spelledBy_iff {ignoreCase : Bool} {pattern text : String} {p : Pattern}
    (hread : (Pattern.read ignoreCase pattern.toList).toOption = some p) (hp : p.isPlain) :
    SpelledBy ignoreCase pattern text ↔ text.toList ∈ p.prefixes text.toList := by
  have hread := eq_ok_of_toOption hread
  rw [SpelledBy, ← matchesAll_iff hp]
  constructor
  · rintro ⟨q, hq, hall⟩
    rw [hread] at hq
    rwa [Except.ok.inj hq]
  · intro hall
    exact ⟨p, hread, hall⟩

theorem isIdentifier_iff {name : String} :
    IsIdentifier name ↔ ∃ x xs, name.toList = x :: xs ∧ nameHead.holds x ∧
      ∀ y ∈ xs, nameTail.holds y := by
  have hpattern : ∀ rule ∈ lexerRules, rule.name = "IDENTIFIER" →
      rule.pattern? = some "[a-zA-Z_][a-zA-Z0-9_']*" := by decide
  have hmem (pattern : String) : Rule.lexer "IDENTIFIER" pattern ∈ lexerRules ↔
      pattern = "[a-zA-Z_][a-zA-Z0-9_']*" := by
    constructor
    · intro h
      exact Option.some.inj (hpattern _ h rfl)
    · rintro rfl
      simp [lexerRules]
  have hread : (Pattern.read true "[a-zA-Z_][a-zA-Z0-9_']*".toList).toOption = some nameBody := by
    decide +kernel
  have hiff : IsIdentifier name ↔ name.toList ∈ nameBody.prefixes name.toList := by
    simp only [IsIdentifier, hmem, exists_eq_left, spelledBy_iff hread rfl]
  rw [hiff]
  constructor
  · exact exists_of_mem_prefixes_word
  · rintro ⟨x, xs, hname, hx, hxs⟩
    have hhead : (nameBody.prefixes (x :: (xs ++ []))).head? = some (x :: xs) :=
      head?_prefixes_word hx hxs (by simp)
    rw [List.append_nil, ← hname] at hhead
    exact List.mem_of_head? hhead

/-! ### Quoted patterns -/

/-- The texts between quotes: characters other than the quote and the backslash, and backslashes
with any character but the newline. -/
inductive Quotable : List Char → Prop
  | nil : Quotable []
  | plain {x : Char} {xs : List Char} : x ≠ '"' → x ≠ '\\' → Quotable xs → Quotable (x :: xs)
  | escape {x : Char} {xs : List Char} : x ≠ '\n' → Quotable xs → Quotable ('\\' :: x :: xs)

section Quoted

variable {rule : CaseRule}

theorem holds_sign {c x : Char} (hc : ¬Text.IsLetterOrBeyond c.toNat) :
    (CharSet.single c.toNat false rule).holds x ↔ x = c := by
  rw [CharSet.holds_single_iff hc, Char.toNat_inj]

theorem exists_headSet?_sign {c x : Char} (hc : ¬Text.IsLetterOrBeyond c.toNat) (hne : x ≠ c) :
    ∃ set ∈ (sign c).headSet?, ¬set.holds x :=
  ⟨_, rfl, fun h => hne ((holds_sign hc).1 h)⟩

theorem holds_unquoted {x : Char} :
    (CharSet.union ([34, 92].map .one) true rule).holds x ↔ x ≠ '"' ∧ x ≠ '\\' := by
  have hns : ∀ n ∈ [34, 92], ¬Text.IsLetterOrBeyond n := by decide
  have hmem : x.toNat ∈ [34, 92] ↔ x = '"' ∨ x = '\\' := by
    rw [List.mem_cons, List.mem_singleton, ← Char.toNat_inj, ← Char.toNat_inj]
    rfl
  rw [CharSet.holds, bne_iff_ne, Ne, CharSet.any_ones_iff hns, hmem, not_or]

theorem not_isLetterOrBeyond_slash : ¬Text.IsLetterOrBeyond '\\'.toNat := by decide

theorem prefixes_quotedUnit_plain {x : Char} (hquote : x ≠ '"') (hslash : x ≠ '\\')
    (cs : List Char) : (quotedUnit rule).prefixes (x :: cs) = [[x]] := by
  have hescape : (CharSet.single 92 false rule).holds x ≠ true :=
    mt (holds_sign not_isLetterOrBeyond_slash).1 hslash
  rw [quotedUnit, prefixes, prefixes, if_pos (holds_unquoted.2 ⟨hquote, hslash⟩), prefixes,
    prefixes, if_neg hescape]
  rfl

theorem prefixes_quotedUnit_slash (cs : List Char) :
    (quotedUnit rule).prefixes ('\\' :: cs) =
      (Pattern.prefixes (.char .notNewline) cs).map ('\\' :: ·) := by
  have hplain : ¬(CharSet.union ([34, 92].map .one) true rule).holds '\\' :=
    fun h => (holds_unquoted.1 h).2 rfl
  have hescape : (CharSet.single 92 false rule).holds '\\' :=
    (holds_sign not_isLetterOrBeyond_slash).2 rfl
  rw [quotedUnit, prefixes, prefixes, if_neg hplain, prefixes, prefixes, if_pos hescape,
    List.nil_append, List.flatMap_singleton]
  rfl

theorem prefixes_quotedUnit_escape {x : Char} (hx : x ≠ '\n') (cs : List Char) :
    (quotedUnit rule).prefixes ('\\' :: x :: cs) = [['\\', x]] := by
  have hnext : CharSet.notNewline.holds x := by simpa [CharSet.holds] using hx
  rw [prefixes_quotedUnit_slash, prefixes, if_pos hnext]
  rfl

theorem prefixes_quotedUnit_stop {cs : List Char} (h : ∀ x ∈ cs.head?, x = '"') :
    (quotedUnit rule).prefixes cs = [] := by
  have hplain : ¬(CharSet.union ([34, 92].map .one) true rule).holds '"' :=
    fun h => (holds_unquoted.1 h).1 rfl
  have hescape : ¬(CharSet.single 92 false rule).holds '"' :=
    mt (holds_sign not_isLetterOrBeyond_slash).1 (by decide)
  cases cs with
  | nil => rfl
  | cons x cs =>
    obtain rfl := h x rfl
    rw [quotedUnit, prefixes, prefixes, if_neg hplain, prefixes, prefixes, if_neg hescape]
    rfl

theorem quotable_of_mem {cs a : List Char} (h : a ∈ (Pattern.star (quotedUnit rule)).prefixes cs) :
    Quotable a := by
  refine star_induction .nil ?_ h
  intro cs a ha b hb
  cases cs with
  | nil => rw [prefixes_quotedUnit_stop (by simp)] at ha; cases ha
  | cons x cs =>
    by_cases hquote : x = '"'
    · rw [prefixes_quotedUnit_stop (by simp [hquote])] at ha
      cases ha
    · by_cases hslash : x = '\\'
      · subst hslash
        rw [prefixes_quotedUnit_slash] at ha
        obtain ⟨c, hc, rfl⟩ := List.mem_map.1 ha
        obtain ⟨y, rest, -, hy, rfl⟩ := mem_prefixes_char.1 hc
        exact .escape (by simpa [CharSet.holds] using hy) hb
      · rw [prefixes_quotedUnit_plain hquote hslash, List.mem_singleton] at ha
        rw [ha]
        exact .plain hquote hslash hb

/-- Between quotes the longest match comes first. -/
theorem head?_prefixes_quoted {a rest : List Char} (ha : Quotable a)
    (hrest : ∀ x ∈ rest.head?, x = '"') :
    ((Pattern.star (quotedUnit rule)).prefixes (a ++ rest)).head? = some a := by
  induction ha with
  | nil =>
    rw [List.nil_append, prefixes_star_stop (prefixes_quotedUnit_stop hrest)]
    rfl
  | @plain x xs hquote hslash _ ih =>
    have hunit : ((quotedUnit rule).prefixes (x :: (xs ++ rest))).head? = some [x] := by
      rw [prefixes_quotedUnit_plain hquote hslash]
      rfl
    exact head?_prefixes_star hunit (by simp) ih
  | @escape x xs hx _ ih =>
    have hunit : ((quotedUnit rule).prefixes ('\\' :: x :: (xs ++ rest))).head? =
        some ['\\', x] := by
      rw [prefixes_quotedUnit_escape hx]
      rfl
    exact head?_prefixes_star hunit (by simp) ih

end Quoted

theorem head?_prefixes_quotedBody {a : List Char} (ha : Quotable a) (rest : List Char) :
    (quotedBody.prefixes ('"' :: (a ++ '"' :: rest))).head? = some ('"' :: (a ++ ['"'])) := by
  have hquote : (CharSet.single '"'.toNat false .full).holds '"' := by decide
  refine head?_prefixes_seq (head?_prefixes_char hquote _) (head?_prefixes_seq ?_ ?_)
  · exact head?_prefixes_quoted ha (by simp)
  · change ((sign '"').prefixes ((a ++ '"' :: rest).drop a.length)).head? = some ['"']
    rw [List.drop_left]
    exact head?_prefixes_char hquote rest

theorem isQuotable_iff {pattern : String} : IsQuotable pattern ↔ Quotable pattern.toList := by
  have hread : (Pattern.read false "(?:[^\"\\\\]|\\\\.)*".toList).toOption =
      some (Pattern.star (quotedUnit .strict)) := by decide +kernel
  rw [IsQuotable, spelledBy_iff hread rfl]
  constructor
  · exact quotable_of_mem
  · intro h
    have hhead : ((Pattern.star (quotedUnit .strict)).prefixes (pattern.toList ++ [])).head? =
        some pattern.toList := head?_prefixes_quoted h (by simp)
    rw [List.append_nil] at hhead
    exact List.mem_of_head? hhead

/-! ### The tokens that there are -/

theorem mem_prefixes_sign {c : Char} (hc : ¬Text.IsLetterOrBeyond c.toNat) {cs a : List Char}
    (h : a ∈ (sign c).prefixes cs) : a = [c] := by
  obtain ⟨x, rest, -, hx, rfl⟩ := mem_prefixes_char.1 h
  rw [(holds_sign hc).1 hx]

theorem mem_prefixes_modifier {cs a : List Char} (h : a ∈ Pattern.prefixes (.char modifierSet) cs) :
    ∃ (m : Modifier) (c : Char), m.char? = some c ∧ a = [c] := by
  have hns : ∀ n ∈ [63, 33, 43, 42], ¬Text.IsLetterOrBeyond n := by decide
  have hchars : ∀ n ∈ [63, 33, 43, 42], ∃ m : Modifier, m.char? = some (Char.ofNat n) := by
    intro n hn
    simp only [List.mem_cons, List.not_mem_nil, or_false] at hn
    rcases hn with rfl | rfl | rfl | rfl
    · exact ⟨.optional, rfl⟩
    · exact ⟨.ignored, rfl⟩
    · exact ⟨.oneOrMore, rfl⟩
    · exact ⟨.zeroOrMore, rfl⟩
  obtain ⟨x, rest, -, hx, rfl⟩ := mem_prefixes_char.1 h
  rw [modifierSet, CharSet.holds, Bool.bne_false, CharSet.any_ones_iff hns] at hx
  obtain ⟨m, hm⟩ := hchars x.toNat hx
  rw [Char.ofNat_toNat] at hm
  exact ⟨m, x, hm, rfl⟩

theorem mem_prefixes_quotedBody {cs a : List Char} (h : a ∈ quotedBody.prefixes cs) :
    ∃ b, Quotable b ∧ a = '"' :: (b ++ ['"']) := by
  have hquote : ¬Text.IsLetterOrBeyond '"'.toNat := by decide
  obtain ⟨first, hfirst, rest, hrest, rfl⟩ := mem_prefixes_seq.1 h
  obtain ⟨b, hb, last, hlast, rfl⟩ := mem_prefixes_seq.1 hrest
  rw [mem_prefixes_sign hquote hfirst, mem_prefixes_sign hquote hlast]
  exact ⟨b, quotable_of_mem hb, rfl⟩

theorem isLexeme_of_mem_punctuation {x : Lexeme} (h : x ∈ punctuation) : IsLexeme x := by
  have hunique : ∀ x ∈ punctuation, ∀ y ∈ punctuation, x.1 = y.1 → x.2 = y.2 := by decide
  have hkind : ∀ x ∈ punctuation, x.1 ∈ tokenKinds ∧ x.1 ≠ "MODIFIER" ∧ x.1 ≠ "QUOTEDLITERAL" := by
    decide
  obtain ⟨hmem, hmodifier, hliteral⟩ := hkind x h
  exact ⟨hmem, fun text htext => hunique x h _ htext rfl, fun hx => absurd hx hmodifier,
    fun hx => absurd hx hliteral⟩

/-- A token of the notation is a lexeme; identifiers and quoted patterns are in their languages. -/
structure IsSpelled (x : Lexeme) : Prop extends IsLexeme x where
  identifier : x.1 = "IDENTIFIER" → IsIdentifier x.2
  quotable : x.1 = "QUOTEDLITERAL" → ∃ pattern, IsQuotable pattern ∧ x.2 = "\"" ++ pattern ++ "\""

theorem isSpelled_of_mem_punctuation {x : Lexeme} (h : x ∈ punctuation) : IsSpelled x := by
  have hkind : ∀ x ∈ punctuation, x.1 ≠ "IDENTIFIER" ∧ x.1 ≠ "QUOTEDLITERAL" := by decide
  obtain ⟨hidentifier, hliteral⟩ := hkind x h
  exact ⟨isLexeme_of_mem_punctuation h, fun hx => absurd hx hidentifier,
    fun hx => absurd hx hliteral⟩

theorem isSpelled_of_kind {kind text : String}
    (hkind : kind ∈ ["MODIFIER", "QUOTEDLITERAL", "IDENTIFIER"])
    (hmodifier : kind = "MODIFIER" → ∃ m : Modifier, modifierLexemes m = [(kind, text)])
    (hliteral : kind = "QUOTEDLITERAL" →
      ∃ pattern, IsQuotable pattern ∧ text = "\"" ++ pattern ++ "\"")
    (hidentifier : kind = "IDENTIFIER" → IsIdentifier text) : IsSpelled (kind, text) := by
  have hkinds : ∀ kind ∈ ["MODIFIER", "QUOTEDLITERAL", "IDENTIFIER"],
      kind ∈ tokenKinds ∧ kind ∉ punctuation.map Prod.fst := by decide
  obtain ⟨hmem, hpunctuation⟩ := hkinds kind hkind
  refine ⟨⟨hmem, fun text' h => ?_, hmodifier, fun h => ?_⟩, hidentifier, hliteral⟩
  · exact absurd (List.mem_map_of_mem h) hpunctuation
  · obtain ⟨pattern, -, htext⟩ := hliteral h
    exact ⟨pattern, htext⟩

section Spelled

variable {cs : List Char} {text : String}

theorem isSpelled_sign {kind : String} {c : Char} (hc : ¬Text.IsLetterOrBeyond c.toNat)
    (hmem : (kind, String.singleton c) ∈ punctuation) (h : text.toList ∈ (sign c).prefixes cs) :
    IsSpelled (kind, text) := by
  have htext : text = String.singleton c := by
    rw [← String.toList_inj, mem_prefixes_sign hc h, String.toList_singleton]
  rw [htext]
  exact isSpelled_of_mem_punctuation hmem

theorem isSpelled_modifier (h : text.toList ∈ Pattern.prefixes (.char modifierSet) cs) :
    IsSpelled ("MODIFIER", text) := by
  obtain ⟨m, c, hm, hc⟩ := mem_prefixes_modifier h
  have htext : text = String.singleton c := by
    rw [← String.toList_inj, hc, String.toList_singleton]
  have hlexemes : modifierLexemes m = [("MODIFIER", text)] := by
    rw [modifierLexemes, hm, htext]
    rfl
  exact isSpelled_of_kind (by decide) (fun _ => ⟨m, hlexemes⟩) (fun h => absurd h (by decide))
    (fun h => absurd h (by decide))

theorem isSpelled_quoted (h : text.toList ∈ quotedBody.prefixes cs) :
    IsSpelled ("QUOTEDLITERAL", text) := by
  obtain ⟨pattern, hpattern, hlist⟩ := mem_prefixes_quotedBody h
  have htext : text = "\"" ++ String.ofList pattern ++ "\"" := by
    rw [← String.toList_inj, hlist]
    simp
  have hquotable : IsQuotable (String.ofList pattern) := by
    rw [isQuotable_iff, String.toList_ofList]
    exact hpattern
  exact isSpelled_of_kind (by decide) (fun h => absurd h (by decide))
    (fun _ => ⟨_, hquotable, htext⟩) (fun h => absurd h (by decide))

theorem isSpelled_identifier (h : text.toList ∈ nameBody.prefixes cs) :
    IsSpelled ("IDENTIFIER", text) :=
  isSpelled_of_kind (by decide) (fun h => absurd h (by decide)) (fun h => absurd h (by decide))
    (fun _ => isIdentifier_iff.2 (exists_of_mem_prefixes_word h))

end Spelled

theorem isSpelled_of_produces {g : Grammar} (hg : grammar = .ok g) {t : Token}
    (h : g.lexicon.Produces t) : IsSpelled (t.kind, t.text) := by
  obtain ⟨hentries, hignored⟩ := entries_eq hg
  obtain ⟨body, hbody, hkind, cs, htext⟩ := h.exists_body isBody_of_mem hentries
  have hignored : t.kind ∉ ignored := hignored ▸ h.1
  simp only [bodies, List.mem_cons, List.not_mem_nil, or_false] at hbody
  rcases hbody with rfl | rfl | rfl | rfl | rfl | rfl | rfl | rfl | rfl | rfl | rfl <;>
    rw [← hkind] at hignored ⊢
  · -- comments are ignored
    exact absurd (by decide) hignored
  · exact isSpelled_sign (by decide) (by decide) htext
  · exact isSpelled_sign (by decide) (by decide) htext
  · exact isSpelled_sign (by decide) (by decide) htext
  · exact isSpelled_sign (by decide) (by decide) htext
  · exact isSpelled_modifier htext
  · exact isSpelled_sign (by decide) (by decide) htext
  · exact isSpelled_quoted htext
  · exact isSpelled_identifier htext
  · exact isSpelled_sign (by decide) (by decide) htext
  · exact isSpelled_sign (by decide) (by decide) htext

end Notation

end OrderedGrammar
