import Mathlib.Data.Bool.AllAny
import OrderedGrammar.Proofs.Arithmetic.Lexing
import OrderedGrammar.Proofs.Filter.Rules
import OrderedGrammar.Proofs.Pattern.Listing

/-!
# Number literals

The pattern of number literals asks for a blank, and takes a sign in front of it and a decimal point
behind it as well (`IsNumber`); reading takes integers only.  Of what the pattern matches, just a
blank with digits behind it can be read (`integerOf?_isSome_iff`).

## Main definitions

* `IsNumber` : the texts of number literals.
* `numberPlain` : the pattern of number literals without its groups.
-/

namespace OrderedGrammar.Filter

open Notation Pattern Lexicon
open Arithmetic (Numeral digitSet digitsBody)

/-! ### Texts -/

/-- Digits with a decimal point behind them, among them or in front of them, or without one. -/
inductive IsMagnitude : List Char → Prop
  | whole (n : Numeral) : IsMagnitude n.digits
  | pointed (n : Numeral) {behind : List Char} : (∀ c ∈ behind, Text.isDecimal c) →
      IsMagnitude (n.digits ++ '.' :: behind)
  | fraction (n : Numeral) : IsMagnitude ('.' :: n.digits)

/-- What can stand in front of the blank. -/
def signTexts : List (List Char) := [[], ['+'], ['-']]

/-- The texts of number literals. -/
def IsNumber (cs : List Char) : Prop :=
  ∃ sign ∈ signTexts, ∃ magnitude, IsMagnitude magnitude ∧ cs = sign ++ ' ' :: magnitude

/-! ### The pattern -/

/-- What may be left out. -/
def maybe (p : Pattern) : Pattern := .loop 0 (some 1) true p

/-- The signs. -/
def signSet : CharSet := .union ([43, 45].map .one) false .full

/-- A point and the digits behind it. -/
def pointBody : Pattern := .seq (Notation.sign '.') (Pattern.star (.char digitSet))

/-- The pattern of number literals, with the numbers that its groups have in parentheses. -/
def numberBody : Pattern :=
  .seq (maybe (.char signSet)) (.seq (Notation.sign ' ') (.group 2 (.alt
    (.group 3 (.seq digitsBody (maybe (.group 4 pointBody))))
    (.group 5 (.seq (Notation.sign '.') digitsBody)))))

/-- What stands behind the blank, without groups. -/
def magnitudePlain : Pattern :=
  .alt (.seq digitsBody (maybe pointBody)) (.seq (Notation.sign '.') digitsBody)

/-- The pattern of number literals without groups. -/
def numberPlain : Pattern := .seq (maybe (.char signSet)) (.seq (Notation.sign ' ') magnitudePlain)

theorem lists_maybe {p q : Pattern} (h : p.Lists fun c => q.prefixes c.after) :
    (maybe p).Lists fun c => (maybe q).prefixes c.after := by
  simp only [maybe, prefixes_optional]
  exact h.optional

/-- The groups inside do not change what is matched. -/
theorem lists_numberBody : numberBody.Lists fun c => numberPlain.prefixes c.after := by
  have hpoint : (Pattern.group 4 pointBody).Lists fun c => pointBody.prefixes c.after :=
    (lists_of_isPlain rfl).group (by decide)
  have hwhole : (Pattern.seq digitsBody (maybe (.group 4 pointBody))).Lists fun c =>
      (Pattern.seq digitsBody (maybe pointBody)).prefixes c.after :=
    (lists_of_isPlain rfl).seq (lists_maybe hpoint)
  have hfraction : (Pattern.seq (Notation.sign '.') digitsBody).Lists fun c =>
      (Pattern.seq (Notation.sign '.') digitsBody).prefixes c.after := lists_of_isPlain rfl
  have hmagnitude : (Pattern.group 2 (.alt
      (.group 3 (.seq digitsBody (maybe (.group 4 pointBody))))
      (.group 5 (.seq (Notation.sign '.') digitsBody)))).Lists
        fun c => magnitudePlain.prefixes c.after :=
    ((hwhole.group (by decide)).alt (hfraction.group (by decide))).group (by decide)
  have hblank : (Notation.sign ' ').Lists fun c => (Notation.sign ' ').prefixes c.after :=
    lists_of_isPlain rfl
  exact (lists_maybe (lists_of_isPlain rfl)).seq (hblank.seq hmagnitude)

/-! ### What is matched -/

theorem mem_prefixes_maybe {p : Pattern} {cs a : List Char} :
    a ∈ (maybe p).prefixes cs ↔ a ∈ p.prefixes cs ∨ a = [] := by
  rw [maybe, prefixes_optional, List.mem_append, List.mem_singleton]

theorem all_of_mem_digits {cs a : List Char} (h : a ∈ (Pattern.star (.char digitSet)).prefixes cs) :
    ∀ c ∈ a, Text.isDecimal c := by
  simpa using all_of_mem_prefixes_star_char h

theorem isMagnitude_of_mem {cs a : List Char} (h : a ∈ magnitudePlain.prefixes cs) :
    IsMagnitude a := by
  have hdot : ¬Text.IsLetterOrBeyond '.'.toNat := by decide
  rw [magnitudePlain, prefixes, List.mem_append] at h
  rcases h with h | h
  · obtain ⟨b, hb, c, hc, rfl⟩ := mem_prefixes_seq.1 h
    obtain ⟨n, rfl⟩ := Arithmetic.numeral_of_mem_prefixes hb
    obtain hc | rfl := mem_prefixes_maybe.1 hc
    · obtain ⟨d, hd, behind, hbehind, rfl⟩ := mem_prefixes_seq.1 hc
      rw [mem_prefixes_sign hdot hd]
      exact .pointed n (all_of_mem_digits hbehind)
    · rw [List.append_nil]
      exact .whole n
  · obtain ⟨b, hb, c, hc, rfl⟩ := mem_prefixes_seq.1 h
    obtain ⟨n, rfl⟩ := Arithmetic.numeral_of_mem_prefixes hc
    rw [mem_prefixes_sign hdot hb]
    exact .fraction n

/-- What is matched is a number literal. -/
theorem isNumber_of_mem {cs a : List Char} (h : a ∈ numberPlain.prefixes cs) : IsNumber a := by
  have hblank : ¬Text.IsLetterOrBeyond ' '.toNat := by decide
  have hsigns : ∀ n ∈ [43, 45], ¬Text.IsLetterOrBeyond n := by decide
  obtain ⟨sign, hsign, b, hb, rfl⟩ := mem_prefixes_seq.1 h
  obtain ⟨c, hc, magnitude, hmagnitude, rfl⟩ := mem_prefixes_seq.1 hb
  rw [mem_prefixes_sign hblank hc]
  refine ⟨sign, ?_, magnitude, isMagnitude_of_mem hmagnitude, rfl⟩
  obtain hsign | rfl := mem_prefixes_maybe.1 hsign
  · obtain ⟨x, rest, -, hx, rfl⟩ := mem_prefixes_char.1 hsign
    rw [signSet, CharSet.holds, Bool.bne_false, CharSet.any_ones_iff hsigns] at hx
    have htexts : ∀ n ∈ [43, 45], [Char.ofNat n] ∈ signTexts := by decide
    have hmem := htexts x.toNat hx
    rwa [Char.ofNat_toNat] at hmem
  · exact List.mem_cons_self

/-! ### What is matched first -/

theorem head?_prefixes_maybe {p : Pattern} {cs a : List Char} (h : (p.prefixes cs).head? = some a) :
    ((maybe p).prefixes cs).head? = some a := by
  rw [maybe, prefixes_optional, List.head?_append, h]
  rfl

theorem head?_prefixes_sign {c : Char} (hc : ¬Text.IsLetterOrBeyond c.toNat) (cs : List Char) :
    ((Notation.sign c).prefixes (c :: cs)).head? = some [c] :=
  head?_prefixes_char ((holds_sign hc).2 rfl) cs

theorem not_isDecimal_point : ¬Text.isDecimal '.' := by decide

/-- A magnitude at the end of a text is matched as a whole. -/
theorem head?_prefixes_magnitude {a : List Char} (h : IsMagnitude a) :
    (magnitudePlain.prefixes a).head? = some a := by
  have hpoint (cs : List Char) : ((Notation.sign '.').prefixes ('.' :: cs)).head? = some ['.'] :=
    head?_prefixes_sign (by decide) cs
  have hend (n : Numeral) : (digitsBody.prefixes n.digits).head? = some n.digits := by
    have hdigits : (digitsBody.prefixes (n.digits ++ [])).head? = some n.digits :=
      Arithmetic.head?_prefixes_digits n (by simp)
    rwa [List.append_nil] at hdigits
  rw [magnitudePlain, prefixes, List.head?_append]
  cases h with
  | whole n =>
    have hstop : ((maybe pointBody).prefixes (n.digits.drop n.digits.length)).head? = some [] := by
      rw [List.drop_length]
      rfl
    rw [head?_prefixes_seq (hend n) hstop, List.append_nil]
    rfl
  | @pointed n behind hbehind =>
    have hdigits := Arithmetic.head?_prefixes_digits n
      (by simpa using not_isDecimal_point : ∀ y ∈ ('.' :: behind).head?, ¬Text.isDecimal y)
    have hrest : ((maybe pointBody).prefixes
        ((n.digits ++ '.' :: behind).drop n.digits.length)).head? = some ('.' :: behind) := by
      rw [List.drop_left]
      refine head?_prefixes_maybe (head?_prefixes_seq (hpoint behind) ?_)
      change ((Pattern.star (.char digitSet)).prefixes behind).head? = some behind
      rw [head?_prefixes_star_char, List.takeWhile_eq_self_iff.2 (by simpa using hbehind)]
    rw [head?_prefixes_seq hdigits hrest]
    rfl
  | fraction n =>
    have hstop : (Pattern.seq digitsBody (maybe pointBody)).prefixes ('.' :: n.digits) = [] := by
      have hdigit : ¬digitSet.holds '.' := by simpa using not_isDecimal_point
      rw [prefixes, Arithmetic.prefixes_digitsBody, prefixes, prefixes, if_neg hdigit]
      rfl
    rw [hstop, head?_prefixes_seq (hpoint n.digits) (hend n)]
    rfl

theorem head?_prefixes_signs {sign : List Char} (h : sign ∈ signTexts) (cs : List Char) :
    ((maybe (.char signSet)).prefixes (sign ++ ' ' :: cs)).head? = some sign := by
  have hplus : signSet.holds '+' := by decide +kernel
  have hminus : signSet.holds '-' := by decide +kernel
  have hblank : ¬signSet.holds ' ' := by decide +kernel
  simp only [signTexts, List.mem_cons, List.not_mem_nil, or_false] at h
  obtain rfl | rfl | rfl := h
  · rw [maybe, prefixes_optional, List.nil_append, prefixes, if_neg hblank]
    rfl
  · exact head?_prefixes_maybe (head?_prefixes_char hplus _)
  · exact head?_prefixes_maybe (head?_prefixes_char hminus _)

theorem head?_prefixes_number {cs : List Char} (h : IsNumber cs) :
    (numberPlain.prefixes cs).head? = some cs := by
  obtain ⟨sign, hsign, magnitude, hmagnitude, rfl⟩ := h
  refine head?_prefixes_seq (head?_prefixes_signs hsign magnitude) ?_
  rw [List.drop_left]
  exact head?_prefixes_seq (head?_prefixes_sign (by decide) magnitude)
    (head?_prefixes_magnitude hmagnitude)

/-! ### The characters of a magnitude -/

namespace IsMagnitude

variable {a : List Char} (h : IsMagnitude a)
include h

theorem ne_nil : a ≠ [] := by
  cases h with
  | whole n => exact n.ne_nil
  | pointed n _ => simp
  | fraction n => simp

theorem forall_mem : ∀ c ∈ a, Text.isDecimal c ∨ c = '.' := by
  cases h with
  | whole n => exact fun c hc => .inl (n.isDecimal c hc)
  | pointed n hbehind =>
    rw [List.forall_mem_append, List.forall_mem_cons]
    exact ⟨fun c hc => .inl (n.isDecimal c hc), .inr rfl, fun c hc => .inl (hbehind c hc)⟩
  | fraction n =>
    rw [List.forall_mem_cons]
    exact ⟨.inr rfl, fun c hc => .inl (n.isDecimal c hc)⟩

theorem not_isSpace : ∀ c ∈ a, ¬Text.isSpace c := by
  intro c hc hspace
  obtain hdigit | rfl := h.forall_mem c hc
  · exact Arithmetic.not_isDecimal_of_isSpace hspace hdigit
  · exact absurd hspace (by decide)

theorem not_sign : '+' ∉ a ∧ '-' ∉ a := by
  have hsigns : ∀ c ∈ ['+', '-'], ¬(Text.isDecimal c ∨ c = '.') :=
    List.all_iff_forall_prop.1 (by decide)
  exact ⟨fun hc => hsigns '+' (by simp) (h.forall_mem _ hc),
    fun hc => hsigns '-' (by simp) (h.forall_mem _ hc)⟩

end IsMagnitude

/-! ### The tokens of number literals -/

/-- A magnitude alone is no number literal, for the blank is missing. -/
theorem prefixes_number_magnitude {a : List Char} (h : IsMagnitude a) :
    numberPlain.prefixes a = [] := by
  refine List.eq_nil_iff_forall_not_mem.2 fun b hb => ?_
  obtain ⟨sign, hsign, magnitude, -, rfl⟩ := isNumber_of_mem hb
  have hblank : ' ' ∈ a := (isPrefix_of_mem hb).subset (by simp)
  exact h.not_isSpace ' ' hblank (by decide)

/-- The blank is not left out as whitespace in front of a token. -/
theorem foundBehind?_number {cs : List Char} (h : IsNumber cs) :
    foundBehind? .full (fun c => numberPlain.prefixes c.after) (.start cs) = some ([], cs) := by
  have hfirst : (numberPlain.prefixes ((Cursor.start cs).past []).after).head?.map
      (([] : List Char), ·) = some ([], cs) := by
    rw [Cursor.past_nil]
    exact congrArg _ (head?_prefixes_number h)
  obtain ⟨sign, hsign, magnitude, hmagnitude, rfl⟩ := h
  have hspaces : ∀ x ∈ magnitude.head?, ¬(spaceSet .full).holds x := by
    intro x hx
    simpa using hmagnitude.not_isSpace x (List.mem_of_mem_head? hx)
  rw [foundBehind?]
  simp only [signTexts, List.mem_cons, List.not_mem_nil, or_false] at hsign
  obtain rfl | hsign := hsign
  · have hblank : (spaceSet .full).holds ' ' := by decide
    have hgaps : (Pattern.star (.char (spaceSet .full))).prefixes (' ' :: magnitude) =
        [[' '], []] := by
      rw [prefixes_star_char_cons hblank, prefixes_star_char_stop hspaces]
      rfl
    have hnone : numberPlain.prefixes ((Cursor.start (' ' :: magnitude)).past [' ']).after = [] :=
      prefixes_number_magnitude hmagnitude
    rw [List.nil_append] at hfirst ⊢
    rw [Cursor.start, hgaps, List.findSome?_cons, ← Cursor.start, hnone]
    simpa using hfirst
  · have hgaps : (Pattern.star (.char (spaceSet .full))).prefixes (sign ++ ' ' :: magnitude) =
        [[]] := by
      refine prefixes_star_char_stop ?_
      obtain rfl | rfl := hsign <;> simp <;> decide
    rw [Cursor.start, hgaps, List.findSome?_singleton]
    exact hfirst

/-- The entry of number literals. -/
theorem entries_number {g : Grammar} (hg : grammar = .ok g) :
    g.lexicon.ignored = [] ∧ g.lexicon.entries.filter (·.kind = "LITERAL_NUMBER") =
      [⟨"LITERAL_NUMBER", enclosed .full numberBody⟩] := by
  have hread : ((Grammar.lexerRulesOf rules).mapM (entry true)).toOption.map
      (·.filter (·.kind = "LITERAL_NUMBER")) =
        some [⟨"LITERAL_NUMBER", enclosed .full numberBody⟩] := by decide +kernel
  obtain ⟨entries, hentries, hfilter⟩ := Option.map_eq_some_iff.1 hread
  rw [Grammar.lexicon_of_ofRules (ofRules_of_grammar hg) hentries]
  exact ⟨rfl, hfilter⟩

/-- The texts of number literals are those that the pattern of the kind matches somewhere. -/
theorem exists_produces_iff {g : Grammar} (hg : grammar = .ok g) {text : String} :
    (∃ t, g.lexicon.Produces t ∧ t.kind = "LITERAL_NUMBER" ∧ t.text = text) ↔
      IsNumber text.toList := by
  obtain ⟨hignored, hentries⟩ := entries_number hg
  constructor
  · rintro ⟨t, ⟨-, e, he, c, found, d, hmatch, halike⟩, hkind, rfl⟩
    obtain ⟨hfound, htext⟩ := Token.alike_iff.1 halike
    have he : e ∈ g.lexicon.entries.filter (·.kind = "LITERAL_NUMBER") := by
      refine List.mem_filter.2 ⟨he, decide_eq_true ?_⟩
      rw [← kind_of_match? hmatch, hfound, hkind]
    rw [hentries, List.mem_singleton] at he
    subst he
    obtain ⟨-, c, ha⟩ := exists_of_match?_lists lists_numberBody hmatch
    rw [← htext]
    exact isNumber_of_mem ha
  · intro h
    have he : ⟨"LITERAL_NUMBER", enclosed .full numberBody⟩ ∈
        g.lexicon.entries.filter (·.kind = "LITERAL_NUMBER") := by simp [hentries]
    have hmatch := match?_of_lists lists_numberBody .full "LITERAL_NUMBER" (.start text.toList)
    have hne : text.toList ≠ [] := by
      obtain ⟨sign, -, magnitude, -, heq⟩ := h
      simp [heq]
    rw [foundBehind?_number h, Option.filter_some_pos (by simpa using hne)] at hmatch
    refine ⟨⟨"LITERAL_NUMBER", text, 0⟩, ⟨by simp [hignored], _, (List.mem_filter.1 he).1, _, _, _,
      hmatch, ?_⟩, rfl, rfl⟩
    simp [Token.alike_iff]

/-! ### Reading integers -/

section Reading

open Text

theorem isSome_groupedNaturalFrom? {cs : List Char} (h : ∀ c ∈ cs, isDecimal c) (acc : ℕ)
    {afterDigit : Bool} (hstart : afterDigit ∨ cs ≠ []) :
    (groupedNaturalFrom? acc afterDigit cs).isSome := by
  induction cs generalizing acc afterDigit with
  | nil => simp_all [groupedNaturalFrom?]
  | cons c cs ih =>
    obtain ⟨hc, hcs⟩ := List.forall_mem_cons.1 h
    have hunderscore : ¬(c == '_') := by
      rintro hc'
      rw [beq_iff_eq.1 hc'] at hc
      exact absurd hc (by decide)
    obtain ⟨d, hd⟩ := Option.isSome_iff_exists.1 hc
    rw [groupedNaturalFrom?, if_neg hunderscore, hd]
    exact ih hcs _ (.inl rfl)

/-- No integer is read where there is anything but digits and underscores. -/
theorem groupedNaturalFrom?_eq_none {cs : List Char} {c : Char} (hmem : c ∈ cs)
    (hc : ¬isDecimal c) (hne : c ≠ '_') (acc : ℕ) (afterDigit : Bool) :
    groupedNaturalFrom? acc afterDigit cs = none := by
  induction cs generalizing acc afterDigit with
  | nil => cases hmem
  | cons x cs ih =>
    rw [groupedNaturalFrom?]
    obtain rfl | hmem := List.mem_cons.1 hmem
    · have hdigit : digitValue? c = none := by simpa [isDecimal] using hc
      rw [if_neg (by simpa using hne), hdigit]
      rfl
    · by_cases hx : x == '_'
      · rw [if_pos hx, ih hmem, ite_self]
      · rw [if_neg hx, Option.bind_eq_none_iff]
        exact fun d _ => ih hmem _ _

theorem groupedInteger?_of_not_sign {cs : List Char} (h : '+' ∉ cs ∧ '-' ∉ cs) :
    groupedInteger? cs = (groupedNaturalFrom? 0 false cs).map Int.ofNat := by
  rw [groupedInteger?.eq_def]
  split
  · simp at h
  · simp at h
  · rfl

/-- No integer is read where a blank stands behind a sign. -/
theorem integerOf?_of_signed {text : String} {sign : Char} {magnitude : List Char}
    (hsign : sign = '+' ∨ sign = '-') (h : IsMagnitude magnitude)
    (htext : text.toList = sign :: ' ' :: magnitude) : integerOf? text = none := by
  have hlast : ∀ x ∈ (sign :: ' ' :: magnitude).getLast?, ¬isSpace x := by
    rw [List.getLast?_cons_cons, List.getLast?_cons, List.getLast?_eq_some_getLast h.ne_nil]
    intro x hx
    obtain rfl : magnitude.getLast h.ne_nil = x := by simpa using hx
    exact h.not_isSpace _ (List.getLast_mem h.ne_nil)
  have hnone : groupedNaturalFrom? 0 false (' ' :: magnitude) = none :=
    groupedNaturalFrom?_eq_none List.mem_cons_self (by decide) (by decide) 0 false
  obtain rfl | rfl := hsign
  · rw [integerOf?, htext, trim_of_ends (by simp; decide) hlast, groupedInteger?, hnone]
    rfl
  · rw [integerOf?, htext, trim_of_ends (by simp; decide) hlast, groupedInteger?, hnone]
    rfl

/-- **Of the number literals just those can be read that are a blank with digits behind it.** -/
theorem isSome_integerOf?_iff {text : String} (h : IsNumber text.toList) :
    (integerOf? text).isSome ↔ ∃ n : Numeral, text.toList = ' ' :: n.digits := by
  obtain ⟨sign, hsign, magnitude, hmagnitude, htext⟩ := h
  simp only [signTexts, List.mem_cons, List.not_mem_nil, or_false] at hsign
  obtain rfl | hsign := hsign
  · have hread : integerOf? text = (groupedNaturalFrom? 0 false magnitude).map Int.ofNat := by
      rw [integerOf?, htext, List.nil_append, trim_cons_of_isSpace (by decide),
        trim_of_forall_not_isSpace hmagnitude.not_isSpace,
        groupedInteger?_of_not_sign hmagnitude.not_sign]
    rw [hread, Option.isSome_map, htext, List.nil_append]
    simp only [List.cons.injEq, true_and]
    have hpoint {a : List Char} (hmem : '.' ∈ a) : ¬(groupedNaturalFrom? 0 false a).isSome := by
      rw [groupedNaturalFrom?_eq_none hmem (by decide) (by decide)]
      simp
    have hdigits {a : List Char} (hmem : '.' ∈ a) : ¬∃ n : Numeral, a = n.digits := by
      rintro ⟨n, rfl⟩
      exact not_isDecimal_point (n.isDecimal _ hmem)
    cases hmagnitude with
    | whole n =>
      exact iff_of_true (isSome_groupedNaturalFrom? n.isDecimal 0 (.inr n.ne_nil)) ⟨n, rfl⟩
    | pointed n _ => exact iff_of_false (hpoint (by simp)) (hdigits (by simp))
    | fraction n => exact iff_of_false (hpoint (by simp)) (hdigits (by simp))
  · have hsigned : ∃ s, (s = '+' ∨ s = '-') ∧ sign = [s] := by
      obtain rfl | rfl := hsign
      · exact ⟨'+', .inl rfl, rfl⟩
      · exact ⟨'-', .inr rfl, rfl⟩
    obtain ⟨s, hs, rfl⟩ := hsigned
    rw [integerOf?_of_signed hs hmagnitude htext]
    refine iff_of_false (by simp) ?_
    rintro ⟨n, hn⟩
    rw [htext, List.singleton_append] at hn
    obtain rfl := (List.cons.inj hn).1
    obtain hs | hs := hs <;> exact absurd hs (by decide)

end Reading

end OrderedGrammar.Filter
