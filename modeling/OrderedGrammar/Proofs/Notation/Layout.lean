import Mathlib.Data.List.Chain
import OrderedGrammar.Proofs.Notation.Printing

/-!
# The layout of a text

How lexemes of the notation are laid out does not matter: whitespace and comments in any mix can
stand before, between and behind them, and something has to only between two names.  The tokens of
such a text are its lexemes, each at the offset where it is written (`tokenize_laidOut`), so that
the text is compiled to what any other layout of the lexemes is compiled to
(`compileRules_laidOut_iff`).

## Main definitions

* `IsSeparator` : whitespace and comments in any mix.
* `laidOut` : the text of lexemes with what stands before and behind them.
* `IsLayout` : the layouts from which the lexemes can be told.
-/

namespace OrderedGrammar.Notation

open Pattern Lexicon

/-! ### Comments -/

/-- The end of a comment is matched only where it is written. -/
theorem prefixes_commentEnd {cs : List Char} (h : ¬['*', '/'] <+: cs) :
    (seq (sign '*') (sign '/')).prefixes cs = [] := by
  rw [List.eq_nil_iff_forall_not_mem]
  intro a ha
  have hprefix := isPrefix_of_mem ha
  obtain ⟨star, hstar, slash, hslash, rfl⟩ := mem_prefixes_seq.1 ha
  rw [mem_prefixes_sign (by decide) hstar, mem_prefixes_sign (by decide) hslash] at hprefix
  exact h hprefix

/-- The comment around a text. -/
def comment (body : List Char) : List Char := '/' :: '*' :: (body ++ ['*', '/'])

/-- A comment ends at the first place where its end is written. -/
theorem head?_prefixes_comment {body : List Char} (h : ¬['*', '/'] <:+: body) (rest : List Char) :
    (commentBody.prefixes (comment body ++ rest)).head? = some (comment body) := by
  have hsign {c : Char} (hc : (CharSet.single c.toNat false .full).holds c) (cs : List Char) :
      ((sign c).prefixes (c :: cs)).head? = some [c] := head?_prefixes_char hc cs
  have hend : ((seq (sign '*') (sign '/')).prefixes ('*' :: '/' :: rest)).head? =
      some ['*', '/'] :=
    head?_prefixes_seq (hsign (by decide) _) (hsign (by decide) _)
  rw [comment, List.cons_append, List.cons_append, List.append_assoc]
  refine head?_prefixes_seq (hsign (by decide) _) (head?_prefixes_seq (hsign (by decide) _)
    (head?_prefixes_lazy ?_ ?_ hend))
  · -- whitespace and all that is none are all characters
    intro x _
    cases hx : Text.isSpace x <;> simp [CharSet.holds, CharItem.holds, CharClass.holds, hx]
  · -- an end that starts with the last character of the body has its slash where the star is
    intro e he hne
    refine prefixes_commentEnd fun hstart => ?_
    obtain ⟨x, e, rfl⟩ := List.exists_cons_of_ne_nil hne
    cases e with
    | nil => simp at hstart
    | cons y e =>
      simp only [List.cons_append, List.cons_prefix_cons, List.nil_prefix, and_true] at hstart
      obtain ⟨rfl, rfl⟩ := hstart
      exact h ((List.prefix_append ['*', '/'] e).isInfix.trans he.isInfix)

theorem firstToken?_comment {body : List Char} (h : ¬['*', '/'] <:+: body) (rest : List Char) :
    firstToken? bodies (comment body ++ rest) = some ("COMMENT", comment body) := by
  have hbodies : bodies = [] ++ ("COMMENT", commentBody) :: bodies.drop 1 := rfl
  exact firstToken?_of_split hbodies (by simp) (head?_prefixes_comment h rest) (by simp [comment])

/-! ### Separators -/

/-- Whitespace and comments in any mix; no comment has the end of one inside. -/
inductive IsSeparator : List Char → Prop
  | nil : IsSeparator []
  | space {x : Char} {cs : List Char} : Text.isSpace x → IsSeparator cs → IsSeparator (x :: cs)
  | comment {body cs : List Char} : ¬['*', '/'] <:+: body → IsSeparator cs →
      IsSeparator (comment body ++ cs)

theorem not_holds_nameTail_of_isSpace {x : Char} (hx : Text.isSpace x) : ¬nameTail.holds x :=
  not_holds_of_isSolid (by decide +kernel) hx

/-- A name does not go on in a separator. -/
theorem IsSeparator.not_holds_head {gap : List Char} (h : IsSeparator gap) :
    ∀ y ∈ gap.head?, ¬nameTail.holds y := by
  cases h with
  | nil => simp
  | space hx _ => simpa using not_holds_nameTail_of_isSpace hx
  | comment _ _ => simpa [Notation.comment] using not_holds_nameTail '/' (by decide)

/-- A separator gives no tokens, whatever stands behind it. -/
theorem IsSeparator.splitsAt {gap cs : List Char} {ts : List Token} {n : ℕ} (h : IsSeparator gap)
    (hcs : SplitsAt bodies ignored (n + gap.length) cs ts) :
    SplitsAt bodies ignored n (gap ++ cs) ts := by
  induction h generalizing n with
  | nil => exact hcs
  | @space x gap hx _ ih =>
    rw [List.length_cons, Nat.add_comm gap.length, ← Nat.add_assoc] at hcs
    exact .space hx (ih hcs)
  | @comment body gap hbody _ ih =>
    rw [List.length_append, ← Nat.add_assoc] at hcs
    rw [List.append_assoc]
    exact .dropped (firstToken?_comment hbody _) (by decide) (ih hcs)

/-! ### Lexemes -/

theorem kind_cases {kind : String} (h : kind ∈ tokenKinds) : kind = "MODIFIER" ∨
    kind = "QUOTEDLITERAL" ∨ kind = "IDENTIFIER" ∨ kind ∈ punctuation.map Prod.fst := by
  have hall : ∀ kind ∈ tokenKinds, kind = "MODIFIER" ∨ kind = "QUOTEDLITERAL" ∨
      kind = "IDENTIFIER" ∨ kind ∈ punctuation.map Prod.fst := by decide
  exact hall kind h

/-- A lexeme other than a name is what it is wherever it stands, and a name where it does not go
on. -/
theorem firstToken?_of_isSpelled {x : Lexeme} (h : IsSpelled x) {rest : List Char}
    (hrest : x.1 = "IDENTIFIER" → ∀ y ∈ rest.head?, ¬nameTail.holds y) :
    firstToken? bodies (x.2.toList ++ rest) = some (x.1, x.2.toList) := by
  obtain ⟨kind, text⟩ := x
  rcases kind_cases h.kind_mem with rfl | rfl | rfl | hkind
  · obtain ⟨m, hm⟩ := h.modifier_eq rfl
    exact firstToken?_modifier hm rest
  · obtain ⟨pattern, hpattern, rfl⟩ := h.quotable rfl
    exact firstToken?_quoted hpattern rest
  · exact firstToken?_identifier (h.identifier rfl) (hrest rfl)
  · obtain ⟨y, hy, rfl⟩ := List.mem_map.1 hkind
    obtain rfl := h.text_eq y.2 hy
    exact firstToken?_punctuation hy rest

/-- A name does not go on in a lexeme behind it that is none. -/
theorem not_holds_head_of_isSpelled {x : Lexeme} (h : IsSpelled x) (hkind : x.1 ≠ "IDENTIFIER")
    (rest : List Char) : ∀ y ∈ (x.2.toList ++ rest).head?, ¬nameTail.holds y := by
  have hsign {c : Char} {cs : List Char} (htext : x.2.toList = c :: cs) (hc : c ∈ otherHeads) :
      ∀ y ∈ (x.2.toList ++ rest).head?, ¬nameTail.holds y := by
    rw [htext]
    simpa using not_holds_nameTail c hc
  rcases kind_cases h.kind_mem with hx | hx | hx | hx
  · obtain ⟨m, hm⟩ := h.modifier_eq hx
    cases m <;> cases hm
    · exact hsign (c := '?') rfl (by decide)
    · exact hsign (c := '*') rfl (by decide)
    · exact hsign (c := '+') rfl (by decide)
    · exact hsign (c := '!') rfl (by decide)
  · obtain ⟨pattern, -, htext⟩ := h.quotable hx
    have hquote : x.2.toList = '"' :: (pattern.toList ++ ['"']) := by simp [htext]
    exact hsign hquote (by decide)
  · exact absurd hx hkind
  · have hsigns : ∀ y ∈ punctuation, y.2.toList ∈ otherHeads.map ([·]) := by decide
    obtain ⟨y, hy, hx⟩ := List.mem_map.1 hx
    obtain ⟨c, hc, htext⟩ := List.mem_map.1 (hsigns y hy)
    have heq : x.2 = y.2 := h.text_eq y.2 (hx ▸ hy)
    exact hsign (heq ▸ htext.symm) hc

/-! ### Layouts -/

/-- The text of lexemes, each with what stands behind it. -/
def written : List (Lexeme × String) → String
  | [] => ""
  | (x, gap) :: pieces => x.2 ++ gap ++ written pieces

/-- The text of lexemes, each with what stands behind it, and what stands before the first. -/
def laidOut (indent : String) (pieces : List (Lexeme × String)) : String :=
  indent ++ written pieces

/-- The tokens of lexemes that are written from an offset on. -/
def placedFrom : ℕ → List (Lexeme × String) → List Token
  | _, [] => []
  | n, (x, gap) :: pieces => ⟨x.1, x.2, n⟩ :: placedFrom (n + x.2.length + gap.length) pieces

theorem lexemes_placedFrom (n : ℕ) (pieces : List (Lexeme × String)) :
    (placedFrom n pieces).map (fun t => (t.kind, t.text)) = pieces.map Prod.fst := by
  induction pieces generalizing n with
  | nil => rfl
  | cons p pieces ih => rw [placedFrom, List.map_cons, List.map_cons, ih]

/-- Whether something stands between two names. -/
def KeptApart (p q : Lexeme × String) : Prop :=
  p.1.1 = "IDENTIFIER" → q.1.1 = "IDENTIFIER" → p.2 ≠ ""

/-- Lexemes of the notation with separators before, between and behind them, which may be empty but
between two names. -/
structure IsLayout (indent : String) (pieces : List (Lexeme × String)) : Prop where
  indent : IsSeparator indent.toList
  isSpelled : ∀ p ∈ pieces, IsSpelled p.1
  gap : ∀ p ∈ pieces, IsSeparator p.2.toList
  apart : pieces.IsChain KeptApart

/-- What stands behind a name is no part of it. -/
theorem not_holds_head_behind {x : Lexeme} {gap : String} {pieces : List (Lexeme × String)}
    (hgap : IsSeparator gap.toList) (hspelled : ∀ p ∈ pieces, IsSpelled p.1)
    (hapart : ((x, gap) :: pieces).IsChain KeptApart) (hx : x.1 = "IDENTIFIER") :
    ∀ y ∈ (gap.toList ++ (written pieces).toList).head?, ¬nameTail.holds y := by
  by_cases hempty : gap = ""
  · -- the next lexeme stands right behind the name, and is no name itself
    rw [hempty]
    cases pieces with
    | nil => simp [written]
    | cons p pieces =>
      have hp : p.1.1 ≠ "IDENTIFIER" := fun hp => (List.isChain_cons_cons.1 hapart).1 hx hp hempty
      have hhead := not_holds_head_of_isSpelled (hspelled p List.mem_cons_self) hp
        (p.2 ++ written pieces).toList
      rwa [← String.toList_append, ← String.append_assoc] at hhead
  · have hne : gap.toList ≠ [] := by simpa using hempty
    rw [List.head?_append_of_ne_nil _ hne]
    exact hgap.not_holds_head

/-- Each lexeme is found where it is written, and nothing is found between them. -/
theorem splitsAt_written {pieces : List (Lexeme × String)} (hspelled : ∀ p ∈ pieces, IsSpelled p.1)
    (hgap : ∀ p ∈ pieces, IsSeparator p.2.toList) (hapart : pieces.IsChain KeptApart) (n : ℕ) :
    SplitsAt bodies ignored n (written pieces).toList (placedFrom n pieces) := by
  induction pieces generalizing n with
  | nil => exact .done
  | cons p pieces ih =>
    obtain ⟨x, gap⟩ := p
    obtain ⟨hx, hspelled⟩ := List.forall_mem_cons.1 hspelled
    obtain ⟨hsep, hgap⟩ := List.forall_mem_cons.1 hgap
    have hkept : ∀ kind ∈ tokenKinds, kind ∉ ignored := by decide
    have hrest := ih hspelled hgap hapart.tail (n + x.2.length + gap.length)
    have hbehind := hsep.splitsAt (n := n + x.2.length) hrest
    have hfirst := firstToken?_of_isSpelled hx (not_holds_head_behind hsep hspelled hapart)
    have hsplits := SplitsAt.kept hfirst (hkept x.1 hx.kind_mem) hbehind
    rwa [String.ofList_toList, ← List.append_assoc, ← String.toList_append,
      ← String.toList_append] at hsplits

section Compile

variable {g : Grammar} (hg : grammar = .ok g) {indent : String} {pieces : List (Lexeme × String)}

include hg

theorem scan_laidOut (h : IsLayout indent pieces) :
    g.lexicon.scan (laidOut indent pieces) = .ok (placedFrom indent.length pieces) := by
  obtain ⟨hentries, hignored⟩ := entries_eq hg
  refine scan_of_splitsAt isBody_of_mem hentries ?_
  rw [hignored, laidOut, String.toList_append]
  refine h.indent.splitsAt ?_
  rw [Nat.zero_add, String.length_toList]
  exact splitsAt_written h.isSpelled h.gap h.apart indent.length

/-- What a text is compiled to depends on the lexemes in it, and not on how they are laid out. -/
theorem compileRules_laidOut_iff (h : IsLayout indent pieces) {rules : List Rule} :
    compileRules (laidOut indent pieces) = .ok rules ↔
      ∃ declarations, declarations ≠ [] ∧ pieces.map Prod.fst = lexemesOf declarations ∧
        framesOf declarations ≤ 1000 ∧ rulesOf declarations = .ok rules := by
  have hscan := scan_laidOut hg h
  rw [compileRules_eq_ok_iff hg]
  constructor
  · rintro ⟨tokens, htokens, declarations, hne, hlexemes, hrules⟩
    obtain rfl := Except.ok.inj (hscan.symm.trans htokens)
    rw [lexemes_placedFrom] at hlexemes
    exact ⟨declarations, hne, hlexemes, hrules⟩
  · rintro ⟨declarations, hne, hlexemes, hrules⟩
    refine ⟨_, hscan, declarations, hne, ?_, hrules⟩
    rwa [lexemes_placedFrom]

end Compile

/-- **The notation does not depend on layout.**  Lexemes with separators before, between and behind
them are split into just these lexemes, each at the offset where it is written. -/
theorem tokenize_laidOut {indent : String} {pieces : List (Lexeme × String)}
    (h : IsLayout indent pieces) : ∃ g, grammar = .ok g ∧
      g.tokenize (laidOut indent pieces) = .ok (placedFrom indent.length pieces) := by
  obtain ⟨g, hg⟩ := exists_grammar
  exact ⟨g, hg, scan_laidOut hg h⟩

/-- Lexemes close together, with comments that have a quote or a star inside, and with a quoted
pattern that has a quote and what would be a comment inside. -/
def crammed : List (Lexeme × String) :=
  [(("IDENTIFIER", "x"), "/**/"), (("IDENTIFIER", "y'"), ""), (("EQ", "="), ""),
    (("QUOTEDLITERAL", "\"/*\\\"*/\""), ""), (("MODIFIER", "*"), "/***/\n"),
    (("SEMICOLON", ";"), "")]

theorem isLayout_crammed : IsLayout "/* \" */" crammed := by
  have hcomment {body : List Char} (h : ¬['*', '/'] <:+: body) : IsSeparator (comment body) := by
    rw [← List.append_nil (comment body)]
    exact .comment h .nil
  refine ⟨@hcomment [' ', '"', ' '] (by decide), ?_, ?_, ?_⟩
  · simp only [crammed, List.forall_mem_cons]
    refine ⟨?_, ?_, ?_, ?_, ?_, ?_, List.forall_mem_nil _⟩
    · exact @isSpelled_identifier "x".toList _ (by decide +kernel)
    · exact @isSpelled_identifier "y'".toList _ (by decide +kernel)
    · exact isSpelled_of_mem_punctuation (by decide)
    · exact @isSpelled_quoted "\"/*\\\"*/\"".toList _ (by decide +kernel)
    · exact @isSpelled_modifier "*".toList _ (by decide +kernel)
    · exact isSpelled_of_mem_punctuation (by decide)
  · have hstar : IsSeparator (comment ['*'] ++ ['\n']) :=
      .comment (by decide) (.space (by decide) .nil)
    simp only [crammed, List.forall_mem_cons]
    exact ⟨@hcomment [] (by decide), .nil, .nil, .nil, hstar, .nil, List.forall_mem_nil _⟩
  · simp [crammed, KeptApart]

theorem crammed_tokenized : IsLayout "/* \" */" crammed ∧ ∃ g, grammar = .ok g ∧
    g.tokenize "/* \" */x/**/y'=\"/*\\\"*/\"*/***/\n;" =
      .ok [⟨"IDENTIFIER", "x", 7⟩, ⟨"IDENTIFIER", "y'", 12⟩, ⟨"EQ", "=", 14⟩,
        ⟨"QUOTEDLITERAL", "\"/*\\\"*/\"", 15⟩, ⟨"MODIFIER", "*", 23⟩,
        ⟨"SEMICOLON", ";", 30⟩] := by
  obtain ⟨g, hg, htokens⟩ := tokenize_laidOut isLayout_crammed
  exact ⟨isLayout_crammed, g, hg, htokens⟩

end OrderedGrammar.Notation
