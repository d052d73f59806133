import OrderedGrammar.Proofs.Notation.Tokens

/-!
# Reading lexemes from a text

A lexeme at the start of a text is the token that is found there: no pattern ahead of its own starts
with its first character, and its own takes just the lexeme if the text does not go on with what it
could take as well.
-/

namespace OrderedGrammar.Notation

open Pattern Lexicon

/-- Whether a text is read as lexemes up to a rest. -/
def ReadsAs (cs : List Char) (lexemes : List Lexeme) (rest : List Char) : Prop :=
  Reads bodies cs (lexemes.map fun x => (x.1, x.2.toList)) rest

namespace ReadsAs

variable {cs ds rest : List Char} {lexemes more : List Lexeme}

theorem append (first : ReadsAs cs lexemes ds) (second : ReadsAs ds more rest) :
    ReadsAs cs (lexemes ++ more) rest := by
  rw [ReadsAs, List.map_append]
  exact Reads.append first second

theorem space {x : Char} (hx : Text.isSpace x) (h : ReadsAs cs lexemes rest) :
    ReadsAs (x :: cs) lexemes rest :=
  Reads.space hx h

theorem token {kind text : String} (h : firstToken? bodies (text.toList ++ rest) =
    some (kind, text.toList)) : ReadsAs (text.toList ++ rest) [(kind, text)] rest := by
  refine Reads.token h ?_
  rw [List.drop_left]
  exact .done

end ReadsAs

theorem firstToken?_punctuation {x : Lexeme} (h : x ∈ punctuation) (rest : List Char) :
    firstToken? bodies (x.2.toList ++ rest) = some (x.1, x.2.toList) := by
  simp only [punctuation, List.mem_cons, List.not_mem_nil, or_false] at h
  rcases h with rfl | rfl | rfl | rfl | rfl | rfl | rfl <;> rfl

theorem reads_punctuation {x : Lexeme} (h : x ∈ punctuation) (rest : List Char) :
    ReadsAs (x.2.toList ++ rest) [x] rest :=
  .token (firstToken?_punctuation h rest)

theorem firstToken?_modifier {m : Modifier} {x : Lexeme} (h : modifierLexemes m = [x])
    (rest : List Char) : firstToken? bodies (x.2.toList ++ rest) = some (x.1, x.2.toList) := by
  cases m <;> cases h <;> rfl

theorem reads_modifier (m : Modifier) (rest : List Char) :
    ReadsAs (m.text.toList ++ rest) (modifierLexemes m) rest := by
  cases m with
  | required => exact .done
  | optional => exact .token (firstToken?_modifier (m := .optional) rfl rest)
  | zeroOrMore => exact .token (firstToken?_modifier (m := .zeroOrMore) rfl rest)
  | oneOrMore => exact .token (firstToken?_modifier (m := .oneOrMore) rfl rest)
  | ignored => exact .token (firstToken?_modifier (m := .ignored) rfl rest)

theorem holds_modifierSet {x : Char} : modifierSet.holds x ↔ x.toNat ∈ [63, 33, 43, 42] := by
  rw [modifierSet, CharSet.holds, Bool.bne_false, CharSet.any_ones_iff (by decide)]

/-- A name starts with a character that no other token ahead of it starts with. -/
theorem not_holds_of_nameHead {x : Char} (hx : nameHead.holds x) :
    ∀ b ∈ bodies.take 8, ∃ set ∈ b.2.headSet?, ¬set.holds x := by
  have hother : ∀ n ∈ [47, 61, 44, 58, 59, 63, 33, 43, 42, 124, 34],
      ¬nameHead.holds (Char.ofNat n) := by decide +kernel
  have hne : x.toNat ∉ [47, 61, 44, 58, 59, 63, 33, 43, 42, 124, 34] := by
    intro hmem
    have hholds := hother x.toNat hmem
    rw [Char.ofNat_toNat] at hholds
    exact hholds hx
  have hsign {c : Char} (hc : ¬Text.IsLetterOrBeyond c.toNat)
      (hmem : c.toNat ∈ [47, 61, 44, 58, 59, 63, 33, 43, 42, 124, 34]) :
      ∃ set ∈ (sign c).headSet?, ¬set.holds x :=
    exists_headSet?_sign hc fun heq => hne (heq ▸ hmem)
  intro b hb
  simp only [bodies, List.take_succ_cons, List.take_zero, List.mem_cons, List.not_mem_nil,
    or_false] at hb
  rcases hb with rfl | rfl | rfl | rfl | rfl | rfl | rfl | rfl
  · exact hsign (c := '/') (by decide) (by decide)
  · exact hsign (by decide) (by decide)
  · exact hsign (by decide) (by decide)
  · exact hsign (by decide) (by decide)
  · exact hsign (by decide) (by decide)
  · refine ⟨_, rfl, fun h => hne ?_⟩
    exact List.mem_of_mem_drop (i := 5) (List.mem_of_mem_take (i := 4) (holds_modifierSet.1 h))
  · exact hsign (by decide) (by decide)
  · exact hsign (c := '"') (by decide) (by decide)

/-- The blank, and the characters that comments and lexemes other than names start with. -/
def otherHeads : List Char :=
  [' ', '=', ',', ':', ';', '|', '(', ')', '?', '!', '+', '*', '"', '/']

/-- What can follow a name is no part of the name. -/
theorem not_holds_nameTail (x : Char) (hx : x ∈ otherHeads) : ¬nameTail.holds x := by
  have hall : otherHeads.all fun x => !nameTail.holds x := by decide +kernel
  simpa using List.all_eq_true.1 hall x hx

/-- A modifier is no part of the name in front of it. -/
theorem not_holds_head_modifier (m : Modifier) {rest : List Char}
    (hrest : ∀ y ∈ rest.head?, ¬nameTail.holds y) :
    ∀ y ∈ (m.text.toList ++ rest).head?, ¬nameTail.holds y := by
  cases m with
  | required => exact hrest
  | optional => simpa [Modifier.text, Modifier.char?] using not_holds_nameTail '?' (by decide)
  | zeroOrMore => simpa [Modifier.text, Modifier.char?] using not_holds_nameTail '*' (by decide)
  | oneOrMore => simpa [Modifier.text, Modifier.char?] using not_holds_nameTail '+' (by decide)
  | ignored => simpa [Modifier.text, Modifier.char?] using not_holds_nameTail '!' (by decide)

theorem firstToken?_identifier {name : String} (h : IsIdentifier name) {rest : List Char}
    (hrest : ∀ y ∈ rest.head?, ¬nameTail.holds y) :
    firstToken? bodies (name.toList ++ rest) = some ("IDENTIFIER", name.toList) := by
  obtain ⟨x, xs, hname, hx, hxs⟩ := isIdentifier_iff.1 h
  have hbodies : bodies = bodies.take 8 ++ ("IDENTIFIER", nameBody) :: bodies.drop 9 := rfl
  rw [hname, List.cons_append]
  exact firstToken?_of_split hbodies (not_holds_of_nameHead hx)
    (head?_prefixes_word hx hxs hrest) (by simp)

theorem reads_identifier {name : String} (h : IsIdentifier name) {rest : List Char}
    (hrest : ∀ y ∈ rest.head?, ¬nameTail.holds y) :
    ReadsAs (name.toList ++ rest) [("IDENTIFIER", name)] rest :=
  .token (firstToken?_identifier h hrest)

theorem firstToken?_quoted {pattern : String} (h : IsQuotable pattern) (rest : List Char) :
    firstToken? bodies (("\"" ++ pattern ++ "\"").toList ++ rest) =
      some ("QUOTEDLITERAL", ("\"" ++ pattern ++ "\"").toList) := by
  have hbodies : bodies = bodies.take 7 ++ ("QUOTEDLITERAL", quotedBody) :: bodies.drop 8 := rfl
  have hfirst : ∀ b ∈ bodies.take 7, ∃ set ∈ b.2.headSet?, ¬set.holds '"' := by decide +kernel
  have htext : ("\"" ++ pattern ++ "\"").toList = '"' :: (pattern.toList ++ ['"']) := by simp
  rw [htext, List.cons_append, List.append_assoc]
  exact firstToken?_of_split hbodies hfirst
    (head?_prefixes_quotedBody (isQuotable_iff.1 h) rest) (by simp)

theorem reads_quoted {pattern : String} (h : IsQuotable pattern) (rest : List Char) :
    ReadsAs (("\"" ++ pattern ++ "\"").toList ++ rest)
      [("QUOTEDLITERAL", "\"" ++ pattern ++ "\"")] rest :=
  .token (firstToken?_quoted h rest)

end OrderedGrammar.Notation
