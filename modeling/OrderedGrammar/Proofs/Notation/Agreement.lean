import Mathlib.Data.Bool.AllAny
import OrderedGrammar.Proofs.Notation.Faults
import OrderedGrammar.Proofs.Notation.Layout
import OrderedGrammar.Proofs.Notation.RoundTrip
import OrderedGrammar.Proofs.Shorthand

/-!
# The shorthand in the notation

A symbol can be written in the shorthand or in a rule of the notation.  The notation has names of
ASCII only, but for the four letters beyond it whose case it does not tell from letters of ASCII;
the shorthand has names that go on with word characters of any kind.  A shorthand without the
characters that are foreign to the notation is compiled to the symbol that it is read as, and any
other is refused at the first of them (`rules_of_shorthand`).

## Main definitions

* `isForeign` : the word characters that the notation does not have.
-/

namespace OrderedGrammar

namespace Notation

open Pattern Lexicon

/-- A word character that is neither a letter or a digit of ASCII, nor the underscore, nor a letter
that differs from one of ASCII in case only. -/
def isForeign (c : Char) : Bool :=
  Text.isWord c && !(c.isAlphanum || c == '_' || Text.lookalikes.contains c.toNat)

/-! ### The characters of names -/

theorem nameTail_iff {c : Char} : nameTail.holds c ↔
    c.isAlphanum ∨ c = '_' ∨ c = '\'' ∨ c.toNat ∈ Text.lookalikes := by
  by_cases hc : c.toNat < 0x80
  · exact of_toNat_lt (P := fun c => nameTail.holds c ↔
      c.isAlphanum ∨ c = '_' ∨ c = '\'' ∨ c.toNat ∈ Text.lookalikes) (by decide +kernel) hc
  · have hlookalikes : ∀ n ∈ Text.lookalikes, nameTail.holds (Char.ofNat n) := by decide +kernel
    constructor
    · intro h
      exact .inr (.inr (.inr (CharSet.mem_lookalikes_of_holds (by decide) (by omega) h)))
    · rintro (h | rfl | rfl | h)
      · exact absurd (toNat_lt_of_isAlphanum h) hc
      · exact absurd (by decide) hc
      · exact absurd (by decide) hc
      · have hholds := hlookalikes c.toNat h
        rwa [Char.ofNat_toNat] at hholds

theorem nameHead_of_isNameHead {c : Char} (h : IsNameHead c) : nameHead.holds c := by
  have hstart := Symbol.isNameStart_iff.2 h
  have hc : c.toNat < 0x80 := by
    rcases Bool.or_eq_true_iff.1 hstart with h | h
    · exact toNat_lt_of_isAlpha h
    · rw [eq_of_beq h]
      decide
  exact of_toNat_lt (P := fun c => Symbol.isNameStart c → nameHead.holds c) (by decide +kernel) hc
    hstart

/-- What a name of the shorthand goes on with can stand in the notation unless it is foreign. -/
theorem nameTail_of_not_isForeign {c : Char} (h : Text.isWord c ∨ c = '\'') (hc : ¬isForeign c) :
    nameTail.holds c := by
  rw [nameTail_iff]
  rcases h with h | h
  · simp only [isForeign, h, Bool.true_and, Bool.not_eq_true', Bool.not_eq_false, Bool.or_eq_true,
      beq_iff_eq, List.contains_iff_mem] at hc
    tauto
  · exact .inr (.inr (.inl h))

/-- The word characters of ASCII are no others than the notation has. -/
theorem not_isForeign_of_toNat_lt {c : Char} (hc : c.toNat < 0x80) : ¬isForeign c :=
  of_toNat_lt (P := fun c => ¬isForeign c) (by decide +kernel) hc

theorem not_nameTail_of_isForeign {c : Char} (h : isForeign c) : ¬nameTail.holds c := by
  rw [nameTail_iff]
  rintro (hc | rfl | rfl | hc)
  · simp [isForeign, hc] at h
  · exact not_isForeign_of_toNat_lt (by decide) h
  · exact not_isForeign_of_toNat_lt (by decide) h
  · simp [isForeign, hc] at h

theorem not_isForeign_of_isSpace {c : Char} (h : Text.isSpace c) : ¬isForeign c := by
  simp [isForeign, not_isWord_of_isSpace h]

/-- A name starts with a character that it can go on with. -/
theorem nameTail_of_nameHead {c : Char} (h : nameHead.holds c) : nameTail.holds c := by
  rw [nameHead, CharSet.holds, Bool.bne_false, List.any_eq_true] at h
  obtain ⟨item, hitem, hholds⟩ := h
  rw [nameTail, CharSet.holds, Bool.bne_false, List.any_eq_true]
  refine ⟨item, ?_, hholds⟩
  simp only [List.mem_cons, List.not_mem_nil, or_false] at hitem ⊢
  tauto

/-- No token starts with a character that is foreign to the notation. -/
theorem firstToken?_of_isForeign {c : Char} (h : isForeign c) (cs : List Char) :
    firstToken? bodies (c :: cs) = none := by
  have hsign {x : Char} (hx : ¬Text.IsLetterOrBeyond x.toNat) (hlt : x.toNat < 0x80) :
      ∃ set ∈ (sign x).headSet?, ¬set.holds c :=
    exists_headSet?_sign hx fun heq => not_isForeign_of_toNat_lt hlt (heq ▸ h)
  have hmodifiers : ∀ n ∈ [63, 33, 43, 42], n < 0x80 := by decide
  have hheads : ∀ b ∈ bodies, ∃ set ∈ b.2.headSet?, ¬set.holds c := by
    simp only [bodies, List.forall_mem_cons]
    refine ⟨hsign (x := '/') (by decide) (by decide), hsign (by decide) (by decide),
      hsign (by decide) (by decide), hsign (by decide) (by decide), hsign (by decide) (by decide),
      ⟨_, rfl, fun hholds => ?_⟩, hsign (by decide) (by decide),
      hsign (x := '"') (by decide) (by decide), ⟨_, rfl, fun hholds => ?_⟩,
      hsign (by decide) (by decide), hsign (by decide) (by decide), List.forall_mem_nil _⟩
    · exact not_isForeign_of_toNat_lt (hmodifiers _ (holds_modifierSet.1 hholds)) h
    · exact not_nameTail_of_isForeign h (nameTail_of_nameHead hholds)
  rw [firstToken?, List.findSome?_eq_none_iff]
  intro b hb
  obtain ⟨set, hset, hholds⟩ := hheads b hb
  rw [prefixes_of_head hset (by simpa using hholds)]
  rfl

/-! ### Reading a shorthand -/

/-- What a shorthand's label is in front of a symbol of the notation. -/
def labelFrom : Option String → Label
  | none => .absent
  | some label => if label = "" then .bare else .named label

theorem text?_labelFrom (label : Option String) : (labelFrom label).text? = label := by
  cases label with
  | none => rfl
  | some label =>
    rw [labelFrom]
    split
    · next h => rw [h]; rfl
    · rfl

/-- The symbol of the notation that a shorthand writes. -/
def itemFrom (w : Shorthand) : Item := .name (labelFrom w.label) w.name w.modifier

theorem flatten_itemFrom (declared : List String) (w : Shorthand) (n : ℕ) :
    (itemFrom w).flatten declared n = (w.symbol, [], n) := by
  rw [itemFrom, Item.flatten, text?_labelFrom, Symbol.ofModifier_eq_symbol]

/-- The rule `r` of one shorthand. -/
def declarationFrom (w : Shorthand) : Declaration := .parser "r" (.one (.one (itemFrom w)))

theorem rulesOf_declarationFrom (w : Shorthand) :
    rulesOf [declarationFrom w] = [⟨"r", .parser, [w.symbol]⟩].mapM Draft.rule := by
  rw [rulesOf, declarationFrom]
  simp [flattenAll, Declaration.flatten, Choice.flatten, Series.flatten, flatten_itemFrom]

theorem isIdentifier_of_isName {name : String} (hname : IsName name.toList)
    (h : ∀ c ∈ name.toList, ¬isForeign c) : IsIdentifier name := by
  obtain ⟨c, rest, heq, hc, hrest⟩ := hname
  rw [heq, List.forall_mem_cons] at h
  exact isIdentifier_iff.2 ⟨c, rest, heq, nameHead_of_isNameHead hc,
    fun x hx => nameTail_of_not_isForeign (hrest x hx) (h.2 x hx)⟩

theorem reads_spaces {lead : List Char} (h : lead.all Text.isSpace) (cs : List Char) :
    ReadsAs (lead ++ cs) [] cs := by
  induction lead with
  | nil => exact .done
  | cons x lead ih =>
    rw [List.all_cons, Bool.and_eq_true] at h
    exact .space h.1 (ih h.2)

theorem reads_labelFrom {label : Option String} (hlabel : ∀ l ∈ label, l = "" ∨ IsName l.toList)
    (h : ∀ c ∈ Shorthand.labelChars label, ¬isForeign c) (rest : List Char) :
    ReadsAs (Shorthand.labelChars label ++ rest) (labelFrom label).lexemes rest := by
  cases label with
  | none => exact .done
  | some label =>
    rw [labelFrom]
    split
    · next hempty =>
      rw [hempty]
      exact reads_colon rest
    · next hempty =>
      have hname := (hlabel label rfl).resolve_left hempty
      have hcolon : ∀ y ∈ (':' :: rest).head?, ¬nameTail.holds y := by
        simpa using not_holds_nameTail ':' (by decide)
      rw [Shorthand.labelChars, List.forall_mem_append] at h
      rw [Shorthand.labelChars, List.append_assoc]
      exact (reads_identifier (isIdentifier_of_isName hname h.1) hcolon).append (reads_colon rest)

theorem reads_shorthand {w : Shorthand} (h : ∀ c ∈ w.chars, ¬isForeign c) {rest : List Char}
    (hrest : ∀ y ∈ rest.head?, ¬nameTail.holds y) :
    ReadsAs (w.chars ++ rest) (itemFrom w).lexemes rest := by
  rw [Shorthand.chars, List.forall_mem_append, List.forall_mem_append] at h
  obtain ⟨hlabel, hname, -⟩ := h
  rw [Shorthand.chars, List.append_assoc, List.append_assoc, itemFrom, Item.lexemes]
  have htext : w.modifier.char?.toList = w.modifier.text.toList := by
    rw [Modifier.text, String.toList_ofList]
  rw [htext]
  exact (reads_labelFrom w.label_isName hlabel _).append
    ((reads_identifier (isIdentifier_of_isName w.isName hname)
      (not_holds_head_modifier w.modifier hrest)).append (reads_modifier w.modifier rest))

/-! ### Reading as far as a foreign character -/

/-- An element of two lists one behind the other is in the first or in the second. -/
theorem cases_of_append_eq {α : Type*} {first second before after : List α} {x : α}
    (h : first ++ second = before ++ x :: after) :
    (∃ rest, first = before ++ x :: rest ∧ after = rest ++ second) ∨
      ∃ rest, before = first ++ rest ∧ second = rest ++ x :: after := by
  obtain ⟨rest, hbefore, hsecond⟩ | ⟨rest, hfirst, hx⟩ := List.append_eq_append_iff.1 h
  · exact .inr ⟨rest, hbefore, hsecond⟩
  · obtain ⟨rfl, hsecond⟩ | ⟨rest, rfl, hafter⟩ := List.cons_eq_append_iff.1 hx
    · exact .inr ⟨[], by simpa using hfirst.symm, hsecond⟩
    · exact .inl ⟨rest, hfirst, hafter⟩

section Foreign

variable {a b : List Char} {x : Char}

theorem not_isForeign_of_mem_modifier (m : Modifier) : ∀ c ∈ m.char?.toList, ¬isForeign c := by
  have hascii : ∀ c ∈ m.char?.toList, c.toNat < 0x80 :=
    List.all_iff_forall_prop.1 (by cases m <;> decide)
  exact fun c hc => not_isForeign_of_toNat_lt (hascii c hc)

/-- A name is read up to the first foreign character in it. -/
theorem reads_foreign_name (hname : IsName (a ++ x :: b)) (ha : ∀ c ∈ a, ¬isForeign c)
    (hx : isForeign x) (rest : List Char) :
    ∃ found, Reads bodies (a ++ x :: rest) found (x :: rest) := by
  have hhead : ∀ y ∈ (x :: rest).head?, ¬nameTail.holds y := by
    simpa using not_nameTail_of_isForeign hx
  obtain ⟨c, cs, heq, hc, hcs⟩ := hname
  cases a with
  | nil =>
    cases heq
    exact absurd (nameTail_of_nameHead (nameHead_of_isNameHead hc)) (not_nameTail_of_isForeign hx)
  | cons y a =>
    obtain ⟨rfl, rfl⟩ := List.cons.inj heq
    have hisName : IsName (String.ofList (y :: a)).toList :=
      ⟨y, a, String.toList_ofList, hc, fun z hz => hcs z (List.mem_append_left _ hz)⟩
    have hread := reads_identifier (isIdentifier_of_isName hisName (by simpa using ha)) hhead
    rw [String.toList_ofList] at hread
    exact ⟨_, hread⟩

/-- A shorthand is read up to the first foreign character in it. -/
theorem reads_foreign_shorthand {w : Shorthand} (h : w.chars = a ++ x :: b)
    (ha : ∀ c ∈ a, ¬isForeign c) (hx : isForeign x) (rest : List Char) :
    ∃ found, Reads bodies (a ++ x :: rest) found (x :: rest) := by
  have hmodifier : x ∉ w.modifier.char?.toList := fun hmem =>
    not_isForeign_of_mem_modifier w.modifier x hmem hx
  rw [Shorthand.chars] at h
  obtain ⟨behind, hlabel, -⟩ | ⟨a', rfl, hname⟩ := cases_of_append_eq h
  · -- it is in the label, for a colon is none
    obtain ⟨label, name, modifier, hname, hall⟩ := w
    cases label with
    | none => simp [Shorthand.labelChars] at hlabel
    | some label =>
      have hcolon : ¬isForeign ':' := not_isForeign_of_toNat_lt (by decide)
      obtain ⟨behind', hsplit, -⟩ | ⟨a', -, hsplit⟩ := cases_of_append_eq hlabel
      · have hisName : IsName label.toList := (hall label rfl).resolve_left (by
          rintro rfl
          simp at hsplit)
        exact reads_foreign_name (hsplit ▸ hisName) ha hx rest
      · have hmem : x ∈ [':'] := hsplit ▸ List.mem_append_right _ List.mem_cons_self
        exact absurd (List.mem_singleton.1 hmem ▸ hx) hcolon
  · -- it is in the name, for a modifier is none
    rw [List.forall_mem_append] at ha
    obtain ⟨behind, hname, -⟩ | ⟨a'', -, hmem⟩ := cases_of_append_eq hname
    · have hisName := w.isName
      rw [hname] at hisName
      obtain ⟨found, hread⟩ := reads_foreign_name hisName ha.2 hx rest
      rw [List.append_assoc]
      exact ⟨_, Reads.append (reads_labelFrom w.label_isName ha.1 _) hread⟩
    · exact absurd (hmem ▸ List.mem_append_right _ List.mem_cons_self) hmodifier

end Foreign

/-! ### The rule of a shorthand -/

theorem toList_ruleText (text : String) : ("r = " ++ text ++ ";").toList =
    'r' :: ' ' :: '=' :: ' ' :: (text.toList ++ [';']) := by
  simp

theorem reads_ruleHead (cs : List Char) :
    ReadsAs ('r' :: ' ' :: '=' :: ' ' :: cs) [("IDENTIFIER", "r"), ("EQ", "=")] cs := by
  have hname : IsIdentifier "r" :=
    isIdentifier_of_isName (by decide)
      (by simpa using not_isForeign_of_toNat_lt (c := 'r') (by decide))
  exact reads_head hname cs

section Text

variable {text : String} {w : Shorthand} (hw : w.chars = Text.trim text.toList)

include hw

/-- A shorthand without foreign characters is read as the rule that it writes. -/
theorem reads_rule_of_shorthand (h : ∀ c ∈ text.toList, ¬isForeign c) :
    ReadsAs ("r = " ++ text ++ ";").toList (lexemesOf [declarationFrom w]) [] := by
  obtain ⟨lead, trail, htext, hlead, htrail⟩ := Text.exists_trim text.toList
  rw [← hw] at htext
  rw [htext, List.forall_mem_append, List.forall_mem_append] at h
  have hbehind : ∀ y ∈ (trail ++ [';']).head?, ¬nameTail.holds y := by
    cases trail with
    | nil => simpa using not_holds_nameTail ';' (by decide)
    | cons y trail =>
      rw [List.all_cons, Bool.and_eq_true] at htrail
      simpa using not_holds_nameTail_of_isSpace htrail.1
  rw [toList_ruleText, htext, List.append_assoc, List.append_assoc, lexemesOf,
    List.flatMap_singleton]
  exact (reads_ruleHead _).append ((reads_spaces hlead _).append
    ((reads_shorthand h.2.1 hbehind).append ((reads_spaces htrail _).append (reads_stop []))))

/-- A shorthand with foreign characters is read up to the first of them. -/
theorem reads_foreign_of_shorthand {a b : List Char} {x : Char} (htext : text.toList = a ++ x :: b)
    (ha : ∀ c ∈ a, ¬isForeign c) (hx : isForeign x) :
    ∃ found, Reads bodies ("r = " ++ text ++ ";").toList found (x :: (b ++ [';'])) := by
  obtain ⟨lead, trail, hparts, hlead, htrail⟩ := Text.exists_trim text.toList
  have hspaces {cs : List Char} (hcs : cs.all Text.isSpace) : x ∉ cs := fun hmem =>
    not_isForeign_of_isSpace (List.all_eq_true.1 hcs x hmem) hx
  rw [← hw, htext] at hparts
  -- it is not in the whitespace in front, nor in that behind
  obtain ⟨rest, hmem, -⟩ | ⟨a', rfl, hchars⟩ := cases_of_append_eq hparts.symm
  · exact absurd (hmem ▸ List.mem_append_right _ List.mem_cons_self) (hspaces hlead)
  obtain ⟨rest, hchars, -⟩ | ⟨a'', -, hmem⟩ := cases_of_append_eq hchars
  · rw [List.forall_mem_append] at ha
    obtain ⟨found, hread⟩ := reads_foreign_shorthand hchars ha.2 hx (b ++ [';'])
    rw [toList_ruleText, htext, List.append_assoc, List.append_assoc]
    exact ⟨_, Reads.append (reads_ruleHead _) (Reads.append (reads_spaces hlead _) hread)⟩
  · exact absurd (hmem ▸ List.mem_append_right _ List.mem_cons_self) (hspaces htrail)

end Text

theorem compileRules_of_shorthand {w : Shorthand} {text : String}
    (hw : w.chars = Text.trim text.toList) (h : ∀ c ∈ text.toList, ¬isForeign c) {r : Rule}
    (hr : Rule.ofSymbols "r" .parser [w.symbol] = .ok r) :
    compileRules ("r = " ++ text ++ ";") = .ok [r] := by
  obtain ⟨g, hg⟩ := exists_grammar
  have hrules : rulesOf [declarationFrom w] = .ok [r] := by
    rw [rulesOf_declarationFrom, List.mapM_cons, Draft.rule, hr]
    rfl
  have hframes : framesOf [declarationFrom w] ≤ 1000 := (by decide : 6 ≤ 1000)
  exact compileRules_of_reads hg (List.cons_ne_nil _ _) (reads_rule_of_shorthand hw h) hframes
    hrules

theorem compileRules_of_foreign {w : Shorthand} {text : String}
    (hw : w.chars = Text.trim text.toList) {a b : List Char} {x : Char}
    (htext : text.toList = a ++ x :: b) (ha : ∀ c ∈ a, ¬isForeign c) (hx : isForeign x) :
    compileRules ("r = " ++ text ++ ";") = .error (.grammar (.unreadable (4 + a.length)
      (String.ofList ((x :: (b ++ [';'])).take previewLength)))) := by
  obtain ⟨g, hg⟩ := exists_grammar
  obtain ⟨found, hread⟩ := reads_foreign_of_shorthand hw htext ha hx
  have hspace : ¬Text.isSpace x := fun hspace => not_isForeign_of_isSpace hspace hx
  have hlength : 4 + a.length + (x :: (b ++ [';'])).length =
      ("r = " ++ text ++ ";").toList.length := by
    rw [toList_ruleText, htext]
    simp only [List.length_cons, List.length_append, List.length_nil]
    omega
  have hscan := scan_of_reads_stuck isBody_of_mem (entries_eq hg).1 hread hspace
    (firstToken?_of_isForeign hx _) hlength
  exact compileRulesWithin_of_scan_error hg hscan none

/-- **The notation reads a shorthand as a symbol.**  What is read as a symbol in the shorthand is
compiled as the only symbol of a rule to just this symbol, unless it has a word character that is
foreign to the notation; then the first such character is where the notation reports a fault. -/
theorem rules_of_shorthand {text : String} {s : Symbol} (h : Symbol.ofText text = .ok s)
    (ignored : List String) :
    ∃ r, Rule.ofSymbols "r" .parser [s] = .ok r ∧
      ((∀ c ∈ text.toList, ¬isForeign c) →
        (Source.ofText ("r = " ++ text ++ ";") ignored).rules.1 = .ok [r]) ∧
      ∀ a x b, text.toList = a ++ x :: b → (∀ c ∈ a, ¬isForeign c) → isForeign x →
        (Source.ofText ("r = " ++ text ++ ";") ignored).rules.1 =
          .error (.grammar (.unreadable (4 + a.length)
            (String.ofList ((x :: (b ++ [';'])).take previewLength)))) := by
  obtain ⟨w, hw, rfl⟩ := Symbol.ofText_eq_ok_iff.1 h
  obtain ⟨r, hr⟩ := exists_ofSymbols_singleton "r" .parser w.symbol
  simp only [rules_ofText]
  exact ⟨r, hr, fun hplain => compileRules_of_shorthand hw hplain hr,
    fun a x b htext ha hx => compileRules_of_foreign hw htext ha hx⟩

/-- The shorthand `xs:x*` is compiled to the symbol that it is read as. -/
theorem rules_of_repeated : ∃ s r, Symbol.ofText " xs:x* " = .ok s ∧
    Rule.ofSymbols "r" .parser [s] = .ok r ∧
    (Source.ofText "r =  xs:x* ;" []).rules.1 = .ok [r] := by
  have hread : Symbol.ofText " xs:x* " = .ok ⟨"x", "xs", true, true, false⟩ := by decide +kernel
  obtain ⟨r, hr, hplain, -⟩ := rules_of_shorthand hread []
  exact ⟨_, r, hread, hr, hplain (List.all_iff_forall_prop.1 (by decide +kernel))⟩

/-- The name `né` is one in the shorthand, and the notation does not know its last letter. -/
theorem exists_foreign_shorthand :
    (∃ s, Symbol.ofText "né" = .ok s) ∧
      (Source.ofText "r = né;" []).rules.1 = .error (.grammar (.unreadable 5 "é;")) := by
  let w : Shorthand := ⟨none, "né", .required, by decide +kernel, by simp⟩
  have hw : w.chars = Text.trim "né".toList := by decide +kernel
  refine ⟨⟨w.symbol, Shorthand.ofText_of_chars hw⟩, ?_⟩
  rw [rules_ofText]
  exact @compileRules_of_foreign w "né" hw ['n'] [] 'é' rfl
    (List.all_iff_forall_prop.1 (by decide +kernel)) (by decide +kernel)

end Notation

end OrderedGrammar
