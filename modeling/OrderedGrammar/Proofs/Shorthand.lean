import OrderedGrammar.Proofs.Notation.Tokens

/-!
# The shorthand of symbols

A symbol is written as a label with a colon, a name and a modifier, of which the name alone has to
be there.  Reading takes just these texts, with whitespace around them, and each of them in one way
only (`Symbol.shorthand_exact`); what is read is printed in the same way again, but for a label that
says no more than the name.

## Main definitions

* `IsName` : the texts that can stand for a name or a label.
* `Shorthand` : what is written of a symbol.
* `Shorthand.symbol` : the symbol that is written.
-/

namespace OrderedGrammar

/-! ### What is written -/

/-- A letter from `a` to `z`, in either case, or the underscore. -/
def IsNameHead (c : Char) : Prop := ('a' ≤ c ∧ c ≤ 'z') ∨ ('A' ≤ c ∧ c ≤ 'Z') ∨ c = '_'

/-- A name: a letter or an underscore, then word characters and apostrophes. -/
def IsName (cs : List Char) : Prop :=
  ∃ c rest, cs = c :: rest ∧ IsNameHead c ∧ ∀ x ∈ rest, Text.isWord x ∨ x = '\''

/-- Whether a symbol with the modifier is optional, repeatable and ignored. -/
def Modifier.flags : Modifier → Bool × Bool × Bool
  | .required => (false, false, false)
  | .optional => (true, false, false)
  | .zeroOrMore => (true, true, false)
  | .oneOrMore => (false, true, false)
  | .ignored => (false, false, true)

/-- What is written of a symbol.  The label is what stands in front of the colon. -/
@[ext]
structure Shorthand where
  label : Option String
  name : String
  modifier : Modifier
  isName : IsName name.toList
  label_isName : ∀ l ∈ label, l = "" ∨ IsName l.toList

namespace Shorthand

/-- The label with its colon. -/
def labelChars : Option String → List Char
  | none => []
  | some label => label.toList ++ [':']

/-- The characters that are written. -/
def chars (w : Shorthand) : List Char :=
  labelChars w.label ++ (w.name.toList ++ w.modifier.char?.toList)

/-- The symbol that is written.  Its label is its name if no label is written. -/
def symbol (w : Shorthand) : Symbol :=
  ⟨w.name, w.label.getD w.name, w.modifier.flags.1, w.modifier.flags.2.1, w.modifier.flags.2.2⟩

/-- The same symbol without a label that is its name. -/
def canonical (w : Shorthand) : Shorthand where
  label := if w.label = some w.name then none else w.label
  name := w.name
  modifier := w.modifier
  isName := w.isName
  label_isName := by
    split
    · simp
    · exact w.label_isName

end Shorthand

namespace Modifier

theorem ofText?_eq_some_iff {cs : List Char} {m : Modifier} :
    ofText? (String.ofList cs) = some m ↔ cs = m.char?.toList := by
  rw [ofText?, String.toList_ofList]
  constructor
  · intro h
    split at h
    · cases h
      rfl
    · next c =>
      unfold ofChar? at h
      split at h <;> cases h <;> rfl
    · cases h
  · rintro rfl
    cases m <;> rfl

end Modifier

namespace Symbol

/-! ### Names -/

theorem isNameStart_iff {c : Char} : isNameStart c ↔ IsNameHead c := by
  have hupper : c.isUpper ↔ 'A' ≤ c ∧ c ≤ 'Z' := decide_eq_true_iff
  have hlower : c.isLower ↔ 'a' ≤ c ∧ c ≤ 'z' :=
    (Bool.and_eq_true _ _).to_iff.trans (and_congr decide_eq_true_iff decide_eq_true_iff)
  have halpha : c.isAlpha ↔ c.isUpper ∨ c.isLower := (Bool.or_eq_true _ _).to_iff
  rw [isNameStart, Bool.or_eq_true, beq_iff_eq, halpha, hupper, hlower, IsNameHead]
  tauto

theorem isNameRest_iff {c : Char} : isNameRest c ↔ Text.isWord c ∨ c = '\'' := by
  rw [isNameRest, Bool.or_eq_true, beq_iff_eq]

section Names

variable {cs name label rest : List Char}

/-- A name is as long as it can be. -/
theorem splitName?_append (h : IsName name) (hrest : ∀ x ∈ rest.head?, ¬isNameRest x) :
    splitName? (name ++ rest) = some (name, rest) := by
  obtain ⟨c, cs, rfl, hc, hcs⟩ := h
  have hall : ∀ x ∈ cs, isNameRest x := fun x hx => isNameRest_iff.2 (hcs x hx)
  have hstop : rest.takeWhile isNameRest = [] ∧ rest.dropWhile isNameRest = rest := by
    cases rest with
    | nil => exact ⟨rfl, rfl⟩
    | cons x rest =>
      exact ⟨List.takeWhile_cons_of_neg (hrest x rfl), List.dropWhile_cons_of_neg (hrest x rfl)⟩
  rw [List.cons_append, splitName?, if_pos (isNameStart_iff.2 hc),
    List.takeWhile_append_of_pos hall, List.dropWhile_append_of_pos hall, hstop.1, hstop.2,
    List.append_nil]

theorem of_splitName? (h : splitName? cs = some (name, rest)) :
    IsName name ∧ cs = name ++ rest := by
  cases cs with
  | nil => cases h
  | cons c cs =>
    rw [splitName?] at h
    split at h
    · next hc =>
      cases h
      refine ⟨⟨c, _, rfl, isNameStart_iff.1 hc, fun x hx => ?_⟩, ?_⟩
      · exact isNameRest_iff.1 (List.mem_takeWhile_imp hx)
      · rw [List.cons_append, List.takeWhile_append_dropWhile]
    · cases h

/-- A text is a name if reading a name off it leaves nothing. -/
theorem isName_iff_splitName? : IsName cs ↔ splitName? cs = some (cs, []) := by
  constructor
  · intro h
    have hsplit : splitName? (cs ++ []) = some (cs, []) := splitName?_append h (by simp)
    rwa [List.append_nil] at hsplit
  · intro h
    exact (of_splitName? h).1

instance (cs : List Char) : Decidable (IsName cs) := decidable_of_iff _ isName_iff_splitName?.symm

theorem not_isSpace_of_isName (h : IsName name) : ∀ x ∈ name, ¬Text.isSpace x := by
  have hrest {x : Char} (hx : Text.isWord x ∨ x = '\'') : ¬Text.isSpace x := by
    obtain hx | rfl := hx
    · exact fun hspace => Notation.not_isWord_of_isSpace hspace hx
    · decide
  obtain ⟨c, cs, rfl, hc, hcs⟩ := h
  have hword : Text.isWord c := by
    rcases Bool.or_eq_true_iff.1 (isNameStart_iff.2 hc) with hc | hc
    · exact Notation.isWord_of_isAlphanum (by simp [Char.isAlphanum, hc])
    · rw [eq_of_beq hc]
      decide
  rw [List.forall_mem_cons]
  exact ⟨hrest (.inl hword), fun x hx => hrest (hcs x hx)⟩

/-! ### Labels -/

/-- A name is a label if there is a colon behind it. -/
theorem splitLabel_append (h : IsName name) (hrest : ∀ x ∈ rest.head?, ¬isNameRest x) :
    splitLabel (name ++ rest) =
      if rest.head? = some ':' then (some name, rest.tail) else (none, name ++ rest) := by
  have hsplit := splitName?_append h hrest
  obtain ⟨c, cs, rfl, hc, -⟩ := h
  rw [List.cons_append] at hsplit ⊢
  unfold splitLabel
  rw [hsplit]
  split
  · next heq =>
    cases heq
    exact absurd (isNameStart_iff.2 hc) (by decide)
  · next heq _ =>
    cases heq
    rfl
  · next hlabel =>
    refine (if_neg fun hcolon => ?_).symm
    obtain ⟨rest, rfl⟩ := List.head?_eq_some_iff.1 hcolon
    exact hlabel _ _ rfl

theorem splitLabel_cases (cs : List Char) :
    (∃ rest, cs = ':' :: rest ∧ splitLabel cs = (some [], rest)) ∨
    (∃ label rest, IsName label ∧ cs = label ++ ':' :: rest ∧
      splitLabel cs = (some label, rest)) ∨ splitLabel cs = (none, cs) := by
  unfold splitLabel
  split
  · next rest => exact .inl ⟨_, rfl, rfl⟩
  · next label rest _ h =>
    obtain ⟨hlabel, hcs⟩ := of_splitName? h
    exact .inr (.inl ⟨label, rest, hlabel, hcs, rfl⟩)
  · exact .inr (.inr rfl)

end Names

/-! ### Reading -/

theorem ofModifier_eq_symbol (w : Shorthand) : ofModifier w.name w.modifier w.label = w.symbol := by
  obtain ⟨label, name, modifier, _, _⟩ := w
  cases modifier <;> rfl

theorem not_isNameRest_of_modifier (m : Modifier) :
    ∀ x ∈ m.char?.toList.head?, ¬isNameRest x := by
  cases m <;> simp [Modifier.char?] <;> decide

theorem splitLabel_chars (w : Shorthand) :
    splitLabel w.chars =
      (w.label.map String.toList, w.name.toList ++ w.modifier.char?.toList) := by
  obtain ⟨label, name, modifier, hname, hlabel⟩ := w
  cases label with
  | none =>
    rw [Shorthand.chars, Shorthand.labelChars, List.nil_append,
      splitLabel_append hname (not_isNameRest_of_modifier modifier), if_neg]
    · rfl
    · cases modifier <;> simp [Modifier.char?]
  | some label =>
    rw [Shorthand.chars, Shorthand.labelChars, List.append_assoc, List.singleton_append]
    obtain rfl | hlabel := hlabel label rfl
    · rfl
    · exact splitLabel_append hlabel (by simpa using (by decide))

theorem ofChars?_chars (w : Shorthand) : ofChars? w.chars = some w.symbol := by
  have hname := splitName?_append w.isName (not_isNameRest_of_modifier w.modifier)
  rw [ofChars?, splitLabel_chars]
  dsimp only
  rw [hname]
  dsimp only
  rw [Modifier.ofText?_eq_some_iff.2 rfl, Option.map_some, ← ofModifier_eq_symbol]
  simp [Function.comp_def]

/-- What is read behind a label is what is written behind it. -/
theorem exists_shorthand_of_split {label : Option (List Char)} {name rest modifier : List Char}
    {s : Symbol} (hlabel : ∀ l ∈ label, l = [] ∨ IsName l)
    (hsplit : splitName? rest = some (name, modifier))
    (hs : (Modifier.ofText? (String.ofList modifier)).map (fun m =>
      ofModifier (String.ofList name) m (label.map String.ofList)) = some s) :
    ∃ w : Shorthand, w.label = label.map String.ofList ∧
      w.name.toList ++ w.modifier.char?.toList = rest ∧ w.symbol = s := by
  obtain ⟨m, hm, rfl⟩ := Option.map_eq_some_iff.1 hs
  rw [Modifier.ofText?_eq_some_iff] at hm
  obtain ⟨hname, rfl⟩ := of_splitName? hsplit
  refine ⟨⟨label.map String.ofList, String.ofList name, m, by simpa using hname, ?_⟩, rfl, ?_,
    (ofModifier_eq_symbol _).symm⟩
  · intro l hl
    obtain ⟨l', hl', rfl⟩ := Option.mem_map.1 hl
    simpa using hlabel l' hl'
  · simp [hm]

theorem exists_shorthand {cs : List Char} {s : Symbol} (h : ofChars? cs = some s) :
    ∃ w : Shorthand, w.chars = cs ∧ w.symbol = s := by
  unfold ofChars? at h
  have hlabels : (∀ l ∈ (splitLabel cs).1, l = [] ∨ IsName l) ∧
      Shorthand.labelChars ((splitLabel cs).1.map String.ofList) ++ (splitLabel cs).2 = cs := by
    obtain ⟨rest, rfl, heq⟩ | ⟨label, rest, hlabel, rfl, heq⟩ | heq := splitLabel_cases cs
    · simp [heq, Shorthand.labelChars]
    · simp [heq, Shorthand.labelChars, hlabel]
    · simp [heq, Shorthand.labelChars]
  generalize splitLabel cs = parts at h hlabels
  obtain ⟨label, rest⟩ := parts
  dsimp only at h
  split at h
  · cases h
  · next hsplit =>
    obtain ⟨w, hw, hrest, hs⟩ := exists_shorthand_of_split hlabels.1 hsplit h
    exact ⟨w, by rw [Shorthand.chars, hw, hrest, hlabels.2], hs⟩

end Symbol

/-! ### The shorthand of a symbol that was read -/

namespace Shorthand

open OrderedGrammar.Symbol

theorem symbol_canonical (w : Shorthand) : w.canonical.symbol = w.symbol := by
  unfold symbol canonical
  split
  · next h => simp [h]
  · rfl

theorem modifier_symbol (w : Shorthand) : w.symbol.modifier = w.modifier := by
  obtain ⟨label, name, modifier, _, _⟩ := w
  cases modifier <;> rfl

theorem toList_text_symbol (w : Shorthand) : w.symbol.text.toList = w.canonical.chars := by
  have hmodifier := modifier_symbol w
  obtain ⟨label, name, modifier, hname, hlabel⟩ := w
  rw [Symbol.text, hmodifier, Modifier.text]
  cases label with
  | none => simp [symbol, canonical, chars, labelChars]
  | some label =>
    by_cases h : label = name
    · simp [symbol, canonical, chars, labelChars, h]
    · simp [symbol, canonical, chars, labelChars, h]

theorem canonical_of_ne {w : Shorthand} (h : w.label ≠ some w.name) : w.canonical = w :=
  Shorthand.ext (if_neg h) rfl rfl

theorem not_isSpace_of_mem_chars (w : Shorthand) : ∀ x ∈ w.chars, ¬Text.isSpace x := by
  obtain ⟨label, name, modifier, hname, hlabel⟩ := w
  have hlabel : ∀ x ∈ labelChars label, ¬Text.isSpace x := by
    cases label with
    | none => simp [labelChars]
    | some label =>
      have hcolon : ¬Text.isSpace ':' := by decide
      obtain rfl | hl := hlabel label rfl
      · simpa [labelChars] using hcolon
      · rw [labelChars, List.forall_mem_append, List.forall_mem_singleton]
        exact ⟨not_isSpace_of_isName hl, hcolon⟩
  have hmodifier : ∀ x ∈ modifier.char?.toList, ¬Text.isSpace x := by
    cases modifier <;> simp [Modifier.char?] <;> decide
  intro x hx
  rw [chars, List.mem_append, List.mem_append] at hx
  exact hx.elim (hlabel x) (Or.elim · (not_isSpace_of_isName hname x) (hmodifier x))

/-- A text is the shorthand of one symbol only, and in one way. -/
theorem chars_injective {w w' : Shorthand} (h : w.chars = w'.chars) : w = w' := by
  have hparts : w.label.map String.toList = w'.label.map String.toList ∧
      w.name.toList ++ w.modifier.char?.toList = w'.name.toList ++ w'.modifier.char?.toList := by
    rw [← Prod.mk.injEq, ← splitLabel_chars, h, splitLabel_chars]
  have hname : w.name.toList = w'.name.toList ∧
      w.modifier.char?.toList = w'.modifier.char?.toList := by
    have hsplit := splitName?_append w.isName (not_isNameRest_of_modifier w.modifier)
    rw [hparts.2, splitName?_append w'.isName (not_isNameRest_of_modifier w'.modifier)] at hsplit
    exact (Prod.mk.inj (Option.some.inj hsplit)).imp Eq.symm Eq.symm
  refine Shorthand.ext (Option.map_injective (fun _ _ => String.toList_injective) hparts.1)
    (String.toList_injective hname.1) ?_
  rw [← Option.some_inj, ← Modifier.ofText?_eq_some_iff.2 hname.2.symm,
    Modifier.ofText?_eq_some_iff.2 rfl]

theorem ofText_of_chars {text : String} {w : Shorthand} (h : w.chars = Text.trim text.toList) :
    ofText text = .ok w.symbol := by
  rw [ofText, ← h, ofChars?_chars]

/-- What was read is read again from the text that the symbol shows. -/
theorem ofText_text_symbol (w : Shorthand) : ofText w.symbol.text = .ok w.symbol := by
  rw [← symbol_canonical w]
  refine ofText_of_chars ?_
  rw [symbol_canonical, toList_text_symbol,
    Text.trim_of_forall_not_isSpace (not_isSpace_of_mem_chars _)]

/-- A symbol shows what was read, but for a label that is its name. -/
theorem toList_text_symbol_eq_iff {w : Shorthand} :
    w.symbol.text.toList = w.chars ↔ w.label ≠ some w.name := by
  rw [toList_text_symbol]
  constructor
  · intro h hlabel
    have hcanonical := congrArg label (chars_injective h)
    rw [hlabel] at hcanonical
    simp [canonical, hlabel] at hcanonical
  · intro h
    rw [canonical_of_ne h]

end Shorthand

namespace Symbol

theorem ofText_eq_ok_iff {text : String} {s : Symbol} :
    ofText text = .ok s ↔ ∃ w : Shorthand, w.chars = Text.trim text.toList ∧ w.symbol = s := by
  constructor
  · intro h
    rw [ofText] at h
    split at h
    · next hs =>
      cases h
      exact exists_shorthand hs
    · cases h
  · rintro ⟨w, hw, rfl⟩
    exact Shorthand.ofText_of_chars hw

theorem ofText_eq_error {text : String} (h : ¬∃ w : Shorthand, w.chars = Text.trim text.toList) :
    ofText text = .error (.invalidSymbol text) := by
  rw [ofText]
  split
  · next hs =>
    obtain ⟨w, hw, -⟩ := exists_shorthand hs
    exact absurd ⟨w, hw⟩ h
  · rfl

/-- A text reads as a symbol if it is a shorthand with whitespace around it, and as the symbol with
just the label, the name and the modifier of that shorthand, which is the only one; every other
text is refused.  The symbol's own text reads as the symbol again, and is the shorthand that was
read unless its label is its name. -/
theorem shorthand_exact (text : String) :
    (∀ s, ofText text = .ok s ↔
      ∃ w : Shorthand, w.chars = Text.trim text.toList ∧ w.symbol = s) ∧
    ((¬∃ w : Shorthand, w.chars = Text.trim text.toList) →
      ofText text = .error (.invalidSymbol text)) ∧
    ∀ w : Shorthand, w.chars = Text.trim text.toList →
      (∀ w' : Shorthand, w'.chars = Text.trim text.toList → w' = w) ∧
      ofText w.symbol.text = .ok w.symbol ∧
      (w.symbol.text.toList = Text.trim text.toList ↔ w.label ≠ some w.name) := by
  refine ⟨fun s => ofText_eq_ok_iff, ofText_eq_error, fun w hw => ⟨fun w' hw' => ?_,
    w.ofText_text_symbol, ?_⟩⟩
  · exact Shorthand.chars_injective (hw'.trans hw.symm)
  · rw [← hw]
    exact Shorthand.toList_text_symbol_eq_iff

/-- The label in front of `items:item*` is kept, and the one in front of `x:x?` is not shown. -/
theorem shorthand_of_items :
    ofText " items:item* " = .ok ⟨"item", "items", true, true, false⟩ ∧
    (Symbol.mk "item" "items" true true false).text.toList = Text.trim " items:item* ".toList ∧
    ofText "x:x?" = .ok ⟨"x", "x", true, false, false⟩ ∧
    (Symbol.mk "x" "x" true false false).text.toList ≠ Text.trim "x:x?".toList := by
  let items : Shorthand := ⟨some "items", "item", .zeroOrMore, by decide, by decide⟩
  let x : Shorthand := ⟨some "x", "x", .optional, by decide, by decide⟩
  have hitemsText : items.chars = Text.trim " items:item* ".toList := by decide
  have hxText : x.chars = Text.trim "x:x?".toList := by decide
  refine ⟨?_, ?_, ?_, ?_⟩
  · exact ((shorthand_exact " items:item* ").1 items.symbol).2 ⟨items, hitemsText, rfl⟩
  · exact ((shorthand_exact " items:item* ").2.2 items hitemsText).2.2.2 (by decide)
  · exact ((shorthand_exact "x:x?").1 x.symbol).2 ⟨x, hxText, rfl⟩
  · exact fun h => ((shorthand_exact "x:x?").2.2 x hxText).2.2.1 h rfl

end Symbol

end OrderedGrammar
