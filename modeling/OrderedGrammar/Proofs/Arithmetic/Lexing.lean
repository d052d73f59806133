import OrderedGrammar.Proofs.Arithmetic.Dialect
import OrderedGrammar.Proofs.Notation.Lexing
import OrderedGrammar.Proofs.Partition

/-!
# The tokens of arithmetic

Texts that lexemes are written in are split into just these lexemes, if no number stands right
behind another one (`scan_of_renders`); and the tokens of any text are lexemes that it writes
(`renders_of_scan`).
-/

namespace OrderedGrammar.Arithmetic

open Notation Pattern Lexicon

/-! ### The patterns -/

/-- The decimal digits. -/
def digitSet : CharSet := .union [.named .digit false false] false .full

@[simp] theorem holds_digitSet (c : Char) : digitSet.holds c = Text.isDecimal c := by
  simp [digitSet, CharSet.holds, CharItem.holds, CharClass.holds]

/-- One digit at least. -/
def digitsBody : Pattern := .loop 1 none true (.char digitSet)

/-- The lexemes that are always written in the same way. -/
def signs : List Lexeme :=
  [("PLUS_OP", "+"), ("MINUS_OP", "-"), ("MUL_OP", "*"), ("DIV_OP", "/"), ("LPAREN", "("),
    ("RPAREN", ")")]

/-- The patterns of the tokens in their order, without the whitespace in front. -/
def bodies : List (String × Pattern) :=
  [("NUMBER_LITERAL", digitsBody), ("PLUS_OP", sign '+'), ("MINUS_OP", sign '-'),
    ("MUL_OP", sign '*'), ("DIV_OP", sign '/'), ("LPAREN", sign '('), ("RPAREN", sign ')')]

theorem mapM_entry : lexerRules.mapM (entry true) = .ok (entriesOf .full bodies) :=
  eq_ok_of_toOption (by decide +kernel)

theorem lexicon_eq {d : Dialect} {g : Grammar} (hg : d.grammar = .ok g) :
    g.lexicon = ⟨entriesOf .full bodies, []⟩ := by
  have hrules : Grammar.lexerRulesOf d.rules = lexerRules := by cases d <;> decide +kernel
  refine Grammar.lexicon_of_ofRules (Dialect.ofRules_of_grammar hg) ?_
  rw [hrules, mapM_entry]
  rfl

theorem kind_ne_of_mem_signs {x : Lexeme} (hx : x ∈ signs) : x.1 ≠ "NUMBER_LITERAL" := by
  have hsigns : ∀ x ∈ signs, x.1 ≠ "NUMBER_LITERAL" := by decide
  exact hsigns x hx

/-- A lexeme that there is: a number or a sign. -/
inductive IsLexeme : Lexeme → Prop
  | number (n : Numeral) : IsLexeme ("NUMBER_LITERAL", String.ofList n.digits)
  | sign {x : Lexeme} : x ∈ signs → IsLexeme x

theorem IsLexeme.kind_mem {x : Lexeme} (h : IsLexeme x) : x.1 ∈ tokenKinds := by
  have hsigns : ∀ x ∈ signs, x.1 ∈ tokenKinds := by decide
  cases h with
  | number n => exact (by decide : "NUMBER_LITERAL" ∈ tokenKinds)
  | sign hx => exact hsigns x hx

/-- What is written in only one way. -/
theorem IsLexeme.eq_of_sign {x y : Lexeme} (hx : IsLexeme x) (hy : y ∈ signs) (h : x.1 = y.1) :
    x = y := by
  have hsame : ∀ x ∈ signs, ∀ y ∈ signs, x.1 = y.1 → x = y := by decide
  cases hx with
  | number n => exact absurd h.symm (kind_ne_of_mem_signs hy)
  | sign hx => exact hsame x hx y hy h

theorem IsLexeme.exists_numeral {text : String} (h : IsLexeme ("NUMBER_LITERAL", text)) :
    ∃ n : Numeral, text = String.ofList n.digits := by
  generalize hx : ("NUMBER_LITERAL", text) = x at h
  cases h with
  | number n => exact ⟨n, congrArg Prod.snd hx⟩
  | sign h => exact absurd (congrArg Prod.fst hx).symm (kind_ne_of_mem_signs h)

/-! ### Digits -/

theorem prefixes_digitsBody (cs : List Char) :
    digitsBody.prefixes cs =
      (Pattern.seq (.char digitSet) (Pattern.star (.char digitSet))).prefixes cs := by
  simp [digitsBody, Pattern.star, prefixes, requiredPrefixes]

theorem numeral_of_mem_prefixes {cs a : List Char} (h : a ∈ digitsBody.prefixes cs) :
    ∃ n : Numeral, n.digits = a := by
  rw [prefixes_digitsBody] at h
  obtain ⟨x, more, rfl, hx, hmore⟩ := exists_of_mem_prefixes_word h
  exact ⟨⟨x :: more, by simp, by simpa using And.intro hx hmore⟩, rfl⟩

theorem head?_prefixes_digits (n : Numeral) {rest : List Char}
    (hrest : ∀ y ∈ rest.head?, ¬Text.isDecimal y) :
    (digitsBody.prefixes (n.digits ++ rest)).head? = some n.digits := by
  obtain ⟨digits, hne, hdecimal⟩ := n
  obtain ⟨x, xs, rfl⟩ := List.exists_cons_of_ne_nil hne
  obtain ⟨hx, hxs⟩ := List.forall_mem_cons.1 hdecimal
  rw [prefixes_digitsBody]
  exact head?_prefixes_word (by simpa using hx) (by simpa using hxs) (by simpa using hrest)

theorem not_isDecimal_of_isSpace {x : Char} (hx : Text.isSpace x) : ¬Text.isDecimal x :=
  of_isSpace (P := fun x => ¬Text.isDecimal x) (by decide +kernel) hx

/-- No token starts with whitespace. -/
theorem isBody_of_mem : ∀ body ∈ bodies, body.2.IsBody := by
  have hplain : ∀ body ∈ bodies, body.2.isPlain := by decide
  have hheads : ∀ body ∈ bodies.tail, ∃ set ∈ body.2.headSet?, isSolid set := by decide +kernel
  refine fun body hbody => ⟨hplain body hbody, fun x cs hx => ?_⟩
  rcases List.mem_cons.1 hbody with rfl | hbody
  · have hdigit : ¬digitSet.holds x := by simpa using not_isDecimal_of_isSpace hx
    rw [prefixes_digitsBody, prefixes, prefixes, if_neg hdigit, List.flatMap_nil]
  · obtain ⟨set, hset, hsolid⟩ := hheads body hbody
    exact prefixes_of_head hset (by simpa using not_holds_of_isSolid hsolid hx)

/-! ### From lexemes to tokens -/

/-- No number stands right behind another one. -/
inductive Apart : List Lexeme → Prop
  | nil : Apart []
  | cons {x : Lexeme} {lexemes : List Lexeme} :
      (x.1 = "NUMBER_LITERAL" → headKind lexemes ≠ some "NUMBER_LITERAL") → Apart lexemes →
      Apart (x :: lexemes)

theorem not_isDecimal_sign {x : Lexeme} (hx : x ∈ signs) :
    ∃ c, x.2.toList = [c] ∧ ¬Text.isDecimal c ∧ ∀ cs,
      firstToken? bodies (c :: cs) = some (x.1, [c]) := by
  simp only [signs, List.mem_cons, List.not_mem_nil, or_false] at hx
  rcases hx with rfl | rfl | rfl | rfl | rfl | rfl <;>
    exact ⟨_, rfl, by decide, fun cs => rfl⟩

theorem firstToken?_number (n : Numeral) {rest : List Char}
    (hrest : ∀ y ∈ rest.head?, ¬Text.isDecimal y) :
    firstToken? bodies (n.digits ++ rest) = some ("NUMBER_LITERAL", n.digits) := by
  rw [firstToken?, bodies, List.findSome?_cons, head?_prefixes_digits n hrest]
  simp [Option.filter_some, n.ne_nil]

theorem reads_gap {gap cs : List Char} {found : List (String × List Char)}
    (hgap : gap.all Text.isSpace) (h : Reads bodies cs found []) :
    Reads bodies (gap ++ cs) found [] := by
  induction gap with
  | nil => exact h
  | cons x gap ih =>
    rw [List.all_cons, Bool.and_eq_true] at hgap
    exact .space hgap.1 (ih hgap.2)

/-- A text goes on with a digit only where a number is written next. -/
theorem not_isDecimal_of_renders {lexemes : List Lexeme} {cs : List Char}
    (h : Renders lexemes cs) (hlex : ∀ x ∈ lexemes, IsLexeme x)
    (hhead : headKind lexemes ≠ some "NUMBER_LITERAL") : ∀ y ∈ cs.head?, ¬Text.isDecimal y := by
  have hspace {gap : List Char} (hgap : gap.all Text.isSpace) :
      ∀ y ∈ gap.head?, ¬Text.isDecimal y := by
    intro y hy
    exact not_isDecimal_of_isSpace (List.all_eq_true.1 hgap y (List.mem_of_head? hy))
  cases h with
  | done hgap => exact hspace hgap
  | @lexeme gap cs x lexemes hgap _ =>
    obtain ⟨hx, -⟩ := List.forall_mem_cons.1 hlex
    cases hx with
    | number n => exact absurd rfl hhead
    | sign hx =>
      obtain ⟨c, hc, hdecimal, -⟩ := not_isDecimal_sign hx
      rw [hc]
      cases gap with
      | nil => simpa using hdecimal
      | cons y gap => simpa using hspace hgap

theorem reads_of_renders {lexemes : List Lexeme} {cs : List Char} (h : Renders lexemes cs)
    (hlex : ∀ x ∈ lexemes, IsLexeme x) (hapart : Apart lexemes) :
    Reads bodies cs (lexemes.map fun x => (x.1, x.2.toList)) [] := by
  induction h with
  | @done gap hgap =>
    rw [← List.append_nil gap]
    exact reads_gap hgap .done
  | @lexeme gap cs x lexemes hgap hrest ih =>
    obtain ⟨hx, htail⟩ := List.forall_mem_cons.1 hlex
    obtain - | ⟨hnext, hapart⟩ := hapart
    have hread := ih htail hapart
    have hfirst : firstToken? bodies (x.2.toList ++ cs) = some (x.1, x.2.toList) := by
      cases hx with
      | number n =>
        rw [String.toList_ofList]
        exact firstToken?_number n (not_isDecimal_of_renders hrest htail (hnext rfl))
      | sign hx =>
        obtain ⟨c, hc, -, hfirst⟩ := not_isDecimal_sign hx
        rw [hc]
        exact hfirst cs
    rw [List.append_assoc]
    refine reads_gap hgap (.token hfirst ?_)
    rwa [List.drop_left]

/-! ### The lexemes of phrases -/

theorem Operator.lexeme_mem {l : Level} (op : Operator l) : op.lexeme ∈ signs := by
  cases op <;> decide

mutual

theorem Phrase.isLexeme {c : Category} : ∀ (p : Phrase c), ∀ x ∈ p.lexemes, IsLexeme x
  | .number n => by
    rw [Phrase.lexemes, List.forall_mem_singleton]
    exact .number n
  | .group body => by
    rw [Phrase.lexemes, List.forall_mem_cons, List.forall_mem_append, List.forall_mem_singleton]
    exact ⟨.sign (by decide), body.isLexeme, .sign (by decide)⟩
  | .factor sign operand => by
    rw [Phrase.lexemes, List.forall_mem_append, List.forall_mem_map]
    exact ⟨fun op _ => .sign op.lexeme_mem, operand.isLexeme⟩
  | .row first rest => by
    rw [Phrase.lexemes, List.forall_mem_append]
    exact ⟨first.isLexeme, rest.isLexeme⟩

theorem Rest.isLexeme {l : Level} : ∀ (rest : Rest l), ∀ x ∈ rest.lexemes, IsLexeme x
  | .nil => by simp [Rest.lexemes]
  | .cons op operand rest => by
    rw [Rest.lexemes, List.forall_mem_cons, List.forall_mem_append]
    exact ⟨.sign op.lexeme_mem, operand.isLexeme, rest.isLexeme⟩

end

/-- A sign in front of lexemes keeps them apart. -/
theorem Apart.sign {x : Lexeme} {lexemes : List Lexeme} (hx : x ∈ signs) (h : Apart lexemes) :
    Apart (x :: lexemes) :=
  .cons (fun heq => absurd heq (kind_ne_of_mem_signs hx)) h

theorem headKind_sign {x : Lexeme} (hx : x ∈ signs) (lexemes : List Lexeme) :
    headKind (x :: lexemes) ≠ some "NUMBER_LITERAL" :=
  fun heq => kind_ne_of_mem_signs hx (Option.some.inj heq)

mutual

/-- Behind a phrase comes no number, and then none stands right behind another one. -/
theorem Phrase.apart {c : Category} {more : List Lexeme} (h : Apart more)
    (hhead : headKind more ≠ some "NUMBER_LITERAL") : ∀ (p : Phrase c), Apart (p.lexemes ++ more)
  | .number _ => .cons (fun _ => hhead) h
  | .group body => by
    rw [Phrase.lexemes, List.cons_append, List.append_assoc]
    exact (body.apart (h.sign (x := ("RPAREN", ")")) (by decide))
      (headKind_sign (by decide) more)).sign (by decide)
  | .factor none operand => operand.apart h hhead
  | .factor (some sign) operand => (operand.apart h hhead).sign sign.lexeme_mem
  | .row first rest => by
    rw [Phrase.lexemes, List.append_assoc]
    obtain ⟨hrest, hnext⟩ := rest.apart h hhead
    exact first.apart hrest hnext

theorem Rest.apart {l : Level} {more : List Lexeme} (h : Apart more)
    (hhead : headKind more ≠ some "NUMBER_LITERAL") :
    ∀ (rest : Rest l), Apart (rest.lexemes ++ more) ∧
      headKind (rest.lexemes ++ more) ≠ some "NUMBER_LITERAL"
  | .nil => ⟨h, hhead⟩
  | .cons op operand rest => by
    rw [Rest.lexemes, List.cons_append, List.append_assoc]
    obtain ⟨hrest, hnext⟩ := rest.apart h hhead
    exact ⟨(operand.apart hrest hnext).sign op.lexeme_mem, headKind_sign op.lexeme_mem _⟩

end

/-! ### Pieces of a text -/

/-- Each pattern is one on its own. -/
theorem isValid_of_mem : ∀ rule ∈ lexerRules, rule.IsValid true := by
  have hread : ∀ rule ∈ lexerRules, ∃ pattern ∈ rule.pattern?,
      (Pattern.read true pattern.toList).isOk := by decide +kernel
  exact hread

theorem map_tokens (ps : List Piece) (offset : ℕ) :
    (Piece.tokens offset ps).map (fun t => (t.kind, t.text)) =
      ps.map fun p => (p.kind, String.ofList p.text) := by
  induction ps generalizing offset with
  | nil => rfl
  | cons p ps ih => rw [Piece.tokens, List.map_cons, ih, List.map_cons]

theorem renders_pieces {ps : List Piece} {last : List Char}
    (hgaps : ∀ p ∈ ps, p.gap.all Text.isSpace) (hlast : last.all Text.isSpace) :
    Renders (ps.map fun p => (p.kind, String.ofList p.text)) (ps.flatMap Piece.chars ++ last) := by
  induction ps with
  | nil => exact .done hlast
  | cons p ps ih =>
    obtain ⟨hgap, hgaps⟩ := List.forall_mem_cons.1 hgaps
    have hrenders := Renders.lexeme (x := (p.kind, String.ofList p.text)) hgap (ih hgaps)
    rwa [String.toList_ofList, ← List.append_assoc, ← Piece.chars, ← List.flatMap_cons] at hrenders

section

variable {d : Dialect} {g : Grammar} (hg : d.grammar = .ok g) {text : String}
include hg

/-- A text in which lexemes are written is split into these. -/
theorem scan_of_renders {lexemes : List Lexeme} (h : Renders lexemes text.toList)
    (hlex : ∀ x ∈ lexemes, IsLexeme x) (hapart : Apart lexemes) :
    ∃ ts, g.lexicon.scan text = .ok ts ∧ ts.map (fun t => (t.kind, t.text)) = lexemes := by
  rw [lexicon_eq hg]
  obtain ⟨ts, hscan, hts⟩ := Lexicon.scan_of_reads (l := ⟨entriesOf .full bodies, []⟩) isBody_of_mem
    rfl (reads_of_renders h hlex hapart)
  refine ⟨ts, hscan, hts.trans ?_⟩
  simp [Function.comp_def]

/-! ### From tokens to lexemes -/

theorem isLexeme_of_produces {t : Token} (h : g.lexicon.Produces t) :
    IsLexeme (t.kind, t.text) := by
  have hentries : g.lexicon.entries = entriesOf .full bodies := by rw [lexicon_eq hg]
  obtain ⟨body, hbody, hkind, cs, htext⟩ := h.exists_body isBody_of_mem hentries
  have hsign {c : Char} (hc : ¬Text.IsLetterOrBeyond c.toNat)
      (hmem : (t.kind, String.singleton c) ∈ signs) (htext : t.text.toList ∈ (sign c).prefixes cs) :
      IsLexeme (t.kind, t.text) := by
    have heq : t.text = String.singleton c := by
      rw [← String.toList_inj, mem_prefixes_sign hc htext, String.toList_singleton]
    rw [heq]
    exact .sign hmem
  simp only [bodies, List.mem_cons, List.not_mem_nil, or_false] at hbody
  rcases hbody with rfl | rfl | rfl | rfl | rfl | rfl | rfl
  · obtain ⟨n, hn⟩ := numeral_of_mem_prefixes htext
    have heq : t.text = String.ofList n.digits := by rw [hn, String.ofList_toList]
    rw [← hkind, heq]
    exact .number n
  all_goals exact hsign (by decide) (hkind ▸ by decide) htext

/-- The tokens of a text are lexemes that it writes. -/
theorem renders_of_scan {ts : List Token} (h : g.lexicon.scan text = .ok ts) :
    Renders (ts.map fun t => (t.kind, t.text)) text.toList ∧
      ∀ x ∈ ts.map fun t => (t.kind, t.text), IsLexeme x := by
  have hlexemes : ∀ x ∈ ts.map fun t => (t.kind, t.text), IsLexeme x :=
    List.forall_mem_map.2 fun t ht => isLexeme_of_produces hg (produces_of_mem_scan h t ht)
  refine ⟨?_, hlexemes⟩
  rw [lexicon_eq hg] at h
  have hahead : (Cursor.start text.toList).after.length ≤ text.toList.length := le_rfl
  obtain ⟨ps, c, hsplits, hpieces, ⟨hlast, hscan⟩ | ⟨-, -, hscan⟩⟩ :=
    scanFrom_cases (l := ⟨entriesOf .full bodies, []⟩) mapM_entry isValid_of_mem hahead
  · have hts := Except.ok.inj (h.symm.trans hscan)
    have hkept : (Piece.tokens (Cursor.start text.toList).offset ps).filter
        (fun t => !([] : List String).contains t.kind) = Piece.tokens 0 ps :=
      List.filter_eq_self.2 fun _ _ => rfl
    rw [hts, hkept, map_tokens]
    have htext : text.toList = ps.flatMap Piece.chars ++ c.after := hsplits.eq_past.2
    rw [htext]
    exact renders_pieces (fun p hp => (hpieces p hp).1) hlast
  · cases h.symm.trans hscan

end

end OrderedGrammar.Arithmetic
