import OrderedGrammar.Proofs.Notation.Exactness
import OrderedGrammar.Proofs.Notation.Lexing

/-!
# Compiling undoes printing

The notation can express a rule if its names are identifiers, its labels identifiers or empty, and
its flags those of a modifier, or if it is a lexer rule whose pattern can stand between quotes.  The
text of such rules is read as the lexemes of declarations without groups, which stand for just these
rules; and a text that is compiled gives no others.

## Main definitions

* `Rule.IsExpressible` : the rules that the notation can express.
* `printed` : the text of rules.
-/

namespace OrderedGrammar

open Notation

/-- Whether the notation can express the symbol. -/
structure Symbol.IsExpressible (s : Symbol) : Prop where
  isIdentifier : IsIdentifier s.name
  label : s.label = "" ∨ IsIdentifier s.label
  flags : ∃ m, s = .ofModifier s.name m (some s.label)

/-- Whether the notation can express the rule. -/
inductive Rule.IsExpressible (r : Rule) : Prop
  | lexer (pattern : String) : IsIdentifier r.name → IsQuotable pattern →
      r = .lexer r.name pattern → r.IsExpressible
  | parser : IsIdentifier r.name → r.kind = .parser → (∀ s ∈ r.symbols, s.IsExpressible) →
      r.IsExpressible

namespace Notation

/-- The text of rules, one on a line. -/
def printed (rules : List Rule) : String := "\n".intercalate (rules.map (·.text))

/-! ### The declarations of rules -/

/-- The label that is written in front of a symbol. -/
def labelFor (s : Symbol) : Label :=
  if s.label = s.name then .absent else if s.label = "" then .bare else .named s.label

/-- The item of a symbol. -/
def itemFor (s : Symbol) : Item := .name (labelFor s) s.name s.modifier

/-- The items of symbols. -/
def seriesFor (s : Symbol) : List Symbol → Series
  | [] => .one (itemFor s)
  | next :: rest => .more (itemFor s) (seriesFor next rest)

/-- The declaration of a rule. -/
def declarationFor (r : Rule) : Declaration :=
  match r.pattern? with
  | some pattern => .lexer r.name pattern
  | none => .parser r.name (.one (seriesFor (r.symbols.head r.symbols_ne_nil) r.symbols.tail))

theorem modifier_ofModifier (name : String) (m : Modifier) (label : Option String) :
    (Symbol.ofModifier name m label).modifier = m := by
  cases m <;> rfl

theorem ofModifier_labelFor {s : Symbol} (h : s.IsExpressible) :
    Symbol.ofModifier s.name s.modifier (labelFor s).text? = s := by
  obtain ⟨m, hm⟩ := h.flags
  have hmodifier : s.modifier = m := by rw [hm, modifier_ofModifier]
  have hlabel : (labelFor s).text?.getD s.name = s.label := by
    rw [labelFor]
    split_ifs with hname hempty
    · exact hname.symm
    · exact hempty.symm
    · rfl
  rw [hmodifier]
  conv_rhs => rw [hm]
  rw [Symbol.ofModifier, Symbol.ofModifier, hlabel]
  rfl

theorem flatten_seriesFor (declared : List String) (n : ℕ) {s : Symbol} {rest : List Symbol}
    (h : ∀ t ∈ s :: rest, t.IsExpressible) :
    (seriesFor s rest).flatten declared n = (s :: rest, [], n) := by
  induction rest generalizing s with
  | nil =>
    rw [seriesFor, Series.flatten, itemFor, Item.flatten]
    simp only [ofModifier_labelFor (h s List.mem_cons_self)]
  | cons next rest ih =>
    obtain ⟨hs, hrest⟩ := List.forall_mem_cons.1 h
    rw [seriesFor, Series.flatten, itemFor, Item.flatten]
    simp only [ofModifier_labelFor hs, ih hrest, List.append_nil]

/-- The draft that a rule is made of. -/
def Draft.ofRule (r : Rule) : Draft := ⟨r.name, r.kind, r.symbols⟩

theorem Draft.rule_ofRule (r : Rule) : (ofRule r).rule = .ok r := by
  obtain ⟨name, kind, symbols, enumerated, rfl, hne, hlexer, hmixes⟩ := r
  rw [ofRule, Draft.rule, Rule.ofSymbols, dif_neg hne, dif_pos hlexer, dif_pos hmixes]

theorem text_lexer (name pattern : String) :
    (Rule.lexer name pattern).text = name ++ " = \"" ++ pattern ++ "\";" := rfl

theorem pattern?_of_kind {r : Rule} (h : r.kind = .parser) : r.pattern? = none := by
  rw [Rule.pattern?, h]

theorem flatten_declarationFor (declared : List String) (n : ℕ) {r : Rule} (h : r.IsExpressible) :
    (declarationFor r).flatten declared n = ([Draft.ofRule r], n) := by
  cases h with
  | lexer pattern _ _ hr =>
    rw [hr]
    rfl
  | parser _ hkind hsymbols =>
    rw [← List.cons_head_tail r.symbols_ne_nil] at hsymbols
    have hseries := flatten_seriesFor declared n hsymbols
    rw [List.cons_head_tail] at hseries
    rw [declarationFor, pattern?_of_kind hkind, Declaration.flatten, Choice.flatten]
    simp only [hseries, List.nil_append, Draft.ofRule, hkind]

theorem rulesOf_declarationFor {rules : List Rule} (h : ∀ r ∈ rules, r.IsExpressible) :
    rulesOf (rules.map declarationFor) = .ok rules := by
  have hflatten (declared : List String) (n : ℕ) :
      flattenAll declared (rules.map declarationFor) n = (rules.map Draft.ofRule, n) := by
    induction rules with
    | nil => rfl
    | cons r rules ih =>
      obtain ⟨hr, hrules⟩ := List.forall_mem_cons.1 h
      rw [List.map_cons, flattenAll, flatten_declarationFor declared n hr]
      simp only [ih hrules, List.singleton_append, List.map_cons]
  rw [rulesOf, hflatten]
  exact mapM_map_ok Draft.rule_ofRule rules

theorem tailFrames_seriesFor (s : Symbol) (rest : List Symbol) :
    (seriesFor s rest).tailFrames = 3 := by
  induction rest generalizing s with
  | nil => rfl
  | cons next rest ih => rw [seriesFor, Series.tailFrames, ih]; rfl

/-- Rules without groups nest seven frames at most. -/
theorem framesOf_declarationFor (rules : List Rule) :
    framesOf (rules.map declarationFor) ≤ 7 := by
  rw [framesOf_le_iff]
  refine ⟨by decide, ?_⟩
  rw [List.forall_mem_map]
  intro r _
  rw [declarationFor]
  split
  · exact (by decide : 1 ≤ 6)
  · rw [Declaration.frames, Choice.frames]
    cases r.symbols.tail with
    | nil => exact (by decide : 5 ≤ 6)
    | cons next rest =>
      rw [seriesFor, Series.frames, tailFrames_seriesFor]
      exact (by decide : 6 ≤ 6)

/-! ### The kinds of lexemes -/

theorem Label.kind_mem (label : Label) : ∀ x ∈ label.lexemes, x.1 ∈ tokenKinds := by
  cases label <;> simp [Label.lexemes, tokenKinds]

theorem modifier_kind_mem (m : Modifier) : ∀ x ∈ modifierLexemes m, x.1 ∈ tokenKinds := by
  cases m <;> simp [modifierLexemes, Modifier.char?, tokenKinds]

mutual

theorem Item.kind_mem : ∀ (item : Item), ∀ x ∈ item.lexemes, x.1 ∈ tokenKinds
  | .name label name modifier => by
    have hname : "IDENTIFIER" ∈ tokenKinds := by decide
    rw [Item.lexemes, List.forall_mem_append, List.forall_mem_cons]
    exact ⟨label.kind_mem, hname, modifier_kind_mem modifier⟩
  | .group label body modifier => by
    have hopen : "LPAREN" ∈ tokenKinds := by decide
    have hclose : "RPAREN" ∈ tokenKinds := by decide
    rw [Item.lexemes, List.forall_mem_append, List.forall_mem_cons, List.forall_mem_append,
      List.forall_mem_cons]
    exact ⟨label.kind_mem, hopen, body.kind_mem, hclose, modifier_kind_mem modifier⟩

theorem Series.kind_mem : ∀ (series : Series), ∀ x ∈ series.lexemes, x.1 ∈ tokenKinds
  | .one item => item.kind_mem
  | .more item rest => by
    have hcomma : "COMMA" ∈ tokenKinds := by decide
    rw [Series.lexemes, List.forall_mem_append, List.forall_mem_cons]
    exact ⟨item.kind_mem, hcomma, rest.kind_mem⟩

theorem Choice.kind_mem : ∀ (body : Choice), ∀ x ∈ body.lexemes, x.1 ∈ tokenKinds
  | .one series => series.kind_mem
  | .more series rest => by
    have hbar : "OR" ∈ tokenKinds := by decide
    rw [Choice.lexemes, List.forall_mem_append, List.forall_mem_cons]
    exact ⟨series.kind_mem, hbar, rest.kind_mem⟩

end

/-- Declarations are written without comments. -/
theorem kind_mem_of_mem_lexemesOf {declarations : List Declaration} :
    ∀ x ∈ lexemesOf declarations, x.1 ∈ tokenKinds := by
  intro x hx
  obtain ⟨declaration, -, hx⟩ := List.mem_flatMap.1 hx
  cases declaration with
  | lexer name pattern =>
    have hkinds : ∀ kind ∈ (Declaration.lexer name pattern).lexemes.map Prod.fst,
        kind ∈ tokenKinds := by
      simp [Declaration.lexemes, tokenKinds]
    exact hkinds x.1 (List.mem_map_of_mem hx)
  | parser name body =>
    have hname : "IDENTIFIER" ∈ tokenKinds ∧ "EQ" ∈ tokenKinds ∧ "SEMICOLON" ∈ tokenKinds := by
      decide
    rw [Declaration.lexemes, List.mem_cons, List.mem_cons, List.mem_append,
      List.mem_singleton] at hx
    rcases hx with rfl | rfl | hx | rfl
    · exact hname.1
    · exact hname.2.1
    · exact body.kind_mem x hx
    · exact hname.2.2

/-! ### The text of rules is read as their lexemes -/

theorem reads_colon (rest : List Char) : ReadsAs (':' :: rest) [("COLON", ":")] rest :=
  reads_punctuation (x := ("COLON", ":")) (by decide) rest

theorem reads_label {s : Symbol} (h : s.IsExpressible) (rest : List Char) :
    ReadsAs ((if s.label = s.name then "" else s.label ++ ":").toList ++ rest)
      (labelFor s).lexemes rest := by
  rw [labelFor]
  split_ifs with hname hempty
  · exact .done
  · rw [hempty]
    exact reads_colon rest
  · have hlabel := h.label.resolve_left hempty
    have hcolon : ∀ y ∈ (':' :: rest).head?, ¬nameTail.holds y := by
      simpa using not_holds_nameTail ':' (by decide)
    rw [String.toList_append, List.append_assoc]
    exact (reads_identifier hlabel hcolon).append (reads_colon rest)

theorem reads_symbol {s : Symbol} (h : s.IsExpressible) {rest : List Char}
    (hrest : ∀ y ∈ rest.head?, ¬nameTail.holds y) :
    ReadsAs (s.text.toList ++ rest) (itemFor s).lexemes rest := by
  rw [Symbol.text, String.toList_append, String.toList_append, List.append_assoc,
    List.append_assoc]
  exact (reads_label h _).append ((reads_identifier h.isIdentifier
    (not_holds_head_modifier s.modifier hrest)).append (reads_modifier s.modifier rest))

theorem reads_series {s : Symbol} {rest : List Symbol} (h : ∀ t ∈ s :: rest, t.IsExpressible)
    (more : List Char) :
    ReadsAs ((", ".intercalate ((s :: rest).map (·.text))).toList ++ ';' :: more)
      (seriesFor s rest).lexemes (';' :: more) := by
  induction rest generalizing s with
  | nil =>
    rw [List.map_singleton, String.intercalate_singleton]
    exact reads_symbol (h s List.mem_cons_self) (by simpa using not_holds_nameTail ';' (by decide))
  | cons next rest ih =>
    obtain ⟨hs, hrest⟩ := List.forall_mem_cons.1 h
    have hcomma (cs : List Char) : ReadsAs (',' :: ' ' :: cs) [("COMMA", ",")] (' ' :: cs) :=
      reads_punctuation (x := ("COMMA", ",")) (by decide) _
    rw [List.map_cons, List.map_cons, String.intercalate_cons_cons, ← List.map_cons,
      String.toList_append, String.toList_append, List.append_assoc, List.append_assoc, seriesFor,
      Series.lexemes]
    refine (reads_symbol hs ?_).append ((hcomma _).append (.space (by decide) (ih hrest)))
    simpa using not_holds_nameTail ',' (by decide)

theorem reads_head {name : String} (h : IsIdentifier name) (rest : List Char) :
    ReadsAs (name.toList ++ ' ' :: '=' :: ' ' :: rest)
      [("IDENTIFIER", name), ("EQ", "=")] rest := by
  have hspace (cs : List Char) : ∀ y ∈ (' ' :: cs).head?, ¬nameTail.holds y := by
    simpa using not_holds_nameTail ' ' (by decide)
  have heq (cs : List Char) : ReadsAs ('=' :: cs) [("EQ", "=")] cs :=
    reads_punctuation (x := ("EQ", "=")) (by decide) cs
  exact (reads_identifier h (hspace _)).append
    (.space (by decide) ((heq _).append (.space (by decide) .done)))

theorem reads_stop (rest : List Char) : ReadsAs (';' :: rest) [("SEMICOLON", ";")] rest :=
  reads_punctuation (x := ("SEMICOLON", ";")) (by decide) rest

theorem reads_rule {r : Rule} (h : r.IsExpressible) (rest : List Char) :
    ReadsAs (r.text.toList ++ rest) (declarationFor r).lexemes rest := by
  cases h with
  | lexer pattern hname hpattern hr =>
    have htext : (Rule.lexer r.name pattern).text.toList ++ rest =
        r.name.toList ++
          ' ' :: '=' :: ' ' :: (("\"" ++ pattern ++ "\"").toList ++ ';' :: rest) := by
      simp [text_lexer]
    rw [hr, htext]
    exact (reads_head hname _).append ((reads_quoted hpattern _).append (reads_stop rest))
  | parser hname hkind hsymbols =>
    have hsymbols : ∀ s ∈ r.symbols.head r.symbols_ne_nil :: r.symbols.tail, s.IsExpressible := by
      rwa [List.cons_head_tail]
    have hseries := reads_series hsymbols rest
    rw [List.cons_head_tail] at hseries
    have htext : r.text.toList ++ rest = r.name.toList ++ ' ' :: '=' :: ' ' ::
        ((", ".intercalate (r.symbols.map (·.text))).toList ++ ';' :: rest) := by
      simp [Rule.text, pattern?_of_kind hkind]
    rw [htext, declarationFor, pattern?_of_kind hkind]
    exact (reads_head hname _).append (hseries.append (reads_stop rest))

theorem reads_printed {rules : List Rule} (h : ∀ r ∈ rules, r.IsExpressible) :
    ReadsAs (printed rules).toList (lexemesOf (rules.map declarationFor)) [] := by
  rw [printed]
  induction rules with
  | nil => exact .done
  | cons r rules ih =>
    obtain ⟨hr, hrules⟩ := List.forall_mem_cons.1 h
    rw [List.map_cons, lexemesOf, List.map_cons, List.flatMap_cons]
    cases rules with
    | nil =>
      have hread := reads_rule hr []
      rwa [List.append_nil, ← List.append_nil (declarationFor r).lexemes] at hread
    | cons next rules =>
      have hnewline : Text.isSpace '\n' := by decide
      rw [List.map_cons, String.intercalate_cons_cons, ← List.map_cons, String.toList_append,
        String.toList_append, List.append_assoc]
      exact (reads_rule hr _).append (.space hnewline (ih hrules))

/-! ### What a text is compiled to -/

section Compile

variable {g : Grammar} (hg : grammar = .ok g) {text : String} {rules : List Rule}

include hg

/-- Behind the scanner, what a text is compiled to depends on its tokens. -/
theorem compileRulesWithin_of_scan {tokens : List Token}
    (hscan : g.lexicon.scan text = .ok tokens) (hne : tokens ≠ []) (room : Option ℕ) :
    compileRulesWithin room text =
      ((g.parseTokens "grammar" tokens.toArray {}).1.mapError syntaxError).bind
        (rulesOfTree room) := by
  rw [compileRulesWithin, hg]
  simp [Grammar.tokenize, Except.mapError, bind, Except.bind, hscan, hne]

/-- A text is compiled step by step, and each step has to succeed. -/
theorem compileRules_eq_ok :
    compileRules text = .ok rules ↔ ∃ tokens n, g.lexicon.scan text = .ok tokens ∧ tokens ≠ [] ∧
      (g.parseTokens "grammar" tokens.toArray {}).1 = .ok n ∧
      rulesOfTree none n = .ok rules := by
  rw [compileRules, compileRulesWithin, hg]
  simp only [Grammar.tokenize, Except.mapError, bind, Except.bind]
  cases hscan : g.lexicon.scan text with
  | error e => simp
  | ok tokens =>
    by_cases hne : tokens = []
    · simp [hne, throw, throwThe, MonadExceptOf.throw]
    · cases hparse : (g.parseTokens "grammar" tokens.toArray {}).1 with
      | error e => simp [hne, hparse]
      | ok n => simp [hne, hparse]

/-- What a text is split into are lexemes of the notation. -/
theorem isLexeme_of_scan {tokens : List Token} (hscan : g.lexicon.scan text = .ok tokens) :
    ∀ x ∈ lexemesFrom tokens.toArray 0, IsLexeme x := by
  intro x hx
  obtain ⟨t, ht, rfl⟩ := List.mem_map.1 hx
  have hproduced := Lexicon.produces_of_mem_scan hscan t ht
  exact (isSpelled_of_produces hg hproduced).toIsLexeme

/-- A text is compiled if it is split into tokens that write declarations, to the rules of these. -/
theorem compileRules_eq_ok_iff :
    compileRules text = .ok rules ↔ ∃ tokens, g.lexicon.scan text = .ok tokens ∧
      ∃ declarations, declarations ≠ [] ∧
        tokens.map (fun t => (t.kind, t.text)) = lexemesOf declarations ∧
        framesOf declarations ≤ 1000 ∧ rulesOf declarations = .ok rules := by
  have hok {declarations : List Declaration} : (rulesOf declarations).mapError .grammar =
      (.ok rules : Except CompileError (List Rule)) ↔ rulesOf declarations = .ok rules := by
    cases rulesOf declarations <;> simp [Except.mapError]
  rw [compileRules_eq_ok hg]
  constructor
  · rintro ⟨tokens, n, hscan, -, hparse, hrules⟩
    obtain ⟨declarations, hne, hlexemes, hframes⟩ :=
      (parse_iff hg (isLexeme_of_scan hg hscan)).1 ⟨n, hparse⟩
    refine ⟨tokens, hscan, declarations, hne, hlexemes, hframes, ?_⟩
    rwa [rulesOfTree_of_parse hg (isLexeme_of_scan hg hscan) hparse hne hlexemes, hok] at hrules
  · rintro ⟨tokens, hscan, declarations, hne, hlexemes, hframes, hrules⟩
    have hparse : ∃ n, (g.parseTokens "grammar" tokens.toArray {}).1 = .ok n :=
      (parse_iff hg (isLexeme_of_scan hg hscan)).2 ⟨declarations, hne, hlexemes, hframes⟩
    obtain ⟨n, hparse⟩ := hparse
    refine ⟨tokens, n, hscan, ?_, hparse, ?_⟩
    · rintro rfl
      exact lexemesOf_ne_nil hne hlexemes.symm
    · rw [rulesOfTree_of_parse hg (isLexeme_of_scan hg hscan) hparse hne hlexemes, hok]
      exact hrules

/-- A text that is read as declarations is split into tokens that write them. -/
theorem exists_tokens_of_reads {declarations : List Declaration}
    (hread : ReadsAs text.toList (lexemesOf declarations) []) :
    ∃ tokens, g.lexicon.scan text = .ok tokens ∧
      tokens.map (fun t => (t.kind, t.text)) = lexemesOf declarations := by
  obtain ⟨hentries, hignored⟩ := entries_eq hg
  obtain ⟨tokens, hscan, hlexemes⟩ := Lexicon.scan_of_reads isBody_of_mem hentries hread
  refine ⟨tokens, hscan, ?_⟩
  have hkept : ∀ x ∈ (lexemesOf declarations).map (fun x => (x.1, x.2.toList)),
      (!g.lexicon.ignored.contains x.1) = true := by
    have hkinds : ∀ kind ∈ tokenKinds, (!ignored.contains kind) = true := by decide
    intro x hx
    obtain ⟨y, hy, rfl⟩ := List.mem_map.1 hx
    rw [hignored]
    exact hkinds y.1 (kind_mem_of_mem_lexemesOf y hy)
  rw [hlexemes, List.filter_eq_self.2 hkept, List.map_map]
  simp [Function.comp_def]

/-- A text that is read as declarations is compiled to the rules of these. -/
theorem compileRules_of_reads {declarations : List Declaration} (hne : declarations ≠ [])
    (hread : ReadsAs text.toList (lexemesOf declarations) [])
    (hframes : framesOf declarations ≤ 1000) (hrules : rulesOf declarations = .ok rules) :
    compileRules text = .ok rules := by
  obtain ⟨tokens, hscan, hlexemes⟩ := exists_tokens_of_reads hg hread
  exact (compileRules_eq_ok_iff hg).2 ⟨tokens, hscan, declarations, hne, hlexemes, hframes, hrules⟩

/-- Rules that the notation can express are compiled back from their text. -/
theorem compileRules_printed (hne : rules ≠ []) (h : ∀ r ∈ rules, r.IsExpressible) :
    compileRules (printed rules) = .ok rules :=
  compileRules_of_reads hg (by simpa using hne) (reads_printed h)
    ((framesOf_declarationFor rules).trans (by decide)) (rulesOf_declarationFor h)

end Compile

end Notation

end OrderedGrammar
