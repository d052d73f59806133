import OrderedGrammar.Proofs.Notation.Writing

/-!
# The notation in its own terms

The notation can be written in the notation (`ownText`).  The text differs from the grammar that is
built in: a quote inside a pattern has to be escaped.  Compiled, it gives the same grammar
nevertheless.  The parser rules are the same, the escaped pattern is read like the plain one, and
nothing else has a say in a parse (`Grammar.parse_congr`), so that both grammars parse every text
alike (`compile_own`).
-/

namespace OrderedGrammar

/-! ### What a parse depends on -/

namespace Grammar

variable {g g' : Grammar}

theorem attempt_congr (h : g.alternatives = g'.alternatives) : attempt g = attempt g' := by
  funext matchOne name r
  rw [attempt, attempt, alternativesOf, alternativesOf, h]

theorem matchRule_congr (h : g.alternatives = g'.alternatives) (verbose : Bool) (budget : ℕ) :
    matchRule g verbose budget = matchRule g' verbose budget := by
  induction budget with
  | zero => rfl
  | succ budget ih =>
    funext rule r
    rw [matchRule, matchRule, ih, attempt_congr h]

theorem matchRoot_congr (h : g.alternatives = g'.alternatives) (verbose : Bool) (budget : ℕ)
    (root : String) (rules : List Rule) (r : Run) :
    g.matchRoot verbose budget root rules r = g'.matchRoot verbose budget root rules r := by
  induction rules generalizing r with
  | nil => rfl
  | cons rule rules ih => simp only [matchRoot, matchRule_congr h, ih]

theorem isTokenKind_congr (h : g.lexerRules.map (·.name) = g'.lexerRules.map (·.name))
    (name : String) : g.isTokenKind name = g'.isTokenKind name := by
  have hany (rules : List Rule) : (rules.any fun rule => rule.name = name) =
      (rules.map (·.name)).any fun kind => kind = name := by
    rw [List.any_map]
    rfl
  rw [isTokenKind, isTokenKind, hany, hany, h]

/-- A parse depends on a grammar by its alternatives, its kinds of tokens and its lexicon. -/
theorem parse_congr (halternatives : g.alternatives = g'.alternatives)
    (hkinds : g.lexerRules.map (·.name) = g'.lexerRules.map (·.name))
    (hlexicon : g.lexicon = g'.lexicon) (root text : String) (options : ParseOptions) :
    g.parse root text options = g'.parse root text options := by
  have hkind := isTokenKind_congr hkinds root
  have hparse (tokens : Array Token) :
      g.parseTokens root tokens options = g'.parseTokens root tokens options := by
    simp only [parseTokens, alternativesOf, halternatives, hkind, matchRoot_congr halternatives]
  rw [parse, parse, hasRule, hasRule, tokenize, tokenize, hkind, halternatives, hlexicon]
  simp only [hparse]

end Grammar

namespace Notation

open Lexicon

/-! ### The text -/

/-- The lines of the notation's grammar in the notation. -/
def ownLines : List String :=
  ["",
    "COMMENT       = \"/\\*[\\s\\S]*?\\*/\";",
    "EQ            = \"=\";",
    "COMMA         = \"[,]\";",
    "COLON         = \"[:]\";",
    "SEMICOLON     = \";\";",
    "MODIFIER      = \"[?!+*]\";",
    "OR            = \"[|]\";",
    "QUOTEDLITERAL = \"\\\"(?:[^\\\"\\\\]|\\\\.)*\\\"\";",
    "IDENTIFIER    = \"[a-zA-Z_][a-zA-Z0-9_']*\";",
    "LPAREN        = \"\\(\";",
    "RPAREN        = \"\\)\";",
    "",
    "alias             = :IDENTIFIER?, :COLON;",
    "subrule           = LPAREN!, :alternatives, RPAREN!;",
    "symbol            = ALIAS:alias?, SUBRULE:subrule, MODIFIER:MODIFIER?;",
    "symbol            = ALIAS:alias?, IDENTIFIER:IDENTIFIER,",
    "                    MODIFIER:MODIFIER?;",
    "sequence          = SYMBOL:symbol, SYMBOL:sequence_tail*;",
    "sequence_tail     = COMMA!, :symbol;",
    "alternatives      = ALTERNATE:sequence, ALTERNATE:alternatives_tail*;",
    "alternatives_tail = OR!, :sequence;",
    "rule              = RULE:IDENTIFIER, EQ!, EXPANSION:QUOTEDLITERAL,",
    "                    SEMICOLON!;",
    "rule              = RULE:IDENTIFIER, EQ!, EXPANSION:alternatives,",
    "                    SEMICOLON!;",
    "grammar           = RULES:rule+;",
    ""]

/-- The notation's grammar in the notation. -/
def ownText : String := "\n".intercalate ownLines

/-- The characters of the text, line by line. -/
def ownChars : List Char := ['\n'].intercalate (ownLines.map String.toList)

theorem toList_ownText : ownText.toList = ownChars := by
  rw [ownText, String.toList_intercalate]
  rfl

/-! ### The rules that it writes -/

/-- The lexer rules of the text: those of the notation, with the quotes of the one that has some
escaped. -/
def ownLexerRules : List Rule :=
  lexerRules.map fun rule =>
    if rule.name = "QUOTEDLITERAL" then .lexer rule.name "\\\"(?:[^\\\"\\\\]|\\\\.)*\\\"" else rule

/-- The rules of the text. -/
def ownRules : List Rule := ownLexerRules ++ alternatives

/-- A symbol as the text writes it: with its label if it is kept, also where that is its name. -/
def labelledItem (s : Symbol) : Item :=
  if s.ignored then itemFor s
  else .name (if s.label = "" then .bare else .named s.label) s.name s.modifier

/-- Symbols as the text writes them. -/
def labelledSeries (s : Symbol) : List Symbol → Series
  | [] => .one (labelledItem s)
  | next :: rest => .more (labelledItem s) (labelledSeries next rest)

/-- What the text declares. -/
def ownDeclarations : List Declaration :=
  ownLexerRules.map declarationFor ++ alternatives.map fun rule =>
    .parser rule.name (.one (labelledSeries (rule.symbols.head rule.symbols_ne_nil)
      rule.symbols.tail))

theorem rulesOf_own : rulesOf ownDeclarations = .ok ownRules :=
  eq_ok_of_toOption (by decide +kernel)

theorem writes_own : Writes ownText ownDeclarations := by
  refine .of_readAll? (by decide) ?_
  rw [toList_ownText]
  -- the kernel is slow to take a literal apart
  simp only [ownChars, ownLines, List.map_cons, List.map_nil]
  repeat rw [String.toList_ofList]
  decide +kernel

theorem compileRules_own : compileRules ownText = .ok ownRules :=
  writes_own.compileRules_eq_ok (by decide +kernel) rulesOf_own

theorem exists_own : ∃ c, Grammar.ofRules ownRules ignored true = .ok c :=
  exists_ok_of_isOk (by decide +kernel)

/-! ### The same grammar again -/

theorem parserRules_own :
    ownRules.filter (·.kind = .parser) =
      (lexerRules ++ alternatives).filter (·.kind = .parser) := by
  decide +kernel

/-- The escaped pattern is read like the plain one. -/
theorem entries_own :
    (ownLexerRules.mapM (entry true)).toOption = some (entriesOf .full bodies) := by
  decide +kernel

/-- **The notation describes itself.**  Its grammar in its own terms is compiled to a grammar with
the parser rules of the one that is built in, and both parse every text alike: from every root, with
the same tree, the same error or the same trace. -/
theorem compile_own : ∃ c m, compile ownText ["COMMENT"] true = .ok c ∧ grammar = .ok m ∧
    c.rules.filter (·.kind = .parser) = m.rules.filter (·.kind = .parser) ∧
    ∀ root text options, c.parse root text options = m.parse root text options := by
  obtain ⟨m, hm⟩ := exists_grammar
  obtain ⟨c, hc⟩ := exists_own
  have hcompile : compile ownText ["COMMENT"] true = .ok c := by
    rw [compile_of_compileRules compileRules_own]
    exact congrArg (Except.mapError _) hc
  obtain ⟨hrules, hlexers, hgroups, -⟩ := Grammar.of_ofRules hc
  obtain ⟨hrules', hlexers', hgroups', -⟩ := Grammar.of_ofRules (ofRules_of_grammar hm)
  have hlexerRules : Grammar.lexerRulesOf ownRules = ownLexerRules := by decide +kernel
  have halternatives : c.alternatives = m.alternatives := by
    rw [hgroups, hgroups', Grammar.group, Grammar.group, parserRules_own]
  have hkinds : c.lexerRules.map (·.name) = m.lexerRules.map (·.name) := by
    rw [hlexers, hlexers']
    decide +kernel
  have hlexicon : c.lexicon = m.lexicon := by
    obtain ⟨hentries, hignored⟩ := entries_eq hm
    rw [Grammar.lexicon_of_ofRules hc (hlexerRules ▸ entries_own), ← hentries, ← hignored]
  refine ⟨c, m, hcompile, hm, ?_, Grammar.parse_congr halternatives hkinds hlexicon⟩
  rw [hrules, hrules', parserRules_own]

end Notation

end OrderedGrammar
