import OrderedGrammar.Notation.Rules
import OrderedGrammar.Proofs.Construction

/-!
# The alternatives of the notation

The notation's rules as they come out of the shorthand that they are written in, and the
alternatives that its grammar has for every name.
-/

namespace OrderedGrammar.Notation

/-- `:IDENTIFIER?, :COLON` -/
def aliasRule : Rule :=
  ⟨"alias", .parser,
    [⟨"IDENTIFIER", "", true, false, false⟩, ⟨"COLON", "", false, false, false⟩],
    [""], by decide, by simp, by simp, by decide⟩

/-- `LPAREN!, :alternatives, RPAREN!` -/
def subruleRule : Rule :=
  ⟨"subrule", .parser,
    [⟨"LPAREN", "LPAREN", false, false, true⟩, ⟨"alternatives", "", false, false, false⟩,
      ⟨"RPAREN", "RPAREN", false, false, true⟩],
    [], by decide, by simp, by simp, by decide⟩

/-- `ALIAS:alias?, SUBRULE:subrule, MODIFIER:MODIFIER?` -/
def groupRule : Rule :=
  ⟨"symbol", .parser,
    [⟨"alias", "ALIAS", true, false, false⟩, ⟨"subrule", "SUBRULE", false, false, false⟩,
      ⟨"MODIFIER", "MODIFIER", true, false, false⟩],
    [], by decide, by simp, by simp, by decide⟩

/-- `ALIAS:alias?, IDENTIFIER:IDENTIFIER, MODIFIER:MODIFIER?` -/
def nameRule : Rule :=
  ⟨"symbol", .parser,
    [⟨"alias", "ALIAS", true, false, false⟩, ⟨"IDENTIFIER", "IDENTIFIER", false, false, false⟩,
      ⟨"MODIFIER", "MODIFIER", true, false, false⟩],
    [], by decide, by simp, by simp, by decide⟩

/-- `SYMBOL:symbol, SYMBOL:sequence_tail*` -/
def sequenceRule : Rule :=
  ⟨"sequence", .parser,
    [⟨"symbol", "SYMBOL", false, false, false⟩, ⟨"sequence_tail", "SYMBOL", true, true, false⟩],
    ["SYMBOL"], by decide, by simp, by simp, by decide⟩

/-- `COMMA!, :symbol` -/
def sequenceTailRule : Rule :=
  ⟨"sequence_tail", .parser,
    [⟨"COMMA", "COMMA", false, false, true⟩, ⟨"symbol", "", false, false, false⟩],
    [], by decide, by simp, by simp, by decide⟩

/-- `ALTERNATE:sequence, ALTERNATE:alternatives_tail*` -/
def alternativesRule : Rule :=
  ⟨"alternatives", .parser,
    [⟨"sequence", "ALTERNATE", false, false, false⟩,
      ⟨"alternatives_tail", "ALTERNATE", true, true, false⟩],
    ["ALTERNATE"], by decide, by simp, by simp, by decide⟩

/-- `OR!, :sequence` -/
def alternativesTailRule : Rule :=
  ⟨"alternatives_tail", .parser,
    [⟨"OR", "OR", false, false, true⟩, ⟨"sequence", "", false, false, false⟩],
    [], by decide, by simp, by simp, by decide⟩

/-- `RULE:IDENTIFIER, EQ!, EXPANSION:QUOTEDLITERAL, SEMICOLON!` -/
def patternRule : Rule :=
  ⟨"rule", .parser,
    [⟨"IDENTIFIER", "RULE", false, false, false⟩, ⟨"EQ", "EQ", false, false, true⟩,
      ⟨"QUOTEDLITERAL", "EXPANSION", false, false, false⟩,
      ⟨"SEMICOLON", "SEMICOLON", false, false, true⟩],
    [], by decide, by simp, by simp, by decide⟩

/-- `RULE:IDENTIFIER, EQ!, EXPANSION:alternatives, SEMICOLON!` -/
def choiceRule : Rule :=
  ⟨"rule", .parser,
    [⟨"IDENTIFIER", "RULE", false, false, false⟩, ⟨"EQ", "EQ", false, false, true⟩,
      ⟨"alternatives", "EXPANSION", false, false, false⟩,
      ⟨"SEMICOLON", "SEMICOLON", false, false, true⟩],
    [], by decide, by simp, by simp, by decide⟩

/-- `RULES:rule+` -/
def grammarRule : Rule :=
  ⟨"grammar", .parser,
    [⟨"rule", "RULES", false, true, false⟩],
    ["RULES"], by decide, by simp, by simp, by decide⟩

/-- The alternatives of the notation in their order. -/
def alternatives : List Rule :=
  [aliasRule, subruleRule, groupRule, nameRule, sequenceRule, sequenceTailRule, alternativesRule,
    alternativesTailRule, patternRule, choiceRule, grammarRule]

/-- The shorthand can be read. -/
theorem parserRules_eq : parserRules = .ok alternatives :=
  eq_ok_of_toOption (by decide +kernel)

/-- The notation has a grammar. -/
theorem exists_grammar : ∃ g, grammar = .ok g :=
  exists_ok_of_isOk (by decide +kernel)

/-- The kinds of tokens, without comments. -/
def tokenKinds : List String :=
  ["EQ", "COMMA", "COLON", "SEMICOLON", "MODIFIER", "OR", "QUOTEDLITERAL", "IDENTIFIER", "LPAREN",
    "RPAREN"]

section

variable {g : Grammar} (hg : grammar = .ok g)
include hg

theorem ofRules_of_grammar :
    Grammar.ofRules (lexerRules ++ alternatives) ignored true = .ok g := by
  rwa [grammar, parserRules_eq] at hg

theorem alternativesOf_eq (name : String) :
    g.alternativesOf name = alternatives.filter (·.name = name) :=
  Grammar.alternativesOf_of_append (ofRules_of_grammar hg) (by decide) (by decide) name

/-- No kind of tokens has alternatives. -/
theorem alternativesOf_tokenKind {name : String} (h : name ∈ tokenKinds) :
    g.alternativesOf name = [] := by
  rw [alternativesOf_eq hg]
  exact Grammar.filter_name_eq_nil (by decide) h

end

end OrderedGrammar.Notation
