import OrderedGrammar.Pattern.Refusal
import OrderedGrammar.Token

/-!
# Errors in grammars

Everything that can be wrong with a grammar or with a request to it, from a single symbol to the
text of a whole grammar.
-/

namespace OrderedGrammar

/-- A fault in a grammar. -/
inductive GrammarError where
  /-- The text of a symbol is not in the shorthand. -/
  | invalidSymbol (text : String)
  /-- There is no such modifier. -/
  | invalidModifier (modifier symbol : String)
  | noSymbols (rule : String)
  /-- A lexer rule has more than one symbol. -/
  | severalPatterns (rule : String)
  /-- An alternative both keeps named fields and lets a match stand for the whole node. -/
  | mixedLabels (rule : String) (labels : List String)
  | noRules
  /-- A rule that is no lexer rule stands among lexer rules. -/
  | notLexer (rule : String)
  /-- Names have both lexer rules and parser rules. -/
  | nameClash (names : List String)
  | undefinedNames (names : List String)
  | invalidPattern (rule : String) (refusal : Pattern.Refusal)
  /-- A pattern asks for more repetitions than can be counted. -/
  | uncountable (rule : String)
  | unknownRoot (name : String)
  /-- No token of the notation starts at the offset. -/
  | unreadable (offset : Nat) (remainder : String)
  /-- The text of a grammar breaks the notation's rules at the token, or at its end. -/
  | malformed (near : Option Token)
  deriving DecidableEq, Repr

/-- The words for an error. -/
def GrammarError.message : GrammarError → String
  | .invalidSymbol text => "Invalid symbol specification: " ++ Text.quoted text
  | .invalidModifier modifier symbol =>
    "Invalid modifier " ++ Text.quoted modifier ++ " for symbol " ++ symbol
  | .noSymbols rule => "Production rule " ++ rule ++ " has no symbols"
  | .severalPatterns rule => "Lexer rule " ++ rule ++ " must have exactly one symbol"
  | .mixedLabels rule labels =>
    "Production rule " ++ rule ++ " mixes the empty alias with named properties: " ++
      ", ".intercalate labels
  | .noRules => "Invalid grammar. No production rules found."
  | .notLexer rule => "Production rule " ++ rule ++ " is not a lexer rule"
  | .nameClash names =>
    "Names used for both lexer and parser rules: " ++ ", ".intercalate names
  | .undefinedNames names => "Undefined names used in parser rules: " ++ ", ".intercalate names
  | .invalidPattern rule refusal =>
    "Invalid pattern for lexer rule " ++ rule ++ ": " ++ refusal.message
  | .uncountable _ => Pattern.Fault.countTooLarge.message
  | .unknownRoot name => "Production rule " ++ name ++ " not found."
  | .unreadable offset remainder =>
    "Syntax error in grammar at offset " ++ toString offset ++ " near [" ++ remainder ++ "...]"
  | .malformed none => "Syntax error in grammar: unexpected end of text"
  | .malformed (some t) =>
    "Syntax error in grammar at offset " ++ toString t.offset ++ " near " ++ Text.quoted t.text

end OrderedGrammar
