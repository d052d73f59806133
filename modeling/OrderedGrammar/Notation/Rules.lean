import OrderedGrammar.Grammar

/-!
# The grammar of the notation

Grammars are written in a notation that has a grammar itself.  It is given here as rules, so that
reading the notation does not need the notation to be read first.  In its own terms:

    COMMENT       = "/\*[\s\S]*?\*/";
    EQ            = "=";
    COMMA         = "[,]";
    COLON         = "[:]";
    SEMICOLON     = ";";
    MODIFIER      = "[?!+*]";
    OR            = "[|]";
    QUOTEDLITERAL = "\"(?:[^\"\\]|\\.)*\"";
    IDENTIFIER    = "[a-zA-Z_][a-zA-Z0-9_']*";
    LPAREN        = "\(";
    RPAREN        = "\)";

    alias             = :IDENTIFIER?, :COLON;
    subrule           = LPAREN!, :alternatives, RPAREN!;
    symbol            = ALIAS:alias?, SUBRULE:subrule, MODIFIER:MODIFIER?;
    symbol            = ALIAS:alias?, IDENTIFIER:IDENTIFIER, MODIFIER:MODIFIER?;
    sequence          = SYMBOL:symbol, SYMBOL:sequence_tail*;
    sequence_tail     = COMMA!, :symbol;
    alternatives      = ALTERNATE:sequence, ALTERNATE:alternatives_tail*;
    alternatives_tail = OR!, :sequence;
    rule              = RULE:IDENTIFIER, EQ!, EXPANSION:QUOTEDLITERAL, SEMICOLON!;
    rule              = RULE:IDENTIFIER, EQ!, EXPANSION:alternatives, SEMICOLON!;
    grammar           = RULES:rule+;

Comments are ignored.
-/

namespace OrderedGrammar.Notation

/-- The kinds of token that the notation drops. -/
def ignored : List String := ["COMMENT"]

/-- The tokens of the notation. -/
def lexerRules : List Rule :=
  [.lexer "COMMENT" "/\\*[\\s\\S]*?\\*/",
   .lexer "EQ" "=",
   .lexer "COMMA" "[,]",
   .lexer "COLON" "[:]",
   .lexer "SEMICOLON" ";",
   .lexer "MODIFIER" "[?!+*]",
   .lexer "OR" "[|]",
   .lexer "QUOTEDLITERAL" "\"(?:[^\"\\\\]|\\\\.)*\"",
   .lexer "IDENTIFIER" "[a-zA-Z_][a-zA-Z0-9_']*",
   .lexer "LPAREN" "\\(",
   .lexer "RPAREN" "\\)"]

/-- The alternatives of the notation.  A quoted text on its own is tried ahead of a sequence. -/
def parserRules : Except GrammarError (List Rule) :=
  [("alias", [":IDENTIFIER?", ":COLON"]),
   ("subrule", ["LPAREN!", ":alternatives", "RPAREN!"]),
   ("symbol", ["ALIAS:alias?", "SUBRULE:subrule", "MODIFIER:MODIFIER?"]),
   ("symbol", ["ALIAS:alias?", "IDENTIFIER:IDENTIFIER", "MODIFIER:MODIFIER?"]),
   ("sequence", ["SYMBOL:symbol", "SYMBOL:sequence_tail*"]),
   ("sequence_tail", ["COMMA!", ":symbol"]),
   ("alternatives", ["ALTERNATE:sequence", "ALTERNATE:alternatives_tail*"]),
   ("alternatives_tail", ["OR!", ":sequence"]),
   ("rule", ["RULE:IDENTIFIER", "EQ!", "EXPANSION:QUOTEDLITERAL", "SEMICOLON!"]),
   ("rule", ["RULE:IDENTIFIER", "EQ!", "EXPANSION:alternatives", "SEMICOLON!"]),
   ("grammar", ["RULES:rule+"])].mapM fun (name, symbols) => Rule.parser name symbols

/-- The grammar of the notation. -/
def grammar : Except GrammarError Grammar := do
  Grammar.ofRules (lexerRules ++ (← parserRules)) ignored true

end OrderedGrammar.Notation
