import OrderedGrammar.Lexicon

/-!
# Grammars

A grammar is an ordered collection of rules.  The parser rules of one name are the alternatives
for it, in the order of the collection.  Every name that a parser rule uses is either a kind of
token or has alternatives, and never both.

## Main definitions

* `Grammar.ofRules` : checks and groups the rules of a grammar.
* `Grammar.alternativesOf` : the alternatives of a name.
* `Grammar.tokenize` : the tokens of a text.
-/

namespace OrderedGrammar

/-- A collection of rules that has been checked, with the alternatives grouped by name and the
patterns read. -/
structure Grammar where
  rules : List Rule
  ignored : List String
  ignoreCase : Bool
  lexerRules : List Rule
  alternatives : List (String × List Rule)
  lexicon : Lexicon

namespace Grammar

/-- Adds a rule behind the alternatives of its name. -/
def addAlternative (rule : Rule) : List (String × List Rule) → List (String × List Rule)
  | [] => [(rule.name, [rule])]
  | (name, rules) :: rest =>
    if name = rule.name then (name, rules ++ [rule]) :: rest
    else (name, rules) :: addAlternative rule rest

/-- The parser rules grouped by name. -/
def group (rules : List Rule) : List (String × List Rule) :=
  (rules.filter (·.kind = .parser)).foldl (fun groups rule => addAlternative rule groups) []

/-- The rules that define tokens. -/
def lexerRulesOf (rules : List Rule) : List Rule := rules.filter (·.kind = .lexer)

/-- The names that both tokens and alternatives are defined for. -/
def clashes (kinds : List String) (groups : List (String × List Rule)) : List String :=
  Names.sorted (kinds.filter fun kind => (groups.lookup kind).isSome)

/-- The names that parser rules use and that nothing is defined for. -/
def undefinedNames (kinds : List String) (groups : List (String × List Rule))
    (rules : List Rule) : List String :=
  let used := (rules.filter (·.kind = .parser)).flatMap fun rule => rule.symbols.map (·.name)
  Names.sorted (used.filter fun name => !kinds.contains name && (groups.lookup name).isNone)

/-- Checks and groups the rules of a grammar.  Of several faults the first of these is reported:
there are no rules, a name is used for tokens and for alternatives, a name is not defined, a
pattern cannot be read. -/
def ofRules (rules : List Rule) (ignored : List String) (ignoreCase : Bool) :
    Except GrammarError Grammar :=
  let lexerRules := lexerRulesOf rules
  let kinds := lexerRules.map (·.name)
  let groups := group rules
  if rules.isEmpty then .error .noRules
  else if clashes kinds groups ≠ [] then .error (.nameClash (clashes kinds groups))
  else if undefinedNames kinds groups rules ≠ [] then
    .error (.undefinedNames (undefinedNames kinds groups rules))
  else do
    let lexicon ← Lexicon.ofRules lexerRules ignored ignoreCase
    return ⟨rules, ignored, ignoreCase, lexerRules, groups, lexicon⟩

/-- The alternatives of a name, in order. -/
def alternativesOf (g : Grammar) (name : String) : List Rule :=
  (g.alternatives.lookup name).getD []

/-- Whether tokens can have the name as their kind. -/
def isTokenKind (g : Grammar) (name : String) : Bool := g.lexerRules.any (·.name = name)

/-- Whether the name is a kind of token or has alternatives. -/
def hasRule (g : Grammar) (name : String) : Bool :=
  g.isTokenKind name || (g.alternatives.lookup name).isSome

/-- The rules in the notation, one on a line. -/
def text (g : Grammar) : String := "\n".intercalate (g.rules.map (·.text))

/-- The tokens of a text. -/
def tokenize (g : Grammar) (text : String) : Except ScanError (List Token) := g.lexicon.scan text

end Grammar

end OrderedGrammar
