import OrderedGrammar.Names
import OrderedGrammar.Symbol

/-!
# Rules

A rule is one alternative for a name.  A lexer rule has a pattern and defines a kind of token; a
parser rule has a sequence of symbols.

What several matches are kept under is a list: a label is enumerated if it belongs to a
repeatable symbol or to more than one symbol.  A match that is kept under the empty label stands
for the whole node, so that such an alternative has no named fields.
-/

namespace OrderedGrammar

/-- What a rule defines. -/
inductive RuleKind where
  | lexer
  | parser
  deriving DecidableEq, Repr

/-- The word for a kind of rules. -/
def RuleKind.text : RuleKind → String
  | .lexer => "lexer"
  | .parser => "parser"

/-- The kind of rules that a word stands for. -/
def RuleKind.ofText? : String → Option RuleKind
  | "lexer" => some .lexer
  | "parser" => some .parser
  | _ => none

/-- The labels that matches are kept under. -/
def storedLabels (symbols : List Symbol) : List String :=
  (symbols.filter (!·.ignored)).map (·.label)

/-- Whether both the empty label and a name keep a match. -/
def mixesLabels (symbols : List Symbol) : Bool :=
  (storedLabels symbols).contains "" && (storedLabels symbols).any (· ≠ "")

/-- The labels that are enumerated by symbols behind others, which keep their matches under
`seen`. -/
def enumeratedAfter (seen : List String) : List Symbol → List String
  | [] => []
  | s :: rest =>
    if s.ignored then enumeratedAfter seen rest
    else if seen.contains s.label then s.label :: enumeratedAfter seen rest
    else if s.repeatable then s.label :: enumeratedAfter (s.label :: seen) rest
    else enumeratedAfter (s.label :: seen) rest

/-- The labels that a sequence of symbols enumerates, in order. -/
def enumeratedLabels (symbols : List Symbol) : List String :=
  Names.sorted (enumeratedAfter [] symbols)

/-- One alternative for a name.  The labels that it enumerates are found once and kept. -/
structure Rule where
  name : String
  kind : RuleKind
  symbols : List Symbol
  enumerated : List String
  enumerated_eq : enumerated = enumeratedLabels symbols
  symbols_ne_nil : symbols ≠ []
  length_of_lexer : kind = .lexer → symbols.length = 1
  mixesLabels_eq_false : mixesLabels symbols = false
  deriving DecidableEq

namespace Rule

/-- The rule with the given symbols, if they can make one. -/
def ofSymbols (name : String) (kind : RuleKind) (symbols : List Symbol) :
    Except GrammarError Rule :=
  if h₁ : symbols = [] then .error (.noSymbols name)
  else if h₂ : kind = .lexer → symbols.length = 1 then
    if h₃ : mixesLabels symbols = false then .ok ⟨name, kind, symbols, _, rfl, h₁, h₂, h₃⟩
    else .error (.mixedLabels name (Names.sorted ((storedLabels symbols).filter (· ≠ ""))))
  else .error (.severalPatterns name)

/-- A lexer rule. -/
def lexer (name pattern : String) : Rule where
  name := name
  kind := .lexer
  symbols := [.ofName pattern]
  enumerated := enumeratedLabels [.ofName pattern]
  enumerated_eq := rfl
  symbols_ne_nil := by simp
  length_of_lexer := by simp
  mixesLabels_eq_false := by
    by_cases h : pattern = "" <;> simp [mixesLabels, storedLabels, Symbol.ofName, h]

/-- A parser rule whose symbols are in the shorthand. -/
def parser (name : String) (symbols : List String) : Except GrammarError Rule := do
  ofSymbols name .parser (← symbols.mapM Symbol.ofText)

/-- Whether what is kept under the label is a list. -/
def enumerates (r : Rule) (label : String) : Bool := r.enumerated.contains label

/-- The pattern of a lexer rule. -/
def pattern? (r : Rule) : Option String :=
  match r.kind with
  | .lexer => some (r.symbols.head r.symbols_ne_nil).name
  | .parser => none

/-- A rule in the notation. -/
def text (r : Rule) : String :=
  match r.pattern? with
  | some pattern => r.name ++ " = \"" ++ pattern ++ "\";"
  | none => r.name ++ " = " ++ ", ".intercalate (r.symbols.map (·.text)) ++ ";"

end Rule

end OrderedGrammar
