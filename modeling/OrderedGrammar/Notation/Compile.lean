import OrderedGrammar.Notation.Rules
import OrderedGrammar.Parsing.Parse
import OrderedGrammar.Tree.Access

/-!
# Compiling the notation

The text of a grammar is parsed with the notation's grammar, and the tree gives the rules:

* a rule whose right-hand side is one quoted text is a lexer rule with that text as its pattern;
* any other rule gives one parser rule for each of its alternatives;
* a group in parentheses is lifted into rules of its own, in front of the rule that uses it, and
  named by the next number whose name the text does not declare itself.  A group is numbered
  before the groups inside it.

Groups are walked through by calls inside of calls, on the stack of the interpreter.  The functions
whose name says so are given its room, the number of calls that it can still take, and fail where
that is not enough; the others run on a stack without an end.

## Main definitions

* `rulesOfTree` : the rules that a tree of the notation's grammar writes.
* `compileRules`, `compileRulesWithin` : the rules that a text writes.
* `compile`, `compileWithin` : the grammar that a text writes.
-/

namespace OrderedGrammar.Notation

/-- A text cannot be compiled. -/
inductive CompileError where
  | grammar (error : GrammarError)
  /-- A tree does not have the shape that the notation's grammar gives it. -/
  | access (error : AccessError)
  | context (error : ContextError)
  /-- A pattern of the notation's grammar has no group to be the token. -/
  | noGroup (kind : String)
  /-- The scan of a text does not end. -/
  | endless
  /-- The stack has no room for the groups of a text. -/
  | overflow

/-- The rules that have been made, in order, and the number that the search for the next group's
name starts from. -/
structure Emission where
  rules : List Rule
  next : Nat

/-- A compilation step. -/
abbrev Emit := StateT Emission (Except CompileError)

namespace Emit

/-- A step that reads a tree. -/
def access {α : Type} : Except AccessError α → Emit α
  | .ok a => pure a
  | .error e => throw (.access e)

/-- A step that makes a part of a grammar. -/
def make {α : Type} : Except GrammarError α → Emit α
  | .ok a => pure a
  | .error e => throw (.grammar e)

/-- Puts a rule behind those that have been made. -/
def rule (r : Rule) : Emit Unit := modify fun e => { e with rules := e.rules ++ [r] }

end Emit

/-- The name of the group with a number. -/
def groupName (n : Nat) : String := "anonymous_" ++ toString n

/-- The first number from `n` on whose name is not declared, found in `fuel` steps if there are no
more names than that. -/
def freeNumber (declared : List String) : Nat → Nat → Nat
  | 0, n => n
  | fuel + 1, n =>
    if declared.contains (groupName n) then freeNumber declared fuel (n + 1) else n

/-- A name for a group. -/
def nameGroup (declared : List String) : Emit String := do
  let n := freeNumber declared declared.length (← get).next
  modify fun e => { e with next := n + 1 }
  return groupName n

/-- The label of a symbol, if one is written: the identifier in front of the colon, or nothing. -/
def labelOf (n : Node) : Emit (Option String) := do
  if n.has "ALIAS" then
    let tokens ← Emit.access (n.getTokens "ALIAS")
    return some (String.join ((tokens.filter (·.kind = "IDENTIFIER")).map (·.text)))
  else return none

/-- The modifier of a symbol. -/
def modifierOf (n : Node) : Emit String :=
  if n.has "MODIFIER" then Emit.access (n.getText "MODIFIER") else pure ""

/-- A symbol of a sequence.  A group gives its rules by `group`, under the name that it gets. -/
def emitSymbol (declared : List String) (group : String → Node → Emit Unit) (n : Node) :
    Emit Symbol := do
  let name ←
    if n.has "IDENTIFIER" then Emit.access (n.getText "IDENTIFIER")
    else do
      let name ← nameGroup declared
      group name (← Emit.access (n.getNode "SUBRULE"))
      pure name
  let label ← labelOf n
  let modifier ← modifierOf n
  Emit.make (Symbol.ofModifierText name modifier label)

/-- The rule of one alternative of `owner`. -/
def emitSequence (declared : List String) (group : String → Node → Emit Unit) (owner : String)
    (n : Node) : Emit Unit := do
  let symbols ← (← Emit.access (n.getNodes "SYMBOL")).mapM (emitSymbol declared group)
  Emit.rule (← Emit.make (Rule.ofSymbols owner .parser symbols))

/-- The rules of all alternatives of `owner`, if they and the groups inside them nest in no more
than the given number of levels. -/
def emitAlternatives (declared : List String) : Nat → String → Node → Emit Unit
  | 0, _, _ => throw .overflow
  | levels + 1, owner, n => do
    (← Emit.access (n.getNodes "ALTERNATE")).forM
      (emitSequence declared (emitAlternatives declared levels) owner)

/-- A quoted text without its quotes. -/
def unquoted (text : String) : String :=
  match text.toList with
  | '"' :: rest => if rest.getLast? = some '"' then String.ofList rest.dropLast else text
  | _ => text

/-- The rules of one rule of the notation.  If the levels are not bounded, no tree has more of them
than its height. -/
def emitRule (declared : List String) (levels : Option Nat) (n : Node) : Emit Unit := do
  let name ← Emit.access (n.getText "RULE")
  match ← Emit.access (n.get "EXPANSION") with
  | .token t => Emit.rule (.lexer name (unquoted t.text))
  | .node kind fields =>
    emitAlternatives declared (levels.getD (Tree.height (.node kind fields))) name ⟨kind, fields⟩
  | value => throw (.access (.notNode n.name "EXPANSION" value))

/-- The rules of a whole text. -/
def emitGrammar (levels : Option Nat) (n : Node) : Emit Unit := do
  let rules ← Emit.access (n.getNodes "RULES")
  let declared ← rules.mapM fun rule => Emit.access (rule.getText "RULE")
  rules.forM (emitRule declared levels)

/-- The calls in which a rule of a text is reached and its name is read. -/
def ruleCalls : Nat := 11

/-- The calls in which the alternatives of a rule are reached. -/
def entryCalls : Nat := 9

/-- The calls in which alternatives are walked through, down to a group in one of their symbols. -/
def levelCalls : Nat := 6

/-- The rules that a tree of the notation's grammar writes, on a stack with room for a number of
calls, or without an end. -/
def rulesOfTree (room : Option Nat) (n : Node) : Except CompileError (List Rule) := do
  if room.any (· < ruleCalls) then throw .overflow
  let (_, e) ← (emitGrammar (room.map fun calls => (calls - entryCalls) / levelCalls) n).run ⟨[], 0⟩
  return e.rules

/-- The error of a text that breaks the notation's rules. -/
def syntaxError : ParseFailure → CompileError
  | .grammar e => .grammar e
  | .scan (.lex e) => .grammar (.unreadable e.offset e.remainder)
  | .scan (.noGroup kind) => .noGroup kind
  | .scan .endless => .endless
  | .parse (.rejected _ token) => .grammar (.malformed token)
  | .parse (.tooDeep _ _ token) => .grammar (.malformed token)
  | .parse (.exhausted _ token) => .grammar (.malformed token)
  | .parse (.context e) => .context e

/-- The rules that a text writes, in order, on a stack with room for a number of calls. -/
def compileRulesWithin (room : Option Nat) (text : String) : Except CompileError (List Rule) := do
  let g ← grammar.mapError .grammar
  let tokens ← (g.tokenize text).mapError fun e => syntaxError (.scan e)
  if tokens.isEmpty then throw (.grammar .noRules)
  rulesOfTree room (← (g.parseTokens "grammar" tokens.toArray {}).1.mapError syntaxError)

/-- The rules that a text writes, in order. -/
def compileRules (text : String) : Except CompileError (List Rule) := compileRulesWithin none text

/-- The grammar that a text writes, on a stack with room for a number of calls. -/
def compileWithin (room : Option Nat) (text : String) (ignored : List String) (ignoreCase : Bool) :
    Except CompileError Grammar := do
  (Grammar.ofRules (← compileRulesWithin room text) ignored ignoreCase).mapError .grammar

/-- The grammar that a text writes. -/
def compile (text : String) (ignored : List String) (ignoreCase : Bool) :
    Except CompileError Grammar :=
  compileWithin none text ignored ignoreCase

end OrderedGrammar.Notation
