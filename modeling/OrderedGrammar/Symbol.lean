import OrderedGrammar.GrammarError
import OrderedGrammar.Text.Space
import OrderedGrammar.Text.Word

/-!
# Symbols

A symbol is one element of a rule's right-hand side: the name of a rule, the name of the field
that keeps what it matches (the label), and how often it has to match.  Its shorthand is
`label:name` with a modifier at the end; the label is left out when it is the name, and an empty
one is written as a bare colon.
-/

namespace OrderedGrammar

/-- How often a symbol matches, and whether its match is kept. -/
inductive Modifier where
  | required
  | optional
  | zeroOrMore
  | oneOrMore
  | ignored
  deriving DecidableEq, Repr

namespace Modifier

/-- The character that a modifier is written as. -/
def char? : Modifier → Option Char
  | .required => none
  | .optional => some '?'
  | .zeroOrMore => some '*'
  | .oneOrMore => some '+'
  | .ignored => some '!'

/-- The modifier of a character. -/
def ofChar? : Char → Option Modifier
  | '?' => some .optional
  | '*' => some .zeroOrMore
  | '+' => some .oneOrMore
  | '!' => some .ignored
  | _ => none

/-- A modifier in the shorthand. -/
def text (m : Modifier) : String := String.ofList m.char?.toList

/-- The modifier that a text writes. -/
def ofText? (text : String) : Option Modifier :=
  match text.toList with
  | [] => some .required
  | [c] => ofChar? c
  | _ => none

end Modifier

/-- An element of a rule's right-hand side.  The pattern of a lexer rule is the name of its only
symbol. -/
structure Symbol where
  name : String
  label : String
  optional : Bool
  repeatable : Bool
  ignored : Bool
  deriving DecidableEq, Repr

namespace Symbol

/-- A symbol that matches once and is kept under its name. -/
def ofName (name : String) : Symbol := ⟨name, name, false, false, false⟩

/-- A symbol with a modifier, kept under its name if no label is given. -/
def ofModifier (name : String) (modifier : Modifier) (label : Option String) : Symbol where
  name := name
  label := label.getD name
  optional := modifier = .optional || modifier = .zeroOrMore
  repeatable := modifier = .zeroOrMore || modifier = .oneOrMore
  ignored := modifier = .ignored

/-- A symbol with the modifier that a text writes. -/
def ofModifierText (name modifier : String) (label : Option String) :
    Except GrammarError Symbol :=
  match Modifier.ofText? modifier with
  | some m => .ok (ofModifier name m label)
  | none => .error (.invalidModifier modifier name)

/-- The modifier that stands for a symbol's flags.  A symbol that is ignored shows no other. -/
def modifier (s : Symbol) : Modifier :=
  if s.ignored then .ignored
  else if s.optional then (if s.repeatable then .zeroOrMore else .optional)
  else if s.repeatable then .oneOrMore else .required

/-- A symbol in the shorthand. -/
def text (s : Symbol) : String :=
  (if s.label = s.name then "" else s.label ++ ":") ++ s.name ++ s.modifier.text

/-! ### Reading the shorthand -/

/-- Whether a name can start with `c`. -/
def isNameStart (c : Char) : Bool := c.isAlpha || c == '_'

/-- Whether a name can go on with `c`. -/
def isNameRest (c : Char) : Bool := Text.isWord c || c == '\''

/-- The name at the start of a text, and the rest of it. -/
def splitName? : List Char → Option (List Char × List Char)
  | [] => none
  | c :: cs =>
    if isNameStart c then some (c :: cs.takeWhile isNameRest, cs.dropWhile isNameRest) else none

/-- The label in front of a colon, and what comes behind it; no label if there is no colon. -/
def splitLabel (cs : List Char) : Option (List Char) × List Char :=
  match cs, splitName? cs with
  | ':' :: rest, _ => (some [], rest)
  | _, some (label, ':' :: rest) => (some label, rest)
  | _, _ => (none, cs)

/-- The symbol that the characters write, without whitespace around them. -/
def ofChars? (cs : List Char) : Option Symbol :=
  let (label, rest) := splitLabel cs
  match splitName? rest with
  | none => none
  | some (name, modifier) =>
    (Modifier.ofText? (String.ofList modifier)).map fun m =>
      ofModifier (String.ofList name) m (label.map String.ofList)

/-- The symbol that a text writes in the shorthand. -/
def ofText (text : String) : Except GrammarError Symbol :=
  match ofChars? (Text.trim text.toList) with
  | some s => .ok s
  | none => .error (.invalidSymbol text)

end Symbol

end OrderedGrammar
