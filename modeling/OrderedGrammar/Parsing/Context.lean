import OrderedGrammar.Grammar
import OrderedGrammar.Tree.Basic

/-!
# The state of a parse

A parse keeps a cursor in the tokens, the furthest index that the cursor has ever had, and a stack
of frames, one for each alternative that is being matched.  A frame collects what the symbols of
its alternative have matched.

## Main definitions

* `Context.seek` : moves the cursor, and with it the furthest index if need be.
* `Context.tryToken` : takes the next token if it is of a given kind.
* `Context.push`, `Context.pop` : open and close a frame.
* `Context.store` : keeps a match in the innermost frame.
-/

namespace OrderedGrammar

/-- What a frame keeps under a label: one match, or several matches one behind the other, of which
the latest comes first. -/
inductive Kept where
  | one (value : Tree)
  | many (latestFirst : List Tree)

/-- What is kept, as it stands in a tree. -/
def Kept.tree : Kept → Tree
  | .one value => value
  | .many latestFirst => .list latestFirst.reverse

/-- An alternative that is being matched: the fields of its node so far, and the value that stands
for the node if a symbol with the empty label has matched. -/
structure Frame where
  rule : Rule
  fields : Fields Kept
  value : Option Kept

/-- A step on a parse's state that the state has no place for. -/
inductive ContextError where
  /-- There is no frame to close. -/
  | popWithoutFrame
  /-- There is no frame to keep a match in. -/
  | storeWithoutFrame
  /-- What is kept under an enumerated label is a single match. -/
  | notSequence
  deriving DecidableEq, Repr

/-- The words for an error. -/
def ContextError.message : ContextError → String
  | .popWithoutFrame => "pop from empty list"
  | .storeWithoutFrame => "list index out of range"
  | .notSequence => ""

namespace Frame

/-- A frame that keeps nothing yet. -/
def empty (rule : Rule) : Frame := ⟨rule, [], none⟩

/-- What the alternative has matched: a node, or the value that stands for it. -/
def result (f : Frame) : Tree :=
  match f.value with
  | some kept => kept.tree
  | none => .node f.rule.name (f.fields.map fun (label, kept) => (label, kept.tree))

/-- What is kept under a label. -/
def kept? (f : Frame) (label : String) : Option Kept :=
  if label = "" then f.value else f.fields.lookup label

/-- Keeps something under a label in place of what was there. -/
def keep (f : Frame) (label : String) (kept : Kept) : Frame :=
  if label = "" then { f with value := some kept }
  else { f with fields := f.fields.set label kept }

/-- The items that a match adds to a list: its own if it is a list. -/
def spliced : Tree → List Tree
  | .list items => items
  | value => [value]

/-- Keeps a match under a label.  Matches under an enumerated label are put behind each other. -/
def store (f : Frame) (label : String) (value : Tree) : Except ContextError Frame :=
  if f.rule.enumerates label then
    match f.kept? label with
    | none => .ok (f.keep label (.many (spliced value).reverse))
    | some (.many earlier) => .ok (f.keep label (.many ((spliced value).reverse ++ earlier)))
    | some (.one _) => .error .notSequence
  else .ok (f.keep label (.one value))

end Frame

/-- The state of a parse.  The innermost frame comes first. -/
structure Context where
  tokens : Array Token
  index : Nat
  best : Nat
  frames : List Frame

namespace Context

/-- The state at the start of a parse. -/
def start (tokens : Array Token) : Context := ⟨tokens, 0, 0, []⟩

/-- Moves the cursor, also past the end. -/
def seek (c : Context) (index : Nat) : Context :=
  { c with index := index, best := max c.best index }

/-- The token at an index. -/
def tokenAt (c : Context) (index : Nat) : Option Token := c.tokens[index]?

/-- The token at the cursor. -/
def peek (c : Context) : Option Token := c.tokenAt c.index

/-- Whether no token is left. -/
def atEnd (c : Context) : Bool := c.tokens.size ≤ c.index

/-- The number of open frames. -/
def depth (c : Context) : Nat := c.frames.length

/-- Takes the next token if it is of the given kind. -/
def tryToken (c : Context) (kind : String) : Option (Token × Context) :=
  match c.peek with
  | none => none
  | some t => if t.kind = kind then some (t, c.seek (c.index + 1)) else none

/-- Opens a frame for an alternative. -/
def push (c : Context) (rule : Rule) : Context := { c with frames := .empty rule :: c.frames }

/-- Closes the innermost frame. -/
def pop (c : Context) : Except ContextError (Frame × Context) :=
  match c.frames with
  | [] => .error .popWithoutFrame
  | f :: rest => .ok (f, { c with frames := rest })

/-- Keeps a match in the innermost frame. -/
def store (c : Context) (label : String) (value : Tree) : Except ContextError Context :=
  match c.frames with
  | [] => .error .storeWithoutFrame
  | f :: rest => do return { c with frames := (← f.store label value) :: rest }

end Context

end OrderedGrammar
