import OrderedGrammar.Text.Lowercase
import OrderedGrammar.Tree.Basic

/-!
# Walking a tree

A walker has handlers for nodes by their names, in which case does not count, and a state that the
handlers read and change.  A node without a handler is walked through field by field; a handler
decides itself whether and when its node's fields are walked through.

Handlers are named by values of a type `κ`, so that a handler can add others, and `act` says what
each of them does.  A handler is given the function that visits a tree; it reaches no deeper with
it than into the fields of its own node, so that the height of the tree bounds the walk.

Trees are visited by calls inside of calls.  A walk takes place on a stack with room for a number of
them, and fails where they are used up; without a stack there is no end to them.

## Main definitions

* `Walker.add` : adds a handler.
* `Walk.Stack` : how many calls can be taken, and what happens when there are no more.
* `Walk.visit` : visits a tree.
* `Walk.visitChildren` : visits all fields of a node, but not the node itself.
* `Walk.walk`, `Walk.walkWithin` : visit a tree and return the state.
-/

namespace OrderedGrammar

/-- Handlers by name in lower case, and a state. -/
structure Walker (κ σ : Type) where
  handlers : List (String × κ)
  state : σ

/-- A step of a walk, which can fail with `ε`.  What was done before a failure stays done. -/
abbrev Walk (κ ε σ : Type) := EStateM ε (Walker κ σ)

/-- A handler for the name is there already. -/
structure DuplicateHandler where
  name : String

/-- The words for the error. -/
def DuplicateHandler.message (e : DuplicateHandler) : String :=
  "Duplicate visitor for rule " ++ Text.quoted e.name

namespace Walker

variable {κ ε σ : Type}

/-- A walker without handlers. -/
def start (state : σ) : Walker κ σ := ⟨[], state⟩

/-- The handler of a name. -/
def handler? (w : Walker κ σ) (name : String) : Option κ := w.handlers.lookup (Text.lowercase name)

/-- Adds a handler for a name that has none. -/
def add (w : Walker κ σ) (name : String) (handler : κ) : Except DuplicateHandler (Walker κ σ) :=
  if (w.handler? name).isSome then .error ⟨name⟩
  else .ok { w with handlers := (Text.lowercase name, handler) :: w.handlers }

end Walker

namespace Walk

variable {κ ε σ : Type}

/-- Changes the state. -/
def update (f : σ → σ) : Walk κ ε σ Unit := modify fun w => { w with state := f w.state }

/-- The calls of a step: how many it takes itself, and below how many of them it takes the next
one. -/
structure Calls where
  own : Nat
  below : Nat

/-- A stack: how many calls it has room for, the calls of each handler, and the error when there is
no room for a call. -/
structure Stack (κ ε : Type) where
  room : Nat
  calls : κ → Calls
  overflow : ε

/-- The stack that has room for a number of calls, or no stack if there is no end to them. -/
abbrev Stack.within (calls : κ → Calls) (overflow : ε) (room : Option Nat) :
    Option (Stack κ ε) :=
  room.map fun room => ⟨room, calls, overflow⟩

/-- Takes a step if the stack has room for its calls.  The next step is taken below some of them. -/
def call (stack : Option (Stack κ ε)) (calls : Stack κ ε → Calls)
    (step : Option (Stack κ ε) → Walk κ ε σ Unit) : Walk κ ε σ Unit :=
  match stack with
  | none => step none
  | some s =>
    if s.room < (calls s).own then throw s.overflow
    else step (some { s with room := s.room - (calls s).below })

mutual

/-- Visits each node that is reached without passing through another one. -/
def visitNodes (enter : Option (Stack κ ε) → Node → Walk κ ε σ Unit)
    (stack : Option (Stack κ ε)) : Tree → Walk κ ε σ Unit
  | .token _ => call stack (fun _ => ⟨1, 1⟩) fun _ => pure ()
  | .node name fields => call stack (fun _ => ⟨1, 1⟩) fun stack => enter stack ⟨name, fields⟩
  | .list items => call stack (fun _ => ⟨1, 1⟩) fun stack => visitItems enter stack items

/-- Visits the items of a list in order. -/
def visitItems (enter : Option (Stack κ ε) → Node → Walk κ ε σ Unit)
    (stack : Option (Stack κ ε)) : List Tree → Walk κ ε σ Unit
  | [] => pure ()
  | item :: items => do
    visitNodes enter stack item
    visitItems enter stack items

end

/-- Visits all fields of a node in order. -/
def children (visit : Tree → Walk κ ε σ Unit) (n : Node) : Walk κ ε σ Unit :=
  n.fields.forM fun (_, value) => visit value

/-- Hands a node to its handler, or walks through it if it has none.  `fuel` is at least the
height of the node. -/
def enter (act : κ → (Tree → Walk κ ε σ Unit) → Node → Walk κ ε σ Unit) :
    Nat → Option (Stack κ ε) → Node → Walk κ ε σ Unit
  | 0, _, _ => pure ()
  | fuel + 1, stack, n => do
    match (← get).handler? n.name with
    | some handler =>
      call stack (·.calls handler) fun stack => act handler (visitNodes (enter act fuel) stack) n
    | none =>
      call stack (fun _ => ⟨2, 1⟩) fun stack => children (visitNodes (enter act fuel) stack) n

/-- Visits a tree on a stack. -/
def visitWithin (stack : Option (Stack κ ε))
    (act : κ → (Tree → Walk κ ε σ Unit) → Node → Walk κ ε σ Unit) (t : Tree) : Walk κ ε σ Unit :=
  visitNodes (enter act t.height) stack t

/-- Visits a tree. -/
def visit (act : κ → (Tree → Walk κ ε σ Unit) → Node → Walk κ ε σ Unit) (t : Tree) :
    Walk κ ε σ Unit :=
  visitWithin none act t

/-- Visits all fields of a node, but not the node itself. -/
def visitChildren (act : κ → (Tree → Walk κ ε σ Unit) → Node → Walk κ ε σ Unit) (n : Node) :
    Walk κ ε σ Unit :=
  children (visitNodes (enter act n.toTree.height) none) n

/-- Visits a tree on a stack and returns the state after that. -/
def walkWithin (stack : Option (Stack κ ε))
    (act : κ → (Tree → Walk κ ε σ Unit) → Node → Walk κ ε σ Unit) (t : Tree) : Walk κ ε σ σ := do
  call stack (fun _ => ⟨2, 2⟩) fun stack => visitWithin stack act t
  return (← get).state

/-- Visits a tree and returns the state after that. -/
def walk (act : κ → (Tree → Walk κ ε σ Unit) → Node → Walk κ ε σ Unit) (t : Tree) :
    Walk κ ε σ σ :=
  walkWithin none act t

end Walk

end OrderedGrammar
