import OrderedGrammar.Tree.Access
import OrderedGrammar.Walker.Basic

/-!
# Handlers as scripts

A script is a list of instructions that a handler carries out on its node.  The walker's state is
a list of texts that the instructions add to.
-/

namespace OrderedGrammar.Script

/-- One step of a handler. -/
inductive Instruction where
  /-- Adds the node's name. -/
  | log
  /-- Adds a text. -/
  | say (text : String)
  /-- Adds the text of a field's token. -/
  | text (label : String)
  /-- Adds the texts of all tokens of a field. -/
  | tokens (label : String)
  /-- Visits all fields. -/
  | children
  /-- Visits what a field holds. -/
  | visit (label : String)
  /-- Visits a field's node. -/
  | accept (label : String)
  /-- Visits all nodes of a field. -/
  | nodes (label : String)
  /-- Goes on in one way if the node has the field, and in the other if not. -/
  | branch (label : String) (yes no : List Instruction)
  /-- Forgets all texts. -/
  | reset
  /-- Adds a handler to the walker. -/
  | add (name : String) (script : List Instruction)

/-- Why a script fails. -/
inductive Error where
  | access (error : AccessError)
  | duplicate (error : DuplicateHandler)

/-- A walker whose handlers are scripts.  The latest text comes first. -/
abbrev Handlers := Walker (List Instruction) (List String)

/-- A step of a script. -/
abbrev Act := Walk (List Instruction) Error (List String)

/-- A step that reads a node. -/
def access {α : Type} : Except AccessError α → Act α
  | .ok a => pure a
  | .error e => throw (.access e)

/-- Adds a text to the state. -/
def append (text : String) : Act Unit := Walk.update (text :: ·)

mutual

/-- Carries out an instruction on a node. -/
def act (visit : Tree → Act Unit) (n : Node) : Instruction → Act Unit
  | .log => append n.name
  | .say text => append text
  | .text label => do append (← access (n.getText label))
  | .tokens label => do (← access (n.getTokens label)).forM fun t => append t.text
  | .children => Walk.children visit n
  | .visit label => do visit (← access (n.get label))
  | .accept label => do visit (← access (n.getNode label)).toTree
  | .nodes label => do (← access (n.getNodes label)).forM fun m => visit m.toTree
  | .branch label yes no => if n.has label then actAll visit n yes else actAll visit n no
  | .reset => Walk.update fun _ => []
  | .add name script => do
    match (← get).add name script with
    | .ok w => set w
    | .error e => throw (.duplicate e)

/-- Carries out instructions one after the other. -/
def actAll (visit : Tree → Act Unit) (n : Node) : List Instruction → Act Unit
  | [] => pure ()
  | i :: rest => do
    act visit n i
    actAll visit n rest

end

/-- What a script does as a handler. -/
def handle (script : List Instruction) (visit : Tree → Act Unit) (n : Node) : Act Unit :=
  actAll visit n script

end OrderedGrammar.Script
