import OrderedGrammar.Tree.Printer

/-!
# Fields of the expected shape

Who walks a tree knows the grammar, and so what shape each field has.  The accessors hand out a
field as a token, a node or a list of them, and name the shape that they found if it is not the
one that was asked for.
-/

namespace OrderedGrammar

/-- A field of a node is not there, or it has another shape than the one asked for. -/
inductive AccessError where
  | missing (node label : String)
  | notList (node label : String) (value : Tree)
  | notToken (node label : String) (value : Tree)
  | notNode (node label : String) (value : Tree)
  | notTokens (node label : String) (item : Tree)
  | notNodes (node label : String) (item : Tree)

/-- The word for the shape of a value. -/
def Tree.shape : Tree → String
  | .token _ => "Token"
  | .node _ _ => "Node"
  | .list _ => "list"

/-- The words for an error. -/
def AccessError.message : AccessError → String
  | .missing node label => "Node " ++ node ++ " has no property " ++ Text.quoted label
  | .notList node label value =>
    "Property " ++ Text.quoted label ++ " of node " ++ node ++ " is a single " ++ value.shape ++
      ", not a sequence"
  | .notToken node label value =>
    "Property " ++ Text.quoted label ++ " of node " ++ node ++ " is not a Token: " ++ value.dump
  | .notNode node label value =>
    "Property " ++ Text.quoted label ++ " of node " ++ node ++ " is not a Node: " ++ value.dump
  | .notTokens node label item =>
    "Property " ++ Text.quoted label ++ " of node " ++ node ++
      " must be a Token sequence, found " ++ item.dump
  | .notNodes node label item =>
    "Property " ++ Text.quoted label ++ " of node " ++ node ++
      " must be a Node sequence, found " ++ item.dump

namespace Node

/-- Whether the node has the field. -/
def has (n : Node) (label : String) : Bool := (n.fields.lookup label).isSome

/-- What the field holds. -/
def get (n : Node) (label : String) : Except AccessError Tree :=
  match n.fields.lookup label with
  | some value => .ok value
  | none => .error (.missing n.name label)

/-- The items of the list that the field holds. -/
def getList (n : Node) (label : String) : Except AccessError (List Tree) := do
  match ← n.get label with
  | .list items => return items
  | value => throw (.notList n.name label value)

/-- The token that the field holds. -/
def getToken (n : Node) (label : String) : Except AccessError Token := do
  match ← n.get label with
  | .token t => return t
  | value => throw (.notToken n.name label value)

/-- The node that the field holds. -/
def getNode (n : Node) (label : String) : Except AccessError Node := do
  match ← n.get label with
  | .node name fields => return ⟨name, fields⟩
  | value => throw (.notNode n.name label value)

/-- The tokens of the list that the field holds. -/
def getTokens (n : Node) (label : String) : Except AccessError (List Token) := do
  (← n.getList label).mapM fun
    | .token t => pure t
    | item => throw (.notTokens n.name label item)

/-- The nodes of the list that the field holds. -/
def getNodes (n : Node) (label : String) : Except AccessError (List Node) := do
  (← n.getList label).mapM fun
    | .node name fields => pure ⟨name, fields⟩
    | item => throw (.notNodes n.name label item)

/-- The text of the token that the field holds. -/
def getText (n : Node) (label : String) : Except AccessError String :=
  (·.text) <$> n.getToken label

end Node

end OrderedGrammar
