import OrderedGrammar.Fields
import OrderedGrammar.Token

/-!
# Syntax trees

The leaves of a tree are tokens.  A node stands for one alternative of a rule that has matched; it
has the rule's name, and keeps what the alternative's symbols have matched in fields with
different names, in the order in which they were first stored.  A field holds a token, a node or a
list.

Two trees are alike when they differ in nothing but the order of fields and the places of tokens.
-/

namespace OrderedGrammar

/-- What a field of a node can hold. -/
inductive Tree where
  | token (token : Token)
  | node (name : String) (fields : List (String × Tree))
  | list (items : List Tree)
  deriving Inhabited

/-- A node of a syntax tree. -/
structure Node where
  name : String
  fields : Fields Tree

/-- The tree whose top is the node. -/
def Node.toTree (n : Node) : Tree := .node n.name n.fields

namespace Tree

mutual

/-- Whether two trees differ in nothing but the order of fields and the places of tokens. -/
def alike : Tree → Tree → Bool
  | .token a, .token b => a.alike b
  | .node name fields, .node name' fields' =>
    name == name' && fields.length == fields'.length && fieldsAlike fields fields'
  | .list items, .list items' => itemsAlike items items'
  | _, _ => false

/-- Whether each of the fields has one with the same name that is alike. -/
def fieldsAlike : Fields Tree → Fields Tree → Bool
  | [], _ => true
  | (label, value) :: rest, fields =>
    (match fields.lookup label with
      | some value' => alike value value'
      | none => false) && fieldsAlike rest fields

/-- Whether two lists of trees are alike in order. -/
def itemsAlike : List Tree → List Tree → Bool
  | [], [] => true
  | item :: items, item' :: items' => alike item item' && itemsAlike items items'
  | _, _ => false

end

mutual

/-- The number of nodes on the longest path down from the top; lists do not count. -/
def height : Tree → Nat
  | .token _ => 0
  | .node _ fields => fieldsHeight fields + 1
  | .list items => itemsHeight items

/-- The greatest height among the fields. -/
def fieldsHeight : Fields Tree → Nat
  | [] => 0
  | (_, value) :: rest => max (height value) (fieldsHeight rest)

/-- The greatest height among the items of a list. -/
def itemsHeight : List Tree → Nat
  | [] => 0
  | item :: items => max (height item) (itemsHeight items)

end

mutual

/-- The number of nodes of a tree. -/
def nodeCount : Tree → Nat
  | .token _ => 0
  | .node _ fields => fieldsNodeCount fields + 1
  | .list items => itemsNodeCount items

/-- The number of nodes in all fields. -/
def fieldsNodeCount : Fields Tree → Nat
  | [] => 0
  | (_, value) :: rest => nodeCount value + fieldsNodeCount rest

/-- The number of nodes in all items of a list. -/
def itemsNodeCount : List Tree → Nat
  | [] => 0
  | item :: items => nodeCount item + itemsNodeCount items

end

mutual

/-- The tokens of a tree, from left to right. -/
def tokens : Tree → List Token
  | .token t => [t]
  | .node _ fields => fieldsTokens fields
  | .list items => itemsTokens items

/-- The tokens in all fields. -/
def fieldsTokens : Fields Tree → List Token
  | [] => []
  | (_, value) :: rest => tokens value ++ fieldsTokens rest

/-- The tokens in all items of a list. -/
def itemsTokens : List Tree → List Token
  | [] => []
  | item :: items => tokens item ++ itemsTokens items

end

end Tree

end OrderedGrammar
