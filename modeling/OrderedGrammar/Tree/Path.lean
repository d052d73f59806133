import OrderedGrammar.Tree.Basic

/-!
# Places in a tree

A path leads from the top of a tree down to one of its parts, through the fields of nodes and the
items of lists.
-/

namespace OrderedGrammar

/-- A step down: to a field of a node, or to an item of a list. -/
inductive PathStep where
  | field (label : String)
  | item (index : Nat)
  deriving DecidableEq, Repr

namespace Tree

/-- What a step leads to. -/
def child? : Tree → PathStep → Option Tree
  | .node _ fields, .field label => fields.lookup label
  | .list items, .item index => items[index]?
  | _, _ => none

/-- Puts a tree in the place that a step leads to. -/
def setChild : Tree → PathStep → Tree → Tree
  | .node name fields, .field label, value => .node name (Fields.set label value fields)
  | .list items, .item index, value => .list (items.set index value)
  | t, _, _ => t

/-- What a path leads to. -/
def at? (t : Tree) : List PathStep → Option Tree
  | [] => some t
  | step :: path => (t.child? step).bind fun child => child.at? path

/-- The tree after a change of what a path leads to. -/
def modifyAt? (f : Tree → Tree) (t : Tree) : List PathStep → Option Tree
  | [] => some (f t)
  | step :: path =>
    (t.child? step).bind fun child => (child.modifyAt? f path).map (t.setChild step)

end Tree

end OrderedGrammar
