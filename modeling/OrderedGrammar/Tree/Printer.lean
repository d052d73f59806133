import OrderedGrammar.Tree.Basic

/-!
# Printing trees

A dump writes a tree on one line as nested constructors.  The pretty form has one line for each
node, each token and each list, and shows by the lines' indentation what belongs to what.
-/

namespace OrderedGrammar

namespace Tree

mutual

/-- A tree on one line. -/
def dump : Tree → String
  | .token t => t.dump
  | .node name fields =>
    "Node(" ++ Text.quoted name ++ ", \x7b" ++ ", ".intercalate (dumpFields fields) ++ "\x7d)"
  | .list items => "[" ++ ", ".intercalate (dumpItems items) ++ "]"

/-- The fields of a node, each with its name in front. -/
def dumpFields : Fields Tree → List String
  | [] => []
  | (label, value) :: rest => (Text.quoted label ++ ": " ++ dump value) :: dumpFields rest

/-- The items of a list. -/
def dumpItems : List Tree → List String
  | [] => []
  | item :: items => dump item :: dumpItems items

end

/-- What the lines below the present one are indented by: a bar if a sibling follows. -/
def nested (indent : String) (last : Bool) : String := indent ++ if last then "   " else "|  "

/-- The name of a field as it stands in front of what the field holds. -/
def heading : Option String → String
  | none => ""
  | some label => "\"" ++ label ++ "\" "

mutual

/-- The lines of a tree.  A node's line has its name only; a token and a list also have the name
of the field that holds them. -/
def lines (label : Option String) (indent : String) (last : Bool) : Tree → List String
  | .token t => [indent ++ "+- " ++ heading label ++ t.kind ++ " [" ++ t.text ++ "]"]
  | .node name fields => (indent ++ "+- " ++ name) :: fieldsLines (nested indent last) fields
  | .list items =>
    (indent ++ "+- " ++ heading label ++ "[]") :: itemsLines (nested indent last) items

/-- The lines of all fields. -/
def fieldsLines (indent : String) : Fields Tree → List String
  | [] => []
  | (label, value) :: rest =>
    lines (some label) indent rest.isEmpty value ++ fieldsLines indent rest

/-- The lines of all items of a list. -/
def itemsLines (indent : String) : List Tree → List String
  | [] => []
  | item :: items => lines none indent items.isEmpty item ++ itemsLines indent items

end

end Tree

namespace Node

/-- A node on one line. -/
def dump (n : Node) : String := n.toTree.dump

/-- A node on several lines, all of them behind `indent`; `last` if no sibling follows. -/
def pretty (n : Node) (indent : String) (last : Bool) : String :=
  "\n".intercalate (n.toTree.lines none indent last)

end Node

end OrderedGrammar
