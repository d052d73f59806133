import OrderedGrammar.Notation.Compile
import OrderedGrammar.Walker.Basic

/-!
# Definitions of collections

Statements that define a collection by the names and the types of its columns.  The walker reads
the collection's name and its columns off the tree.
-/

namespace OrderedGrammar.Schema

/-- The grammar of definitions. -/
def text : String := "
/* Lexer rules */

/* keywords */
DATA_TYPE_INTEGER   = \"\\bINT\\b\";
DATA_TYPE_REAL      = \"\\bREAL\\b\";
DATA_TYPE_TEXT      = \"\\bTEXT\\b\";
DATA_TYPE_DATETIME  = \"\\bDATETIME\\b\";
NULL                = \"\\bNULL\\b\";
NOT                 = \"\\bNOT\\b\";

CREATE              = \"\\bCREATE\\b\";
COLLECTION          = \"\\bCOLLECTION\\b\";
LEFT_PAREN          = \"[(]\";
RIGHT_PAREN         = \"[)]\";
COMMA               = \",\";
IDENTIFIER          = \"[A-Z_][A-Z_0-9]*\";

/* Parser rules */

column_name = :IDENTIFIER;
not_null = :(:NOT, :NULL);
data_type = :DATA_TYPE_INTEGER | :DATA_TYPE_REAL | :DATA_TYPE_TEXT
          | :DATA_TYPE_DATETIME;
column_definition = COLUMN_NAME:column_name, DATA_TYPE:data_type,
                    NOT_NULL:not_null?;
collection_element_list = LEFT_PAREN!, :column_definition,
                          :(COMMA!, :column_definition)*, RIGHT_PAREN!;
table_definition = CREATE!, COLLECTION!, NAME:IDENTIFIER,
                   COLUMNS:collection_element_list;
statement = STATEMENT:table_definition;
"

/-- The grammar, compiled. -/
def grammar : Except Notation.CompileError Grammar := Notation.compile text [] true

/-- A column: its name, the kind of the token that is its type, and whether it must be filled. -/
structure Column where
  name : String
  type : String
  notNull : Bool
  deriving DecidableEq, Repr

/-- A collection: its name once it has been read, and its columns. -/
structure Collection where
  name : Option String
  columns : List Column
  deriving DecidableEq, Repr

/-- The handlers of the nodes that are read. -/
inductive Handler where
  | table
  | column

/-- A step of reading. -/
abbrev Read := Walk Handler AccessError Collection

/-- A step that reads a node. -/
def access {α : Type} : Except AccessError α → Read α
  | .ok a => pure a
  | .error e => throw e

/-- What the handlers do. -/
def act : Handler → (Tree → Read Unit) → Node → Read Unit
  | .table, visit, n => do
    let name ← access (n.getText "NAME")
    Walk.update fun c => { c with name := some name }
    visit (← access (n.get "COLUMNS"))
  | .column, _, n => do
    let name ← access (n.getText "COLUMN_NAME")
    let type ← access (n.getToken "DATA_TYPE")
    let column := ⟨name, type.kind, n.has "NOT_NULL"⟩
    Walk.update fun c => { c with columns := c.columns ++ [column] }

/-- A walker that has read nothing. -/
def walker : Walker Handler Collection where
  handlers := [("table_definition", .table), ("column_definition", .column)]
  state := ⟨none, []⟩

/-- The collection that a walk through a tree reads. -/
def collection (t : Tree) : Except AccessError Collection :=
  match (Walk.walk act t).run walker with
  | .ok c _ => .ok c
  | .error e _ => .error e

end OrderedGrammar.Schema
