import Mathlib.Data.String.Basic
import OrderedGrammar.Examples.Schema
import OrderedGrammar.Proofs.Notation.Syntax

/-!
# The abstract syntax of definitions

Definitions of collections without a word on how they are matched:

    statement = 'CREATE' 'COLLECTION' name '(' column (',' column)* ')'
    column    = name ('INT' | 'REAL' | 'TEXT' | 'DATETIME') ['NOT' 'NULL']

## Main definitions

* `IsName` : the texts that can be a name.
* `DataType`, `ColumnDefinition`, `Definition` : the trees.
* `Definition.lexemes`, `Definition.text` : a definition as it is written.
* `Definition.collection` : what is defined.
-/

namespace OrderedGrammar.Schema

open Notation (Lexeme)

/-! ### Words -/

/-- The keywords behind the kinds of their tokens, in the order in which they are tried. -/
def keywords : List Lexeme :=
  [("DATA_TYPE_INTEGER", "INT"), ("DATA_TYPE_REAL", "REAL"), ("DATA_TYPE_TEXT", "TEXT"),
    ("DATA_TYPE_DATETIME", "DATETIME"), ("NULL", "NULL"), ("NOT", "NOT"), ("CREATE", "CREATE"),
    ("COLLECTION", "COLLECTION")]

/-- Characters with letters in upper case. -/
def uppercase (cs : List Char) : List Char := cs.map Char.toUpper

/-- ASCII letters, digits and underscores, with no digit in front. -/
structure IsWord (cs : List Char) : Prop where
  head : ∃ c ∈ cs.head?, ¬c.isDigit
  all : ∀ c ∈ cs, c.isAlphanum ∨ c = '_'

/-- A name is a word that is no keyword in any case. -/
structure IsName (text : String) : Prop where
  isWord : IsWord text.toList
  not_keyword : ∀ k ∈ keywords, uppercase text.toList ≠ k.2.toList

instance (cs : List Char) : Decidable (IsWord cs) :=
  decidable_of_iff ((cs.head?.any fun c => ¬c.isDigit) ∧ cs.all fun c => c.isAlphanum ∨ c = '_')
    ⟨fun h => ⟨by simpa [Option.any_eq_true] using h.1, by simpa using h.2⟩,
      fun h => ⟨by simpa [Option.any_eq_true] using h.head, by simpa using h.all⟩⟩

instance (text : String) : Decidable (IsName text) :=
  decidable_of_iff
    (IsWord text.toList ∧ ∀ k ∈ keywords, uppercase text.toList ≠ k.2.toList)
    ⟨fun h => ⟨h.1, h.2⟩, fun h => ⟨h.isWord, h.not_keyword⟩⟩

/-! ### Definitions -/

/-- The types of columns. -/
inductive DataType where
  | integer
  | real
  | text
  | datetime
  deriving DecidableEq

namespace DataType

/-- The types in the order in which they are tried. -/
def all : List DataType := [integer, real, text, datetime]

/-- The kind of a type's token. -/
def kind : DataType → String
  | integer => "DATA_TYPE_INTEGER"
  | real => "DATA_TYPE_REAL"
  | text => "DATA_TYPE_TEXT"
  | datetime => "DATA_TYPE_DATETIME"

/-- The keyword for a type. -/
def word : DataType → String
  | integer => "INT"
  | real => "REAL"
  | text => "TEXT"
  | datetime => "DATETIME"

theorem mem_all (d : DataType) : d ∈ all := by
  cases d <;> decide

theorem kind_injective : Function.Injective kind := by
  intro d d' h
  cases d <;> cases d' <;> first | rfl | exact absurd h (by decide)

end DataType

/-- A column that is defined. -/
structure ColumnDefinition where
  name : String
  type : DataType
  notNull : Bool

/-- A collection that is defined by its columns, of which there is one at least. -/
structure Definition where
  name : String
  first : ColumnDefinition
  others : List ColumnDefinition

namespace ColumnDefinition

/-- The lexemes of a column. -/
def lexemes (c : ColumnDefinition) : List Lexeme :=
  ("IDENTIFIER", c.name) :: (c.type.kind, c.type.word) ::
    if c.notNull then [("NOT", "NOT"), ("NULL", "NULL")] else []

/-- The lexemes of a column behind another one. -/
def tailLexemes (c : ColumnDefinition) : List Lexeme := ("COMMA", ",") :: c.lexemes

/-- The column that is read. -/
def column (c : ColumnDefinition) : Column := ⟨c.name, c.type.kind, c.notNull⟩

end ColumnDefinition

namespace Definition

/-- The columns. -/
def columns (d : Definition) : List ColumnDefinition := d.first :: d.others

/-- The names of the collection and of its columns. -/
def names (d : Definition) : List String := d.name :: d.columns.map (·.name)

/-- The lexemes of the columns, in parentheses. -/
def listLexemes (d : Definition) : List Lexeme :=
  ("LEFT_PAREN", "(") :: (d.first.lexemes ++
    (d.others.flatMap ColumnDefinition.tailLexemes ++ [("RIGHT_PAREN", ")")]))

/-- The lexemes of a definition. -/
def lexemes (d : Definition) : List Lexeme :=
  ("CREATE", "CREATE") :: ("COLLECTION", "COLLECTION") :: ("IDENTIFIER", d.name) :: d.listLexemes

/-- A definition as it is written, with single spaces between its tokens. -/
def text (d : Definition) : String := " ".intercalate (d.lexemes.map (·.2))

/-- The collection that is read. -/
def collection (d : Definition) : Collection :=
  ⟨some d.name, d.columns.map ColumnDefinition.column⟩

end Definition

/-! ### Outlines -/

/-- What counts of a lexeme: its kind, and of a name the text. -/
def outline (x : Lexeme) : Lexeme := (x.1, if x.1 = "IDENTIFIER" then x.2 else "")

end OrderedGrammar.Schema
