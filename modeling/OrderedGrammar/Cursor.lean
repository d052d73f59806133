/-!
# A place in a text

A cursor splits a text into what lies before it and what lies ahead, so that looking at the
characters on either side takes one step.
-/

namespace OrderedGrammar

/-- A place in a text.  The characters before it are kept nearest first. -/
@[ext]
structure Cursor where
  before : List Char
  after : List Char
  offset : Nat
  offset_eq : offset = before.length := by rfl

namespace Cursor

/-- The start of a text. -/
def start (text : List Char) : Cursor where
  before := []
  after := text
  offset := 0

/-- The whole text. -/
def text (c : Cursor) : List Char := c.before.reverse ++ c.after

/-- Whether no character lies ahead. -/
def atEnd (c : Cursor) : Bool := c.after.isEmpty

/-- The character ahead, and the place behind it. -/
def next? (c : Cursor) : Option (Char × Cursor) :=
  match c.after with
  | [] => none
  | x :: rest => some (x, ⟨x :: c.before, rest, c.offset + 1, by simp [c.offset_eq]⟩)

/-- The place `n` characters back. -/
def back? (c : Cursor) : Nat → Option Cursor
  | 0 => some c
  | n + 1 =>
    match h : c.before with
    | [] => none
    | x :: rest =>
      back? ⟨rest, x :: c.after, c.offset - 1, by simp [c.offset_eq, h]⟩ n

/-- The characters from one place to a later one of the same text. -/
def slice (first last : Cursor) : List Char := first.after.take (last.offset - first.offset)

end Cursor

end OrderedGrammar
