import OrderedGrammar.Notation.Compile

/-!
# Texts that are compiled once

A source holds a text that can be exchanged until it has been compiled.  A text that cannot be
compiled leaves nothing behind; the first one that can gives the source's rules for good.
-/

namespace OrderedGrammar.Notation

/-- A text with the rules it has been compiled to, if it has been. -/
structure Source where
  text : String
  ignored : List String
  compiled : Option (List Rule)

namespace Source

/-- A source of a text that has not been compiled. -/
def ofText (text : String) (ignored : List String) : Source := ⟨text, ignored, none⟩

/-- Exchanges the text.  Rules that have been compiled stay. -/
def setText (s : Source) (text : String) : Source := { s with text := text }

/-- The source's rules, and the source after that.  The text is compiled on a stack with room for a
number of calls. -/
def rulesWithin (room : Option Nat) (s : Source) : Except CompileError (List Rule) × Source :=
  match s.compiled with
  | some rules => (.ok rules, s)
  | none =>
    match compileRulesWithin room s.text with
    | .ok rules => (.ok rules, { s with compiled := some rules })
    | .error e => (.error e, s)

/-- The source's rules, and the source after that. -/
def rules (s : Source) : Except CompileError (List Rule) × Source := s.rulesWithin none

end Source

end OrderedGrammar.Notation
