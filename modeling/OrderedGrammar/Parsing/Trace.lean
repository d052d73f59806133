import OrderedGrammar.Parsing.Context
import OrderedGrammar.Text.Lines

/-!
# Traces

A trace has a line for each attempt at an alternative, for the way in which the attempt ends, and
for the alternative that the parse accepts in the end.  All lines but the last show the depth by
their indentation, and the place in the tokens.
-/

namespace OrderedGrammar

/-- What happens in a parse. -/
inductive TraceEvent where
  | enter (rule : Rule)
  | fail (name : String)
  | succeed (name : String)
  | accept (rule : Rule)

/-- What happens, with the number of open frames, the cursor and the token there. -/
structure TraceLine where
  event : TraceEvent
  depth : Nat
  index : Nat
  next : Option Token

namespace TraceEvent

/-- The words for an event. -/
def text : TraceEvent → String
  | enter rule => "RULE " ++ rule.text
  | fail name => "   --> fail " ++ name
  | succeed name => "   --> match " ++ name
  | accept rule => "   --> accept " ++ rule.text

end TraceEvent

namespace TraceLine

/-- The line of an event at a parse's state. -/
def ofContext (event : TraceEvent) (c : Context) : TraceLine := ⟨event, c.depth, c.index, c.peek⟩

/-- The next token as a line shows it. -/
def nextText : Option Token → String
  | none => "<EOF>"
  | some t => t.kind ++ " " ++ Text.quoted t.text

/-- The text of a line. -/
def text (l : TraceLine) : String :=
  match l.event with
  | .accept _ => l.event.text
  | _ =>
    "".pushn ' ' (2 * l.depth) ++ l.event.text ++ " [#" ++ toString l.index ++ " " ++
      nextText l.next ++ "]"

/-- A line as it is printed: names with newlines in them make several lines of it. -/
def printed (l : TraceLine) : List String := Text.lines l.text

end TraceLine

end OrderedGrammar
