import OrderedGrammar.Cursor
import OrderedGrammar.Pattern.Basic

/-!
# Matching a pattern

`Pattern.run p s next` matches `p` from the state `s` and hands each state in which a match can
end to `next`, the first choice first, until `next` accepts one.  Alternatives are tried from left
to right, and a loop tries to go on before it stops, or the other way round when it is not greedy.

A loop's optional rounds are bounded by the characters ahead: a round that matches nothing is the
last one, and any other leaves fewer of them.

## Main definitions

* `Pattern.run` : matches a pattern from a state.
* `Pattern.matchAt` : the first match of a pattern from a place on.
-/

namespace OrderedGrammar.Pattern

/-- What a group matched: the text between two places. -/
structure Capture where
  first : Cursor
  last : Cursor

/-- The text that a group matched. -/
def Capture.text (c : Capture) : List Char := c.first.slice c.last

/-- A matcher's place in the text, and where the groups were entered and left so far, latest
first. -/
structure State where
  cursor : Cursor
  entered : List (Nat × Cursor)
  left : List (Nat × Cursor)

namespace State

/-- The state at a place that no group has been entered before. -/
def start (c : Cursor) : State := ⟨c, [], []⟩

/-- What the group `index` matched last, unless it has been entered at a later place since. -/
def capture? (s : State) (index : Nat) : Option Capture :=
  match s.entered.lookup index, s.left.lookup index with
  | some first, some last => if first.offset ≤ last.offset then some ⟨first, last⟩ else none
  | _, _ => none

/-- Moves to another place. -/
def moveTo (s : State) (c : Cursor) : State := { s with cursor := c }

/-- Enters the group `index`. -/
def enter (s : State) (index : Nat) : State :=
  { s with entered := (index, s.cursor) :: s.entered }

/-- Leaves the group `index`. -/
def leave (s : State) (index : Nat) : State := { s with left := (index, s.cursor) :: s.left }

end State

/-- The place behind `cs`, if the text goes on with it. -/
def skip? (rule : CaseRule) : List Char → Cursor → Option Cursor
  | [], c => some c
  | x :: xs, c =>
    match c.next? with
    | none => none
    | some (y, d) => if rule.lower x == rule.lower y then skip? rule xs d else none

/-- Whether a word character, of ASCII only if `ascii`, stands on one side of a place only. -/
def isWordEdge (ascii : Bool) (c : Cursor) : Bool :=
  let isWord (x : Char) : Bool := if ascii then CharClass.word.holdsAscii x else Text.isWord x
  c.before.head?.any isWord != c.after.head?.any isWord

/-- Whether the condition holds at a place. -/
def Anchor.holds (a : Anchor) (c : Cursor) : Bool :=
  match a with
  | .start => c.before.isEmpty
  | .lineStart => c.before.isEmpty || c.before.head? == some '\n'
  | .stop => c.after.isEmpty
  | .lastLine => c.after.isEmpty || c.after == ['\n']
  | .lineStop => c.after.isEmpty || c.after.head? == some '\n'
  | .wordEdge ascii => isWordEdge ascii c
  | .notWordEdge ascii => !isWordEdge ascii c

/-- What is left to match: accepts or refuses a state. -/
abbrev Next := State → Option State

/-- Runs `step` a number of times in a row. -/
def requiredRounds (step : State → Next → Option State) : Nat → State → Next → Option State
  | 0, s, next => next s
  | n + 1, s, next => step s fun t => requiredRounds step n t next

/-- Runs `step` any number of times up to `most`.  `ahead` is at least as long as the text ahead. -/
def optionalRounds (step : State → Next → Option State) (greedy : Bool) (next : Next) :
    List Char → Option Nat → State → Option State
  | [], most, s =>
    if most = some 0 then next s
    else if greedy then step s next <|> next s
    else next s <|> step s next
  | _ :: ahead, most, s =>
    if most = some 0 then next s
    else
      let onward : Next := fun t =>
        if t.cursor.offset = s.cursor.offset then next t
        else optionalRounds step greedy next ahead (most.map (· - 1)) t
      if greedy then step s onward <|> next s else next s <|> step s onward

/-- Matches `p` from `s` and returns the first end state, as the matcher comes to them, that
`next` accepts. -/
def run : Pattern → State → Next → Option State
  | .empty, s, next => next s
  | .char set, s, next =>
    match s.cursor.next? with
    | none => none
    | some (x, c) => if set.holds x then next (s.moveTo c) else none
  | .seq p q, s, next => p.run s fun t => q.run t next
  | .alt p q, s, next => p.run s next <|> q.run s next
  | .loop least most greedy p, s, next =>
    requiredRounds p.run least s fun t =>
      optionalRounds p.run greedy next t.cursor.after (most.map (· - least)) t
  | .group i p, s, next => p.run (s.enter i) fun t => next (t.leave i)
  | .again i rule, s, next =>
    match s.capture? i with
    | none => none
    | some capture =>
      match skip? rule capture.text s.cursor with
      | none => none
      | some c => next (s.moveTo c)
  | .given i p q, s, next => if (s.capture? i).isSome then p.run s next else q.run s next
  | .anchor a, s, next => if a.holds s.cursor then next s else none
  | .look behind negated p, s, next =>
    let found := (s.cursor.back? (behind.getD 0)).bind fun c => p.run (s.moveTo c) some
    match found, negated with
    | some t, false => next (t.moveTo s.cursor)
    | none, true => next s
    | _, _ => none
  | .once p, s, next =>
    match p.run s some with
    | none => none
    | some t => next t

/-- The first match of `p` from a place on. -/
def matchAt (p : Pattern) (c : Cursor) : Option State := p.run (.start c) some

end OrderedGrammar.Pattern
