import OrderedGrammar.Parsing.Trace

/-!
# Matching rules

An alternative matches when its symbols match one after the other.  A symbol first takes the next
token if that is of the kind it names, or else the first alternative of its name that matches; it
goes around again if it is repeatable.  Repetition is greedy, and what has matched is not tried in
another way for the sake of a later symbol.  A failed attempt leaves the cursor where it was.

Each function is written over the one that it uses for what is nested, so that the recursion is on
the number of frames that may still be opened.

## Main definitions

* `attempt` : a token of a name's kind, or the first alternative of the name that matches.
* `matchSymbol` : a symbol, as often as it asks for.
* `matchRule` : one alternative.
-/

namespace OrderedGrammar

/-- A parse's state, and the trace so far, latest line first. -/
structure Run where
  context : Context
  trace : List TraceLine

/-- Why a parse is given up. -/
inductive Abort where
  /-- A frame was to be opened when as many as are allowed were open. -/
  | tooDeep
  | context (error : ContextError)

/-- How an attempt ends.  The state is kept in each case, for the furthest index and the trace
outlast a failure. -/
inductive Outcome (α : Type) where
  | matched (value : α) (run : Run)
  | failed (run : Run)
  | aborted (abort : Abort) (run : Run)

namespace Run

/-- The state at the start of a parse. -/
def start (tokens : Array Token) : Run := ⟨.start tokens, []⟩

/-- The cursor. -/
def index (r : Run) : Nat := r.context.index

/-- Moves the cursor. -/
def seek (r : Run) (index : Nat) : Run := { r with context := r.context.seek index }

/-- Opens a frame. -/
def push (r : Run) (rule : Rule) : Run := { r with context := r.context.push rule }

/-- Adds a line to the trace if there is to be one. -/
def note (r : Run) (verbose : Bool) (event : TraceEvent) : Run :=
  if verbose then { r with trace := .ofContext event r.context :: r.trace } else r

/-- Closes the innermost frame and hands it on. -/
def pop {α : Type} (r : Run) (next : Frame → Run → Outcome α) : Outcome α :=
  match r.context.pop with
  | .ok (frame, c) => next frame { r with context := c }
  | .error e => .aborted (.context e) r

/-- Keeps what a symbol has matched, unless the symbol is ignored. -/
def store {α : Type} (r : Run) (s : Symbol) (value : Tree) (next : Run → Outcome α) :
    Outcome α :=
  if s.ignored then next r
  else
    match r.context.store s.label value with
    | .ok c => next { r with context := c }
    | .error e => .aborted (.context e) r

end Run

/-- The further rounds of a repeatable symbol, each of which but the last takes a token at least,
so that `fuel`, the number of tokens left, bounds them. -/
def furtherRounds (attempt : Run → Outcome Tree) (s : Symbol) : Nat → Run → Outcome Unit
  | 0, r => .matched () r
  | fuel + 1, r =>
    match attempt r with
    | .matched value r' =>
      r'.store s value fun r'' =>
        if r''.index = r.index then .matched () r'' else furtherRounds attempt s fuel r''
    | .failed r' => .matched () r'
    | .aborted e r' => .aborted e r'

/-- Matches a symbol as often as it asks for. -/
def matchSymbol (attempt : String → Run → Outcome Tree) (s : Symbol) (r : Run) : Outcome Unit :=
  if s.optional && r.context.atEnd then .matched () r
  else
    match attempt s.name r with
    | .matched value r' =>
      r'.store s value fun r'' =>
        if s.repeatable && r''.index ≠ r.index then
          furtherRounds (attempt s.name) s (r.context.tokens.size - r.index) r''
        else .matched () r''
    | .failed r' =>
      if s.optional then .matched () (r'.seek r.index) else .failed (r'.seek r.index)
    | .aborted e r' => .aborted e r'

/-- Matches symbols one after the other. -/
def matchSymbols (attempt : String → Run → Outcome Tree) : List Symbol → Run → Outcome Unit
  | [], r => .matched () r
  | s :: rest, r =>
    match matchSymbol attempt s r with
    | .matched () r' => matchSymbols attempt rest r'
    | other => other

/-- Matches the first of the alternatives that does. -/
def firstMatch (matchOne : Rule → Run → Outcome Tree) : List Rule → Run → Outcome Tree
  | [], r => .failed r
  | rule :: rest, r =>
    match matchOne rule r with
    | .failed r' => firstMatch matchOne rest r'
    | other => other

/-- Matches a token of the name's kind, or else an alternative of the name. -/
def attempt (g : Grammar) (matchOne : Rule → Run → Outcome Tree) (name : String) (r : Run) :
    Outcome Tree :=
  match r.context.tryToken name with
  | some (t, c) => .matched (.token t) { r with context := c }
  | none => firstMatch matchOne (g.alternativesOf name) r

/-- Matches one alternative while no more than a number of frames may be opened inside each
other. -/
def matchRule (g : Grammar) (verbose : Bool) : Nat → Rule → Run → Outcome Tree
  | 0, _, r => .aborted .tooDeep r
  | budget + 1, rule, r =>
    let entered := (r.push rule).note verbose (.enter rule)
    match matchSymbols (attempt g (matchRule g verbose budget)) rule.symbols entered with
    | .matched () r' =>
      r'.pop fun frame r'' => .matched frame.result (r''.note verbose (.succeed rule.name))
    | .failed r' =>
      ((r'.seek r.index).note verbose (.fail rule.name)).pop fun _ r'' => .failed r''
    | .aborted e r' => .aborted e r'

end OrderedGrammar
