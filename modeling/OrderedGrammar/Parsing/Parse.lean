import OrderedGrammar.Parsing.Match

/-!
# Parsing

A parse matches a whole sequence of tokens against the alternatives of a root: the first one that
matches and leaves no token over gives the tree.  If none does, the error names the furthest token
that any attempt has come to.

The nesting of rules is bounded by a limit that the caller sets, and besides by a ceiling that no
limit can lift: the interpreter's stack is made no deeper than a fixed number of frames.

## Main definitions

* `Grammar.matchRoot` : matches all tokens against the alternatives of a root, without the ceiling.
* `Grammar.parseTokens` : parses tokens of any kinds.
* `Grammar.parse` : splits a text into tokens and parses them.
-/

namespace OrderedGrammar

/-- Tokens cannot be parsed. -/
inductive ParseError where
  /-- No alternative of the root matches; the furthest index, and the token there. -/
  | rejected (index : Nat) (token : Option Token)
  /-- Rules nest deeper than the limit; the index at that moment, and the token there. -/
  | tooDeep (limit : Int) (index : Nat) (token : Option Token)
  /-- Rules nest deeper than any limit allows; the index at that moment, and the token there. -/
  | exhausted (index : Nat) (token : Option Token)
  | context (error : ContextError)

/-- The words for an error. -/
def ParseError.message : ParseError → String
  | .rejected index none =>
    "Input cannot be parsed: unexpected end of input after token #" ++ toString index
  | .rejected index (some t) =>
    "Input cannot be parsed near token #" ++ toString index ++ " " ++ t.kind ++ " " ++
      Text.quoted t.text
  | .tooDeep limit _ _ => "Maximum nesting depth of " ++ toString limit ++ " rules exceeded"
  | .exhausted index _ => "Maximum nesting depth exceeded near token #" ++ toString index
  | .context e => e.message

/-- A request to parse fails. -/
inductive ParseFailure where
  | grammar (error : GrammarError)
  | scan (error : ScanError)
  | parse (error : ParseError)

/-- How to parse. -/
structure ParseOptions where
  /-- How many rules may nest. -/
  maxDepth : Int := 1000
  /-- Whether a trace is kept. -/
  verbose : Bool := false

namespace Grammar

/-- The frames of the interpreter that a nested rule takes: for the rule, for a symbol of it, and
for the attempt at what the symbol names. -/
def framesPerRule : Nat := 3

/-- The frames to which the interpreter's stack is deepened at most. -/
def recursionCeiling : Nat := 10000

/-- The frames that are left to the caller of a parse. -/
def reservedFrames : Nat := 100

/-- The number of nested rules that is never exceeded, whatever the limit. -/
def depthCeiling : Nat := (recursionCeiling - reservedFrames) / framesPerRule

/-- A tree as the result of a parse: a root that has handed on a value gets a node on top. -/
def rootNode (root : String) : Tree → Node
  | .node name fields => ⟨name, fields⟩
  | value => ⟨root, [(root, value)]⟩

/-- The rejection at the furthest index of a parse. -/
def rejection (c : Context) : ParseError := .rejected c.best (c.tokenAt c.best)

/-- Matches all tokens against the first alternative of the root that does.  An abort leaves the
state that it happened in. -/
def matchRoot (g : Grammar) (verbose : Bool) (budget : Nat) (root : String) :
    List Rule → Run → Except (Option Abort) Node × Run
  | [], r => (.error none, r)
  | rule :: rest, r =>
    match matchRule g verbose budget rule (r.seek 0) with
    | .matched value r' =>
      if r'.context.atEnd then (.ok (rootNode root value), r'.note verbose (.accept rule))
      else matchRoot g verbose budget root rest r'
    | .failed r' => matchRoot g verbose budget root rest r'
    | .aborted e r' => (.error (some e), r')

/-- Matches all tokens against a kind of token. -/
def matchToken (kind : String) (c : Context) : Except ParseError Node :=
  match c.tryToken kind with
  | none => .error (rejection c)
  | some (t, c') => if c'.atEnd then .ok ⟨kind, [(kind, .token t)]⟩ else .error (rejection c')

/-- The error of a parse that was given up, `limit` being the one that the caller set. -/
def abortError (limit : Int) (c : Context) : Abort → ParseError
  | .tooDeep =>
    if limit ≤ depthCeiling then .tooDeep limit c.index c.peek else .exhausted c.index c.peek
  | .context e => .context e

/-- Parses tokens, and returns the trace with the result. -/
def parseTokens (g : Grammar) (root : String) (tokens : Array Token) (options : ParseOptions) :
    Except ParseFailure Node × List TraceLine :=
  match g.alternativesOf root with
  | [] =>
    if g.isTokenKind root then
      ((matchToken root (.start tokens)).mapError .parse, [])
    else (.error (.grammar (.unknownRoot root)), [])
  | rules =>
    let budget := min options.maxDepth.toNat depthCeiling
    let (result, r) := g.matchRoot options.verbose budget root rules (.start tokens)
    let result := result.mapError fun
      | none => .parse (rejection r.context)
      | some abort => .parse (abortError options.maxDepth r.context abort)
    (result, r.trace.reverse)

/-- Parses a text, and returns the trace with the result. -/
def parse (g : Grammar) (root text : String) (options : ParseOptions) :
    Except ParseFailure Node × List TraceLine :=
  if g.hasRule root then
    match g.tokenize text with
    | .ok tokens => g.parseTokens root tokens.toArray options
    | .error e => (.error (.scan e), [])
  else (.error (.grammar (.unknownRoot root)), [])

end Grammar

end OrderedGrammar
