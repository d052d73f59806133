import OrderedGrammar.Pattern.SetReader
import OrderedGrammar.Text.Identifier

/-!
# Reading a pattern

`Pattern.read` turns a text into the pattern that it writes.  The reader goes through the text
once, from left to right.  It keeps the group that it is in with the groups around that one, and
each step reads one construct: a character, an escape, a set, a loop's bounds, or the start or the
end of a group or of an alternative.

A group that serves for nothing but its bounds leaves no trace: once the sequence that it stands in
is complete, its parts stand there in its place.

## Main definitions

* `Reader.step` : reads one construct.
* `Pattern.read` : the pattern that a text writes.
-/

namespace OrderedGrammar.Pattern

/-! ### Loops -/

/-- The first number of repetitions that is too large. -/
def countLimit : Nat := 0xFFFFFFFF

/-- Reads a loop's bounds, `s` being what follows the character `c`; `none` when a brace starts no
bounds and so stands for itself. -/
def readBounds (c : Char) (s : Source) : Reading (Option (Nat × Option Nat × Source)) :=
  match c with
  | '?' => .ok (some (0, some 1, s))
  | '*' => .ok (some (0, none, s))
  | '+' => .ok (some (1, none, s))
  | _ =>
    let (low, s₁) := s.takeWhile Char.isDigit
    let (comma, s₂) := match s₁.rest with
      | ',' :: _ => (true, s₁.drop 1)
      | _ => (false, s₁)
    let (high, s₃) := if comma then s₂.takeWhile Char.isDigit else (low, s₂)
    match s₃.rest with
    | '}' :: _ =>
      if s.rest.head? = some '}' then .ok none
      else
        let least := numeral 10 low
        let most := if high.isEmpty then none else some (numeral 10 high)
        if countLimit ≤ least || most.any (countLimit ≤ ·) then .error (.countTooLarge, none)
        else if most.any (· < least) then refuse .leastAboveMost s.position
        else .ok (some (least, most, s₃.drop 1))
    | _ => .ok none

/-! ### Groups -/

/-- How a group was opened. -/
inductive Opener where
  /-- The pattern itself. -/
  | whole
  /-- A group for nothing but its bounds. -/
  | plain
  /-- A group that changes flags. -/
  | flagged
  /-- A group that is kept under a number. -/
  | kept (index : Nat)
  /-- A condition on what lies ahead or behind, with the mark that was set around it. -/
  | look (behind negated : Bool) (mark : Option Nat)
  /-- A group that matches in one way only. -/
  | once
  /-- What to match if a group has matched, and what if not. -/
  | given (index : Nat)
  deriving DecidableEq, Repr

/-- What a loop's bounds can be put behind. -/
inductive Role where
  | atom
  | anchor
  | loop
  deriving DecidableEq, Repr

/-- What one construct of a sequence has added to it. -/
structure Item where
  parts : List Part
  role : Role

/-- A group that is being read; its alternatives and the items of the last one come latest
first. -/
structure Level where
  opener : Opener
  position : Nat
  flags : Flags
  alternatives : List (List Part)
  items : List Item

namespace Level

/-- A group that nothing has been read of. -/
def empty (opener : Opener) (position : Nat) (flags : Flags) : Level :=
  ⟨opener, position, flags, [], []⟩

/-- The last alternative. -/
def sequence (l : Level) : List Part := l.items.reverse.flatMap (·.parts)

/-- Goes on to the next alternative. -/
def nextAlternative (l : Level) : Level :=
  { l with alternatives := l.sequence :: l.alternatives, items := [] }

/-- The parts that the group holds. -/
def parts (l : Level) : List Part :=
  Part.ofAlternatives l.flags.caseRule (l.sequence :: l.alternatives).reverse

/-- What the group holds when the group `index` decides between its alternatives. -/
def choice (l : Level) (index : Nat) : Pattern :=
  match l.alternatives with
  | [] => .given index (Part.sequence l.sequence) .empty
  | yes :: _ => .given index (Part.sequence yes) (Part.sequence l.sequence)

/-- Adds an item to the last alternative. -/
def push (l : Level) (parts : List Part) (role : Role) : Level :=
  { l with items := ⟨parts, role⟩ :: l.items }

end Level

/-- A reader: the group it is in, the groups around it, the number of the last group it has
opened, and what is known of the groups it has closed.  The mark is the number of the first group
of the condition on what lies behind that is being read. -/
structure Reader where
  current : Level
  outer : List Level
  groups : Nat
  widths : List (Nat × Width)
  names : List (String × Nat)
  mark : Option Nat
  /-- The groups that conditions name by number and where they do, latest first. -/
  conditions : List (Nat × Nat)
  /-- The first condition on what lies behind that cannot be met, and why. -/
  badLookbehind : Option (Nat × Fault)

namespace Reader

/-- A reader of a whole pattern. -/
def start (flags : Flags) : Reader where
  current := .empty .whole 0 flags
  outer := []
  groups := 0
  widths := []
  names := []
  mark := none
  conditions := []
  badLookbehind := none

/-- The flags in force. -/
def flags (r : Reader) : Flags := r.current.flags

/-- The width of a closed group. -/
def widthOf (r : Reader) (index : Nat) : Width := (r.widths.lookup index).getD (.exactly 0)

/-- Adds one part to the present group. -/
def push (r : Reader) (part : Part) (role : Role) : Reader :=
  { r with current := r.current.push [part] role }

/-- Adds a character to the present group. -/
def pushChar (r : Reader) (n : Nat) : Reader :=
  r.push (.char (.single n false r.flags.caseRule)) .atom

/-- Adds a pattern to the present group. -/
def pushPattern (r : Reader) (p : Pattern) : Reader := r.push (.other p) .atom

/-- Opens a group in the present one. -/
def enter (r : Reader) (opener : Opener) (position : Nat) (flags : Flags) : Reader :=
  { r with current := .empty opener position flags, outer := r.current :: r.outer }

/-- Opens a group that is kept under the next number. -/
def enterKept (r : Reader) (position : Nat) : Reader :=
  { r.enter (.kept (r.groups + 1)) position r.flags with groups := r.groups + 1 }

/-- Opens a condition on what lies behind or ahead. -/
def enterLook (r : Reader) (behind negated : Bool) (position : Nat) : Reader :=
  { r.enter (.look behind negated r.mark) position r.flags with
    mark := if behind then r.mark <|> some (r.groups + 1) else r.mark }

/-- Why a condition on what lies behind cannot be met, if so: how far it reaches back has to be
fixed, and within what can be counted. -/
def lookbehindFault? (width : Width) : Option Fault :=
  if countLimit < width.least then some .farLookbehind
  else if width.fixed?.isNone then some .variableLookbehind
  else none

/-- Of two faults, each at its place, the one that comes first. -/
def firstFault : Option (Nat × Fault) → Option (Nat × Fault) → Option (Nat × Fault)
  | some a, some b => some (if b.1 < a.1 then b else a)
  | a, b => a <|> b

/-- Closes the present group, `parent` and `outer` being those around it. -/
def leave (r : Reader) (parent : Level) (outer : List Level) : Reader :=
  let parts := r.current.parts
  let body := Part.sequence parts
  let r' := { r with current := parent, outer := outer }
  match r.current.opener with
  | .whole | .plain => { r' with current := parent.push parts .atom }
  | .flagged => r'.pushPattern body
  | .once => r'.pushPattern (.once body)
  | .given index => r'.pushPattern (r.current.choice index)
  | .kept index =>
    { r'.pushPattern (.group index body) with
      widths := (index, body.width r.widthOf) :: r.widths }
  | .look false negated _ => r'.pushPattern (.look none negated body)
  | .look true negated mark =>
    let width := body.width r.widthOf
    { r'.pushPattern (.look (some width.least) negated body) with
      mark := mark
      badLookbehind := firstFault r.badLookbehind
        ((lookbehindFault? width).map fun fault => (r.current.position, fault)) }

/-- Whether the group `index` has been closed. -/
def isClosed (r : Reader) (index : Nat) : Bool := (r.widths.lookup index).isSome

/-- Checks that a condition on what lies behind, if one is being read, may refer to the group
`index`; the reference stops at `stop`. -/
def checkMark (r : Reader) (index stop : Nat) : Reading Unit :=
  match r.mark with
  | none => .ok ()
  | some mark =>
    if !r.isClosed index then refuse .openGroup stop
    else if mark ≤ index then refuse .groupOfLookbehind stop
    else .ok ()

/-- Adds a reference to the group `index`, whose text starts at `start` and stops at `stop`. -/
def refer (r : Reader) (index start stop : Nat) : Reading Reader := do
  if !r.isClosed index then refuse .openGroup start
  r.checkMark index stop
  return r.push (.again index r.flags.caseRule) .atom

/-- Reads what a backslash and the digit `c` stand for outside sets. -/
def readNumberEscape (r : Reader) (c : Char) (s : Source) (start : Nat) :
    Reading (Reader × Source) :=
  -- three octal digits are a character's number, and fewer the number of a group
  let (second, s₁) := s.takeUpTo 1 Char.isDigit
  let (third, s₂) := s₁.takeUpTo 1 isOctal
  let octal := (c :: second ++ third)
  if c == '0' then do
    let (digits, s') := s.takeUpTo 2 isOctal
    let (n, s') ← readOctal (c :: digits) s' start
    return (r.pushChar n, s')
  else if octal.length == 3 && octal.all isOctal then do
    let (n, s') ← readOctal octal s₂ start
    return (r.pushChar n, s')
  else
    let index := numeral 10 (c :: second)
    if index ≤ r.groups then do return (← r.refer index start s₁.position, s₁)
    else refuse (.noSuchGroup index) (start + 1)

/-- Reads what a backslash and `c` stand for outside sets. -/
def readEscape (r : Reader) (c : Char) (s : Source) (start : Nat) : Reading (Reader × Source) :=
  match anchorEscape? r.flags.ascii c, classEscape? r.flags.ascii c with
  | some a, _ => .ok (r.push (.anchor c a) .anchor, s)
  | none, some item => .ok (r.push (.char (.union [item] false r.flags.caseRule)) .atom, s)
  | none, none =>
    if c.isDigit then r.readNumberEscape c s start
    else do
      let (n, s') ← readCharEscape c s start
      return (r.pushChar n, s')

/-- Puts the bounds that start with `c` behind the last item. -/
def readLoop (r : Reader) (c : Char) (s : Source) : Reading (Reader × Source) := do
  match ← readBounds c s with
  | none => return (r.pushChar c.toNat, s)
  | some (least, most, s₁) =>
    match r.current.items with
    | [] => refuse .nothingToRepeat (s.position - 1)
    | item :: items =>
      -- a group around an anchor or a loop is an atom again
      match item.role with
      | .anchor => refuse .nothingToRepeat (s.position - 1)
      | .loop => refuse .repeatedTwice (s.position - 1)
      | .atom =>
        let body := Part.sequence item.parts
        let (pattern, s₂) : Pattern × Source := match s₁.rest with
          | '?' :: _ => (.loop least most false body, s₁.drop 1)
          | '+' :: _ => (.once (.loop least most true body), s₁.drop 1)
          | _ => (.loop least most true body, s₁)
        let current := { r.current with items := ⟨[.other pattern], .loop⟩ :: items }
        return ({ r with current }, s₂)

/-- Reads the name of a group up to the terminator. -/
def readGroupName (s : Source) (terminator : Char) : Reading (String × Source) := do
  let (name, s') ← s.readName terminator "group name"
  if Text.isIdentifier name then return (String.ofList name, s')
  else refuse (.badName (String.ofList name)) s.position

/-- Opens a group that is kept under a name, or refers to one. -/
def readNamed (r : Reader) (s : Source) (opening : Nat) : Reading (Reader × Source) :=
  match s.unit? with
  | none => refuse .unexpectedEnd s.position
  | some (['<'], s₁) => do
    let (name, s₂) ← readGroupName s₁ '>'
    match r.names.lookup name with
    | some earlier => refuse (.nameTaken name (r.groups + 1) earlier) s₁.position
    | none =>
      return ({ r.enterKept opening with names := (name, r.groups + 1) :: r.names }, s₂)
  | some (['='], s₁) => do
    let (name, s₂) ← readGroupName s₁ ')'
    match r.names.lookup name with
    | none => refuse (.unknownName name) s₁.position
    | some index => return (← r.refer index s₁.position s₂.position, s₂)
  | some (unit, _) => refuse (.unknownExtension ("?P" ++ String.ofList unit)) (opening + 1)

/-- Opens a condition on what lies behind. -/
def readLookbehind (r : Reader) (s : Source) (opening : Nat) : Reading (Reader × Source) :=
  match s.unit? with
  | none => refuse .unexpectedEnd s.position
  | some (['='], s₁) => .ok (r.enterLook true false opening, s₁)
  | some (['!'], s₁) => .ok (r.enterLook true true opening, s₁)
  | some (unit, _) => refuse (.unknownExtension ("?<" ++ String.ofList unit)) (opening + 1)

/-- The first group number that is too large. -/
def groupLimit : Nat := 0x3FFFFFFF

/-- The number that a text writes, with whitespace around it or not. -/
def groupNumber? (text : List Char) : Option Int :=
  let blank (c : Char) : Bool := Text.isSpace c && !(0x1C ≤ c.toNat && c.toNat ≤ 0x1F)
  Text.groupedInteger? ((text.dropWhile blank).reverse.dropWhile blank).reverse

/-- Opens a group that depends on whether the group has matched that it names, by name or by
number.  A number may be that of a group that comes later. -/
def readCondition (r : Reader) (s : Source) (opening : Nat) : Reading (Reader × Source) := do
  let (name, s₁) ← s.readName ')' "group name"
  let text := String.ofList name
  let (index, conditions) ←
    if Text.isIdentifier name then
      match r.names.lookup text with
      | some index => .ok (index, r.conditions)
      | none => refuse (.unknownName text) s.position
    else match groupNumber? name with
      | some (.ofNat index) =>
        if index = 0 then refuse .zeroGroup s.position
        else if groupLimit ≤ index then refuse (.noSuchGroup index) s.position
        else if (r.conditions.lookup index).isSome then .ok (index, r.conditions)
        else .ok (index, (index, s.position) :: r.conditions)
      | _ => refuse (.badName text) s.position
  r.checkMark index s₁.position
  return ({ r.enter (.given index) opening r.flags with conditions }, s₁)

/-- Leaves out a comment. -/
def readComment (r : Reader) (s : Source) (opening : Nat) : Reading (Reader × Source) :=
  match s.takeUntil? ')' with
  | none => refuse .unclosedComment opening
  | some (_, s') => .ok (r, s')

/-- Leaves out the rest of a line. -/
def skipLine (s : Source) : Source :=
  match s.takeUntil? '\n' with
  | none => s.drop s.rest.length
  | some (_, s') => s'

/-- Reads flags, and opens the group that they are for.  Flags for the whole pattern stand at its
start only. -/
def readFlags (r : Reader) (s : Source) (opening : Nat) : Reading (Reader × Source) := do
  let (change, grouped, s') ← FlagChange.read s
  let flags := r.flags.change change
  if grouped then return (r.enter .flagged opening flags, s')
  else if r.outer.isEmpty && r.current.alternatives.isEmpty && r.current.items.isEmpty then
    return ({ r with current := { r.current with flags } }, s')
  else refuse .lateFlags opening

/-- Reads the start of a group whose parenthesis stands at `opening`. -/
def readGroup (r : Reader) (s : Source) (opening : Nat) : Reading (Reader × Source) :=
  match s.rest with
  | '?' :: _ =>
    let s₁ := s.drop 1
    match s₁.unit? with
    | none => refuse .unexpectedEnd s₁.position
    | some (['P'], s₂) => r.readNamed s₂ opening
    | some ([':'], s₂) => .ok (r.enter .plain opening r.flags, s₂)
    | some (['#'], s₂) => r.readComment s₂ opening
    | some (['='], s₂) => .ok (r.enterLook false false opening, s₂)
    | some (['!'], s₂) => .ok (r.enterLook false true opening, s₂)
    | some (['<'], s₂) => r.readLookbehind s₂ opening
    | some (['('], s₂) => r.readCondition s₂ opening
    | some (['>'], s₂) => .ok (r.enter .once opening r.flags, s₂)
    | some ([c], _) =>
      if c == '-' || (Flag.ofLetter? c).isSome then r.readFlags s₁ opening
      else refuse (.unknownExtension ("?" ++ c.toString)) (opening + 1)
    | some (unit, _) => refuse (.unknownExtension ("?" ++ String.ofList unit)) (opening + 1)
  | _ => .ok (r.enterKept opening, s)

/-- Goes on to the next alternative, the sign of which stands at `position`. -/
def readBar (r : Reader) (position : Nat) : Reading Reader :=
  match r.current.opener, r.current.alternatives with
  | .given _, _ :: _ => refuse .threeBranches position
  | _, _ => .ok { r with current := r.current.nextAlternative }

/-- Whether `c` is left out where blanks and comments are. -/
def isBlank (c : Char) : Bool := c == ' ' || ('\t' ≤ c && c ≤ '\r')

/-- Reads one construct that starts with `c`, `s` being what follows it. -/
def step (r : Reader) (c : Char) (s : Source) : Reading (Reader × Source) :=
  let here := s.position - 1
  if r.flags.verbose && isBlank c then .ok (r, s)
  else if r.flags.verbose && c == '#' then .ok (r, skipLine s)
  else match c with
  | '\\' =>
    match s.rest with
    | [] => refuse (.badEscape "(end of pattern)") here
    | c :: _ => r.readEscape c (s.drop 1) here
  | '|' => do return (← r.readBar here, s)
  | '(' => r.readGroup s here
  | ')' =>
    match r.outer with
    | [] => refuse .unopenedGroup here
    | parent :: outer => .ok (r.leave parent outer, s)
  | '[' => do
    let (set, s') ← readSet r.flags s here
    return (r.push (.char set) .atom, s')
  | '*' | '+' | '?' | '{' => r.readLoop c s
  | '.' => .ok (r.push (.char (if r.flags.dotAll then .all else .notNewline)) .atom, s)
  | '^' => .ok (r.push (.anchor c (if r.flags.multiline then .lineStart else .start)) .anchor, s)
  | '$' => .ok (r.push (.anchor c (if r.flags.multiline then .lineStop else .lastLine)) .anchor, s)
  | _ => .ok (r.pushChar c.toNat, s)

/-- Reads one construct after the other.  Each takes a character at least, so that as many steps
as there are characters are enough. -/
def steps : Nat → Reader → Source → Reading Reader
  | 0, r, _ => .ok r
  | fuel + 1, r, s =>
    match s.rest with
    | [] => .ok r
    | c :: _ => do
      let (r', s') ← r.step c (s.drop 1)
      steps fuel r' s'

/-- The pattern that has been read, once the text has come to its end. -/
def finish (r : Reader) : Reading Pattern :=
  if r.outer.isEmpty then
    match r.conditions.reverse.find? fun condition => r.groups < condition.1, r.badLookbehind with
    | some (index, position), _ => refuse (.noSuchGroup index) position
    | none, some (_, fault) => .error (fault, none)
    | none, none => .ok (Part.sequence r.current.parts)
  else refuse .unclosedGroup r.current.position

end Reader

/-- Reads the pattern that a text writes. -/
def read (caseless : Bool) (text : List Char) : Except Refusal Pattern :=
  let flags : Flags := ⟨caseless, false, false, false, false⟩
  match (Reader.start flags).steps text.length ⟨text, 0⟩ >>= Reader.finish with
  | .ok p => .ok p
  | .error (fault, position) => .error ⟨fault, position, text⟩

end OrderedGrammar.Pattern
