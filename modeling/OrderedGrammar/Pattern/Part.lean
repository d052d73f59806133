import OrderedGrammar.Pattern.Basic

/-!
# Parts of a pattern

A pattern is read as a sequence of parts.  Alternatives are kept as sequences until all of them
have been read, for two things depend on how they look: what all of them start with is taken out in
front, and alternatives that are one character each become one set of characters.

## Main definitions

* `Part` : a part of a sequence.
* `Part.ofAlternatives` : the sequence that alternatives make.
-/

namespace OrderedGrammar.Pattern

/-- A part of a sequence. -/
inductive Part where
  /-- One character. -/
  | char (set : CharSet)
  /-- A condition on a place, and the sign that it was written with. -/
  | anchor (sign : Char) (anchor : Anchor)
  /-- A reference to a group. -/
  | again (index : Nat) (rule : CaseRule)
  /-- Anything else. -/
  | other (pattern : Pattern)
  deriving DecidableEq, Repr

namespace Part

/-- The pattern of a part. -/
def pattern : Part → Pattern
  | char set => .char set
  | anchor _ a => .anchor a
  | again index rule => .again index rule
  | other p => p

/-- Whether two parts are written alike.  Only the smallest parts are compared. -/
def alike : Part → Part → Bool
  | other _, _ => false
  | p, q => p == q

/-- The pattern of parts in a row. -/
def sequence (parts : List Part) : Pattern := ofSeq (parts.map pattern)

/-- What `first` and `others` all start with, and what is left of each behind that. -/
def splitCommon : List Part → List (List Part) → List Part × List (List Part)
  | [], others => ([], [] :: others)
  | p :: first, others =>
    if others.all fun q => q.head?.any p.alike then
      let (common, rest) := splitCommon first (others.map (·.tail))
      (p :: common, rest)
    else ([], (p :: first) :: others)

/-- The parts of the set that a sequence is, if it is one set of characters and no complement. -/
def items? : List Part → Option (List CharItem)
  | [char set] => set.items?
  | _ => none

/-- One of several sequences, each of which is the rest of an alternative. -/
def oneOf (rule : CaseRule) (rest : List (List Part)) : Part :=
  match rest.mapM items? with
  | some items => char (.union items.flatten.eraseDups false rule)
  | none => other (ofAlts (rest.map sequence))

/-- The sequence that alternatives make, of which there is one at least. -/
def ofAlternatives (rule : CaseRule) : List (List Part) → List Part
  | [] => []
  | [only] => only
  | first :: others =>
    let (common, rest) := splitCommon first others
    common ++ [oneOf rule rest]

end Part

end OrderedGrammar.Pattern
