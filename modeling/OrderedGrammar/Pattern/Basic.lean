import OrderedGrammar.Pattern.CharSet

/-!
# Patterns

The regular expressions that token kinds are defined by.  All that flags decide (how far case
counts, what a dot holds, where a line starts) is decided in the pattern itself, so that its
meaning depends on nothing else.
-/

namespace OrderedGrammar

namespace Pattern

/-- A condition on the place between two characters. -/
inductive Anchor where
  /-- The start of the text. -/
  | start
  /-- The start of a line. -/
  | lineStart
  /-- The end of the text. -/
  | stop
  /-- The end of the text, or the place before a newline that ends it. -/
  | lastLine
  /-- The end of a line. -/
  | lineStop
  /-- A word character, of ASCII only if `ascii`, on one side only. -/
  | wordEdge (ascii : Bool)
  /-- Word characters on both sides or on neither. -/
  | notWordEdge (ascii : Bool)
  deriving DecidableEq, Repr

/-- How few and how many characters a pattern can match, `none` being without bound. -/
structure Width where
  least : Nat
  most : Option Nat
  deriving DecidableEq, Repr

namespace Width

/-- The width of what always has `n` characters. -/
def exactly (n : Nat) : Width := ⟨n, some n⟩

/-- The width of one match followed by another. -/
def followedBy (a b : Width) : Width :=
  ⟨a.least + b.least, a.most.bind fun m => b.most.map (m + ·)⟩

/-- The width of either of two matches. -/
def either (a b : Width) : Width :=
  ⟨min a.least b.least, a.most.bind fun m => b.most.map (max m ·)⟩

/-- The width of `least` to `most` matches in a row. -/
def times (a : Width) (least : Nat) (most : Option Nat) : Width :=
  ⟨least * a.least,
    if a.most = some 0 ∨ most = some 0 then some 0
    else a.most.bind fun m => most.map (m * ·)⟩

/-- The number of characters, when it is always the same. -/
def fixed? (a : Width) : Option Nat := if a.most = some a.least then some a.least else none

end Width

end Pattern

/-- A regular expression. -/
inductive Pattern where
  /-- Matches the empty text. -/
  | empty
  /-- Matches one character of the set. -/
  | char (set : Pattern.CharSet)
  /-- Matches `first`, then `second`. -/
  | seq (first second : Pattern)
  /-- Matches `first`, or else `second`. -/
  | alt (first second : Pattern)
  /-- Matches `body` between `least` and `most` times, as often or as rarely as it can. -/
  | loop (least : Nat) (most : Option Nat) (greedy : Bool) (body : Pattern)
  /-- Matches `body` and keeps what it matched as group number `index`. -/
  | group (index : Nat) (body : Pattern)
  /-- Matches once more what group number `index` matched. -/
  | again (index : Nat) (rule : Pattern.CaseRule)
  /-- Matches `yes` if group number `index` has matched, and `no` if it has not. -/
  | given (index : Nat) (yes no : Pattern)
  /-- Matches the empty text where the condition holds. -/
  | anchor (anchor : Pattern.Anchor)
  /-- Matches the empty text where `body` matches, or where it does not when negated: from the
  place itself, or from as many characters back as `behind` says. -/
  | look (behind : Option Nat) (negated : Bool) (body : Pattern)
  /-- Matches `body` in the first way it finds and in no other. -/
  | once (body : Pattern)
  deriving DecidableEq, Repr

namespace Pattern

/-- One pattern after the other. -/
def ofSeq : List Pattern → Pattern
  | [] => .empty
  | [p] => p
  | p :: ps => .seq p (ofSeq ps)

/-- One of several patterns, the first choice first. -/
def ofAlts : List Pattern → Pattern
  | [] => .empty
  | [p] => p
  | p :: ps => .alt p (ofAlts ps)

/-- The width of a pattern, given the widths of the groups. -/
def width (groups : Nat → Width) : Pattern → Width
  | .empty => .exactly 0
  | .char _ => .exactly 1
  | .seq p q => (p.width groups).followedBy (q.width groups)
  | .alt p q => (p.width groups).either (q.width groups)
  | .loop least most _ p => (p.width groups).times least most
  | .group _ p => p.width groups
  | .again i _ => groups i
  | .given _ p q => (p.width groups).either (q.width groups)
  | .anchor _ => .exactly 0
  | .look _ _ _ => .exactly 0
  | .once p => p.width groups

/-- Whether the pattern keeps a group under the number `index`. -/
def keeps (index : Nat) : Pattern → Bool
  | .group i p => i == index || p.keeps index
  | .seq p q | .alt p q | .given _ p q => p.keeps index || q.keeps index
  | .loop _ _ _ p | .look _ _ p | .once p => p.keeps index
  | .empty | .char _ | .again _ _ | .anchor _ => false

end Pattern

end OrderedGrammar
