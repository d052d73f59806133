import OrderedGrammar.Pattern.CharSet
import OrderedGrammar.Pattern.Source
import OrderedGrammar.Text.Letter

/-!
# Flags

Flags decide how the text of a pattern is read and what it means: whether case counts, whether
anchors know of lines, whether a dot holds the newline, whether blanks and comments are left out,
and whether classes are confined to ASCII.  A group can turn them on and off for what it holds.

## Main definitions

* `Flags` : what the flags decide in a group.
* `FlagChange.read` : reads the flags that a group turns on and off.
-/

namespace OrderedGrammar.Pattern

/-- What the flags decide. -/
structure Flags where
  caseless : Bool
  multiline : Bool
  dotAll : Bool
  verbose : Bool
  ascii : Bool
  deriving DecidableEq, Repr

/-- A flag that can be written. -/
inductive Flag where
  | caseless
  | multiline
  | dotAll
  | verbose
  | ascii
  | unicode
  /-- The alphabet of the locale, which no text has. -/
  | locale
  /-- A flag for the whole pattern, of no effect. -/
  | template
  deriving DecidableEq, Repr

namespace Flag

/-- The flag of a letter. -/
def ofLetter? : Char → Option Flag
  | 'i' => some caseless
  | 'm' => some multiline
  | 's' => some dotAll
  | 'x' => some verbose
  | 'a' => some ascii
  | 'u' => some unicode
  | 'L' => some locale
  | 't' => some template
  | _ => none

/-- Whether the flag is one of those that choose an alphabet, of which one at most is in force. -/
def isAlphabet : Flag → Bool
  | ascii | unicode | locale => true
  | _ => false

end Flag

/-- The flags that a group turns on, and those that it turns off. -/
structure FlagChange where
  on : List Flag
  off : List Flag
  deriving DecidableEq, Repr

namespace Flags

/-- How far case counts. -/
def caseRule (f : Flags) : CaseRule :=
  if f.caseless then if f.ascii then .ascii else .full else .strict

/-- The flags after a change. -/
def change (f : Flags) (c : FlagChange) : Flags where
  caseless := (f.caseless || c.on.contains .caseless) && !c.off.contains .caseless
  multiline := (f.multiline || c.on.contains .multiline) && !c.off.contains .multiline
  dotAll := (f.dotAll || c.on.contains .dotAll) && !c.off.contains .dotAll
  verbose := (f.verbose || c.on.contains .verbose) && !c.off.contains .verbose
  ascii := (f.ascii && !c.on.contains .unicode) || c.on.contains .ascii

end Flags

namespace FlagChange

/-- Reads the flags that are turned off, up to the colon, after at least one of them if `any`. -/
def readOff (off : List Flag) (any : Bool) (position : Nat) :
    List Char → Reading (List Flag × Source)
  | [] => refuse (if any then .missingColon else .missingFlag) position
  | c :: rest =>
    if any && c == ':' then .ok (off, ⟨rest, position + 1⟩)
    else match Flag.ofLetter? c with
      | some flag =>
        if flag.isAlphabet then refuse .alphabetTurnedOff (position + 1)
        else readOff (flag :: off) true (position + 1) rest
      | none =>
        refuse
          (if Text.isLetter c then .unknownFlag else if any then .missingColon else .missingFlag)
          position

/-- Reads the flags that are turned on, up to the character that ends them. -/
def readOn (on : List Flag) (position : Nat) :
    List Char → Reading (List Flag × Char × Source)
  | [] => refuse .missingFlagEnd position
  | c :: rest =>
    if c == ')' || c == ':' || c == '-' then .ok (on, c, ⟨rest, position + 1⟩)
    else match Flag.ofLetter? c with
      | some flag =>
        if flag == .locale then refuse .localeFlag (position + 1)
        else if flag.isAlphabet && on.any (fun f => f.isAlphabet && f != flag) then
          refuse .mixedAlphabets (position + 1)
        else readOn (flag :: on) (position + 1) rest
      | none => refuse (if Text.isLetter c then .unknownFlag else .missingFlagEnd) position

/-- Reads the flags that a group turns on and off, and tells whether they are for a group, and not
for the whole pattern. -/
def read (s : Source) : Reading (FlagChange × Bool × Source) := do
  let (on, stop, s₁) ← readOn [] s.position s.rest
  if stop == ')' then return (⟨on, []⟩, false, s₁)
  else if on.contains .template then refuse .globalTurnedOn (s₁.position - 1)
  else
    let (off, s₂) ← if stop == '-' then readOff [] false s₁.position s₁.rest else .ok ([], s₁)
    if off.contains .template then refuse .globalTurnedOff (s₂.position - 1)
    else if on.any off.contains then refuse .contradictoryFlags (s₂.position - 1)
    else return (⟨on, off⟩, true, s₂)

end FlagChange

end OrderedGrammar.Pattern
