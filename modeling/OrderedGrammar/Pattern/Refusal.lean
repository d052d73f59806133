import OrderedGrammar.Text.Quoted

/-!
# Why a text is no pattern

The faults that reading a pattern can find, and the words for them.  A message ends with the
position of the fault, and with its line and column too if the pattern has several lines.
-/

namespace OrderedGrammar.Pattern

/-- What is wrong with the text of a pattern. -/
inductive Fault where
  | unclosedGroup
  | unopenedGroup
  | unclosedSet
  | unclosedComment
  | nothingToRepeat
  | repeatedTwice
  | leastAboveMost
  | reversedRange (first last : String)
  | unknownExtension (text : String)
  | unexpectedEnd
  | badEscape (text : String)
  | incompleteEscape (text : String)
  | octalTooLarge (text : String)
  | noSuchGroup (index : Nat)
  | openGroup
  | groupOfLookbehind
  /-- More repetitions are asked for than can be counted. -/
  | countTooLarge
  /-- A name is missing, of what `noun` tells. -/
  | missingName (noun : String)
  | unclosedName (terminator : Char)
  | missingBrace
  | unknownCharacter (name : String)
  | zeroGroup
  | threeBranches
  | badName (name : String)
  | unknownName (name : String)
  | nameTaken (name : String) (index earlier : Nat)
  | lateFlags
  | unknownFlag
  | missingFlag
  | missingFlagEnd
  | missingColon
  | contradictoryFlags
  /-- Locales are not for texts. -/
  | localeFlag
  /-- Flags for different alphabets come together. -/
  | mixedAlphabets
  | alphabetTurnedOff
  | globalTurnedOn
  | globalTurnedOff
  | variableLookbehind
  | farLookbehind
  deriving DecidableEq, Repr

/-- The words for a fault. -/
def Fault.message : Fault → String
  | .unclosedGroup => "missing ), unterminated subpattern"
  | .unopenedGroup => "unbalanced parenthesis"
  | .unclosedSet => "unterminated character set"
  | .unclosedComment => "missing ), unterminated comment"
  | .nothingToRepeat => "nothing to repeat"
  | .repeatedTwice => "multiple repeat"
  | .leastAboveMost => "min repeat greater than max repeat"
  | .reversedRange first last => "bad character range " ++ first ++ "-" ++ last
  | .unknownExtension text => "unknown extension " ++ text
  | .unexpectedEnd => "unexpected end of pattern"
  | .badEscape text => "bad escape " ++ text
  | .incompleteEscape text => "incomplete escape " ++ text
  | .octalTooLarge text => "octal escape value " ++ text ++ " outside of range 0-0o377"
  | .noSuchGroup index => "invalid group reference " ++ toString index
  | .openGroup => "cannot refer to an open group"
  | .groupOfLookbehind => "cannot refer to group defined in the same lookbehind subpattern"
  | .countTooLarge => "the repetition number is too large"
  | .missingName noun => "missing " ++ noun
  | .unclosedName terminator => "missing " ++ terminator.toString ++ ", unterminated name"
  | .missingBrace => "missing \x7b"
  | .unknownCharacter name => "undefined character name " ++ Text.quoted name
  | .zeroGroup => "bad group number"
  | .threeBranches => "conditional backref with more than two branches"
  | .badName name => "bad character in group name " ++ Text.quoted name
  | .unknownName name => "unknown group name " ++ Text.quoted name
  | .nameTaken name index earlier =>
    "redefinition of group name " ++ Text.quoted name ++ " as group " ++ toString index ++
      "; was group " ++ toString earlier
  | .lateFlags => "global flags not at the start of the expression"
  | .unknownFlag => "unknown flag"
  | .missingFlag => "missing flag"
  | .missingFlagEnd => "missing -, : or )"
  | .missingColon => "missing :"
  | .contradictoryFlags => "bad inline flags: flag turned on and off"
  | .localeFlag => "bad inline flags: cannot use 'L' flag with a str pattern"
  | .mixedAlphabets => "bad inline flags: flags 'a', 'u' and 'L' are incompatible"
  | .alphabetTurnedOff => "bad inline flags: cannot turn off flags 'a', 'u' and 'L'"
  | .globalTurnedOn => "bad inline flags: cannot turn on global flag"
  | .globalTurnedOff => "bad inline flags: cannot turn off global flag"
  | .farLookbehind => "looks too much behind"
  | .variableLookbehind => "look-behind requires fixed-width pattern"

/-- A text that is no pattern: the fault in it, and where it is if it is in one place. -/
structure Refusal where
  fault : Fault
  position : Option Nat
  text : List Char
  deriving DecidableEq, Repr

/-- The line and the column of a position, both counted from one. -/
def lineAndColumn (text : List Char) (position : Nat) : Nat × Nat :=
  let before := text.take position
  (before.count '\n' + 1, (before.reverse.takeWhile (· != '\n')).length + 1)

/-- The words for a refusal. -/
def Refusal.message (r : Refusal) : String :=
  match r.position with
  | none => r.fault.message
  | some position =>
    let (line, column) := lineAndColumn r.text position
    r.fault.message ++ " at position " ++ toString position ++
      if r.text.contains '\n' then
        " (line " ++ toString line ++ ", column " ++ toString column ++ ")"
      else ""

end OrderedGrammar.Pattern
