import OrderedGrammar.Pattern.Flags
import OrderedGrammar.Pattern.Part
import OrderedGrammar.Text.CharName

/-!
# Escapes

What a backslash and the characters behind it stand for: a character by its number or its name, a
control character, a class of characters or a condition on a place.
-/

namespace OrderedGrammar.Pattern

/-- How many hexadecimal digits the escape of a letter takes. -/
def hexEscapeLength? : Char → Option Nat
  | 'x' => some 2
  | 'u' => some 4
  | 'U' => some 8
  | _ => none

/-- The code point of a control character's escape. -/
def controlEscape? : Char → Option Nat
  | 'a' => some 0x7
  | 'b' => some 0x8
  | 't' => some 0x9
  | 'n' => some 0xA
  | 'v' => some 0xB
  | 'f' => some 0xC
  | 'r' => some 0xD
  | _ => none

/-- The class of characters that a letter's escape stands for, confined to ASCII or not. -/
def classEscape? (ascii : Bool) : Char → Option CharItem
  | 'd' => some (.named .digit ascii false)
  | 'D' => some (.named .digit ascii true)
  | 's' => some (.named .space ascii false)
  | 'S' => some (.named .space ascii true)
  | 'w' => some (.named .word ascii false)
  | 'W' => some (.named .word ascii true)
  | _ => none

/-- The condition that a letter's escape stands for. -/
def anchorEscape? (ascii : Bool) : Char → Option Anchor
  | 'A' => some .start
  | 'b' => some (.wordEdge ascii)
  | 'B' => some (.notWordEdge ascii)
  | 'Z' => some .stop
  | _ => none

/-- The code point of an escape by number, `s` being what follows its letter. -/
def readHexEscape (letter : Char) (length : Nat) (s : Source) (start : Nat) :
    Reading (Nat × Source) :=
  let (digits, s') := s.takeUpTo length isHex
  let text := String.ofList ('\\' :: letter :: digits)
  if digits.length < length then refuse (.incompleteEscape text) start
  else if 0x10FFFF < numeral 16 digits then refuse (.badEscape text) start
  else .ok (numeral 16 digits, s')

/-- The code point of an escape by name, `s` being what follows its letter. -/
def readNamedEscape (s : Source) (start : Nat) : Reading (Nat × Source) :=
  match s.rest with
  | '{' :: _ => do
    let (name, s') ← (s.drop 1).readName '}' "character name"
    match Text.charOfName? name with
    | some n => return (n, s')
    | none => refuse (.unknownCharacter (String.ofList name)) start
  | _ => refuse .missingBrace s.position

/-- The code point that octal digits stand for. -/
def readOctal (digits : List Char) (s : Source) (start : Nat) : Reading (Nat × Source) :=
  if 0o377 < numeral 8 digits then
    refuse (.octalTooLarge (String.ofList ('\\' :: digits))) start
  else .ok (numeral 8 digits, s)

/-- The code point of an escape that stands for one character inside a set and outside: a number,
a name, a control character, or a character that is no letter and no digit. -/
def readCharEscape (c : Char) (s : Source) (start : Nat) : Reading (Nat × Source) :=
  match hexEscapeLength? c, controlEscape? c with
  | some length, _ => readHexEscape c length s start
  | none, some n => .ok (n, s)
  | none, none =>
    if c == 'N' then readNamedEscape s start
    else if c.isAlphanum then refuse (.badEscape (String.ofList ['\\', c])) start
    else .ok (c.toNat, s)

/-- What an escape stands for inside a set. -/
def readSetEscape (ascii : Bool) (c : Char) (s : Source) (start : Nat) :
    Reading (CharItem × Source) :=
  match classEscape? ascii c with
  | some item => .ok (item, s)
  | none => do
    let (n, s') ←
      if isOctal c then
        let (digits, s') := s.takeUpTo 2 isOctal
        readOctal (c :: digits) s' start
      else readCharEscape c s start
    return (.one n, s')

end OrderedGrammar.Pattern
