import OrderedGrammar.Pattern.Match
import OrderedGrammar.Pattern.Reader
import OrderedGrammar.Rule

/-!
# Splitting a text into tokens

A lexicon holds the patterns of lexer rules in order.  At every place of a text the first pattern
that matches wins, be it the longest or not; whitespace in front of a token is left out, and a
rest of nothing but whitespace ends the text.  Tokens of the ignored kinds are matched and dropped.

## Main definitions

* `Lexicon.ofRules` : the lexicon of lexer rules.
* `Lexicon.match?` : the token at a place.
* `Lexicon.scan` : the tokens of a text.
-/

namespace OrderedGrammar

/-- No pattern matches at a place of the text. -/
structure LexError where
  /-- The place of the first character that is not whitespace. -/
  offset : Nat
  /-- The start of the text from there on. -/
  remainder : String
  deriving DecidableEq, Repr

/-- A text cannot be split into tokens. -/
inductive ScanError where
  | lex (error : LexError)
  /-- The pattern for the kind matches, but has no group to be the token. -/
  | noGroup (kind : String)
  /-- A match leads nowhere, so that the scan does not come to an end. -/
  | endless
  deriving DecidableEq, Repr

/-- The words for an error. -/
def LexError.message (e : LexError) : String :=
  "Syntax error at offset " ++ toString e.offset ++ " near [" ++ e.remainder ++ "...]"

/-- The words for an error. -/
def ScanError.message : ScanError → String
  | .lex e => e.message
  | .noGroup _ => "no such group"
  | .endless => "the scan does not end"

/-- A kind of token and its pattern. -/
structure LexEntry where
  kind : String
  pattern : Pattern

/-- Patterns in the order in which they are tried, and the kinds of token that are dropped. -/
structure Lexicon where
  entries : List LexEntry
  ignored : List String

namespace Lexicon

/-- How much of the unmatched text an error shows. -/
def previewLength : Nat := 50

/-- The pattern of an entry: whitespace, then the token as the first group. -/
def enclose (pattern : String) : List Char := '\\' :: 's' :: '*' :: '(' :: pattern.toList ++ [')']

/-- The entry of a lexer rule. -/
def entry (ignoreCase : Bool) (rule : Rule) : Except GrammarError LexEntry :=
  match rule.pattern? with
  | none => .error (.notLexer rule.name)
  | some pattern =>
    match Pattern.read ignoreCase (enclose pattern) with
    | .ok p => .ok ⟨rule.name, p⟩
    | .error refusal =>
      if refusal.fault = .countTooLarge then .error (.uncountable rule.name)
      else .error (.invalidPattern rule.name refusal)

/-- The lexicon of the given rules. -/
def ofRules (rules : List Rule) (ignored : List String) (ignoreCase : Bool) :
    Except GrammarError Lexicon := do
  return ⟨← rules.mapM (entry ignoreCase), ignored⟩

/-- The token that an entry matches at a place and the place behind the match.  A token without
characters is none, for it would lead nowhere. -/
def LexEntry.match? (e : LexEntry) (c : Cursor) : Except ScanError (Option (Token × Cursor)) :=
  match e.pattern.matchAt c with
  | none => .ok none
  | some s =>
    match s.capture? 1 with
    | none => if e.pattern.keeps 1 then .ok none else .error (.noGroup e.kind)
    | some group =>
      if group.first.offset < group.last.offset then
        .ok (some (⟨e.kind, String.ofList group.text, group.first.offset⟩, s.cursor))
      else .ok none

/-- The token at a place of the first of the entries that match there. -/
def firstMatch? (c : Cursor) : List LexEntry → Except ScanError (Option (Token × Cursor))
  | [] => .ok none
  | e :: entries => do
    match ← LexEntry.match? e c with
    | some found => return some found
    | none => firstMatch? c entries

/-- The first entry's token at a place. -/
def match? (l : Lexicon) (c : Cursor) : Except ScanError (Option (Token × Cursor)) :=
  firstMatch? c l.entries

/-- The error at a place where no entry matches. -/
def errorAt (c : Cursor) : LexError where
  offset := c.offset + (c.after.takeWhile Text.isSpace).length
  remainder := String.ofList ((Text.trimStart c.after).take previewLength)

/-- The tokens from a place on.  `ahead` is at least as long as the text from there on, so that only
a scan comes to its end in which some pass takes no character. -/
def scanFrom (l : Lexicon) : List Char → Cursor → Except ScanError (List Token)
  | [], c => if c.after.all Text.isSpace then .ok [] else .error .endless
  | _ :: ahead, c =>
    if c.after.all Text.isSpace then .ok []
    else do
      match ← l.match? c with
      | none => .error (.lex (errorAt c))
      | some (t, d) =>
        let ts ← scanFrom l ahead d
        return if l.ignored.contains t.kind then ts else t :: ts

/-- The tokens of a text. -/
def scan (l : Lexicon) (text : String) : Except ScanError (List Token) :=
  l.scanFrom text.toList (.start text.toList)

end Lexicon

end OrderedGrammar
