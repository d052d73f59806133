import OrderedGrammar.Pattern.Escape

/-!
# Reading a set of characters

A set is written in brackets: single characters, ranges and escapes in a row, all of them excluded
if a caret comes first.  The closing bracket is a member when it comes first, and so is the hyphen
when it comes last.
-/

namespace OrderedGrammar.Pattern

/-- What a unit of the text stands for inside a set. -/
def readSetUnit (ascii : Bool) (unit : List Char) (s : Source) (start : Nat) :
    Reading (CharItem × Source) :=
  match unit with
  | ['\\', c] => readSetEscape ascii c s start
  | c :: _ => .ok (.one c.toNat, s)
  | [] => refuse .unexpectedEnd start

/-- The range between two parts of a set, if they are characters in ascending order. -/
def rangeBetween? : CharItem → CharItem → Option CharItem
  | .one first, .one last => if last < first then none else some (.range first last)
  | _, _ => none

/-- Reads the parts of a set up to its bracket, `items` being those read so far, latest first. -/
def readSetItems (ascii : Bool) (opening : Nat) :
    Nat → List CharItem → Source → Reading (List CharItem × Source)
  | 0, _, _ => refuse .unclosedSet opening
  | fuel + 1, items, s =>
    match s.unit? with
    | none => refuse .unclosedSet opening
    | some (unit, s₁) =>
      if unit == [']'] && !items.isEmpty then .ok (items.reverse, s₁) else do
      let (item, s₂) ← readSetUnit ascii unit s₁ s.position
      match s₂.rest with
      | '-' :: _ =>
        let s₃ := s₂.drop 1
        match s₃.unit? with
        | none => refuse .unclosedSet opening
        | some (unit', s₄) =>
          if unit' == [']'] then .ok ((.one '-'.toNat :: item :: items).reverse, s₄) else do
          let (item', s₅) ← readSetUnit ascii unit' s₄ s₃.position
          match rangeBetween? item item' with
          | some range => readSetItems ascii opening fuel (range :: items) s₅
          | none =>
            refuse (.reversedRange (String.ofList unit) (String.ofList unit'))
              (s₅.position - (unit.length + 1 + unit'.length))
      | _ => readSetItems ascii opening fuel (item :: items) s₂

/-- Reads a set whose bracket stands at `opening`. -/
def readSet (flags : Flags) (s : Source) (opening : Nat) : Reading (CharSet × Source) := do
  let (negated, s) := match s.rest with
    | '^' :: _ => (true, s.drop 1)
    | _ => (false, s)
  let (items, s) ← readSetItems flags.ascii opening (s.rest.length + 1) [] s
  return (.ofItems items negated flags.caseRule, s)

end OrderedGrammar.Pattern
