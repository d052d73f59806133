import OrderedGrammar.Text.Digit

/-!
# Limits of an evaluation

A tree is evaluated by calls inside of calls, and the numbers in it are read from their digits.
There can be limits to both.
-/

namespace OrderedGrammar

/-- What an evaluation can use up: the calls that there is room for on top of each other, and the
digits that a number is read from.  What is not given is not limited. -/
structure Limits where
  calls : Option Nat := none
  digits : Option Nat := none

/-- The most digits that a number is read from and how many there are in a text, if those are
more. -/
def excess? (digits : Option Nat) (cs : List Char) : Option (Nat × Nat) :=
  digits.bind fun most =>
    let count := cs.countP Text.isDecimal
    if most < count then some (most, count) else none

/-- The words for a number with more digits than are read. -/
def excessMessage (most count : Nat) : String :=
  "Exceeds the limit (" ++ toString most ++
    " digits) for integer string conversion: value has " ++ toString count ++
    " digits; use sys.set_int_max_str_digits() to increase the limit"

/-- The words for a call that there is no room for. -/
def overflowMessage : String := "maximum recursion depth exceeded"

end OrderedGrammar
