/-!
# Decimal digits

Every script's decimal digits are ten code points in a row, so a script is given by its zero and
a digit's value is its distance from that zero.  `integer?` reads a decimal integer in any script
or mix of scripts, and `groupedInteger?` one with underscores between its digits.
-/

namespace OrderedGrammar.Text

/-- The zeros of the scripts above the ASCII range, in ascending order. -/
def digitZeros : List Nat :=
  [0x660, 0x6F0, 0x7C0, 0x966, 0x9E6, 0xA66, 0xAE6, 0xB66, 0xBE6, 0xC66, 0xCE6, 0xD66, 0xDE6,
   0xE50, 0xED0, 0xF20, 0x1040, 0x1090, 0x17E0, 0x1810, 0x1946, 0x19D0, 0x1A80, 0x1A90, 0x1B50,
   0x1BB0, 0x1C40, 0x1C50, 0xA620, 0xA8D0, 0xA900, 0xA9D0, 0xA9F0, 0xAA50, 0xABF0, 0xFF10, 0x104A0,
   0x10D30, 0x11066, 0x110F0, 0x11136, 0x111D0, 0x112F0, 0x11450, 0x114D0, 0x11650, 0x116C0,
   0x11730, 0x118E0, 0x11950, 0x11C50, 0x11D50, 0x11DA0, 0x16A60, 0x16AC0, 0x16B50, 0x1D7CE,
   0x1D7D8, 0x1D7E2, 0x1D7EC, 0x1D7F6, 0x1E140, 0x1E2F0, 0x1E950, 0x1FBF0]

/-- The distance of `n` from the first of the ascending `zeros` that has it among its ten digits. -/
def digitValueAmong : List Nat → Nat → Option Nat
  | [], _ => none
  | first :: zeros, n =>
    if n < first then none
    else if n < first + 10 then some (n - first)
    else digitValueAmong zeros n

/-- The value of a decimal digit, `none` for any other character. -/
def digitValue? (c : Char) : Option Nat :=
  if c.toNat < 0x80 then
    if c.isDigit then some (c.toNat - 0x30) else none
  else digitValueAmong digitZeros c.toNat

/-- Whether `c` is a decimal digit of some script. -/
def isDecimal (c : Char) : Bool := (digitValue? c).isSome

/-- The number that the decimal digits `cs` write after the digits of `acc`. -/
def naturalFrom? (acc : Nat) : List Char → Option Nat
  | [] => some acc
  | c :: cs => (digitValue? c).bind fun d => naturalFrom? (10 * acc + d) cs

/-- The number that a non-empty row of decimal digits writes. -/
def natural? : List Char → Option Nat
  | [] => none
  | cs => naturalFrom? 0 cs

/-- The integer that an optional sign and a non-empty row of decimal digits write.  Nothing may
stand between the sign and the digits. -/
def integer? : List Char → Option Int
  | '+' :: cs => (natural? cs).map Int.ofNat
  | '-' :: cs => (natural? cs).map fun n => -Int.ofNat n
  | cs => (natural? cs).map Int.ofNat

/-- The number that decimal digits write after the digits of `acc`.  Single underscores may stand
between digits, but not elsewhere; `afterDigit` tells whether a digit comes right before. -/
def groupedNaturalFrom? (acc : Nat) (afterDigit : Bool) : List Char → Option Nat
  | [] => if afterDigit then some acc else none
  | c :: cs =>
    if c == '_' then if afterDigit then groupedNaturalFrom? acc false cs else none
    else (digitValue? c).bind fun d => groupedNaturalFrom? (10 * acc + d) true cs

/-- The integer that an optional sign and decimal digits write, in which single underscores may
stand between digits. -/
def groupedInteger? : List Char → Option Int
  | '+' :: cs => (groupedNaturalFrom? 0 false cs).map Int.ofNat
  | '-' :: cs => (groupedNaturalFrom? 0 false cs).map fun n => -Int.ofNat n
  | cs => (groupedNaturalFrom? 0 false cs).map Int.ofNat

end OrderedGrammar.Text
