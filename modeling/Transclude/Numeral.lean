/-
Decimal numerals of unbounded size, read and written under one limit: a numeral of more than 4300 digits is neither read
nor written, so that no number in a document costs more than a bounded amount of work. Leading zeros count as digits and
the sign does not.
-/
import Transclude.Text.Classes

namespace Transclude

/-- a numeral with too many digits -/
inductive DigitLimit where
  /-- a numeral of this many digits was to be read -/
  | reading (digits : Nat)
  /-- a number that needs too many digits was to be written -/
  | writing
deriving DecidableEq, Repr

namespace Numeral

/-- the most digits that a numeral may have -/
def maxDigits : Nat := 4300

/-- the value of a run of digits, most significant first -/
def value (digits : Text) : Nat :=
  digits.foldl (fun n c => 10 * n + (Text.digitValue? c).getD 0) 0

/-- the value of a run of digits, unless it is too long -/
def readDigits (digits : Text) : Except DigitLimit Nat :=
  if digits.length ≤ maxDigits then .ok (value digits) else .error (.reading digits.length)

/-- the value of a run of digits that may have a minus sign in front -/
def read : Text → Except DigitLimit Int
  | '-' :: digits => (readDigits digits).map fun n => -(n : Int)
  | digits => (readDigits digits).map fun n => (n : Int)

/-- a number in decimal, with a minus sign when it is negative -/
def print (n : Int) : Text :=
  (if n < 0 then ['-'] else []) ++ Nat.toDigits 10 n.natAbs

/-- a number in decimal, unless it needs too many digits -/
def write (n : Int) : Except DigitLimit Text :=
  if n.natAbs < Nat.pow 10 maxDigits then .ok (print n) else .error .writing

end Numeral

/-- the explanation that goes with the limit -/
def DigitLimit.message : DigitLimit → Text
  | .reading digits =>
    "Exceeds the limit (4300 digits) for integer string conversion: value has ".toList ++ Numeral.print digits ++
      " digits; use sys.set_int_max_str_digits() to increase the limit".toList
  | .writing =>
    "Exceeds the limit (4300 digits) for integer string conversion; ".toList ++
      "use sys.set_int_max_str_digits() to increase the limit".toList

end Transclude
