import Choreo.Text.Quoted

/-!
What can go wrong with a number: it cannot be read, or it has no counterpart in the kind of number
it is converted to.
-/

namespace Choreo

/-- Why a number could not be read or converted. -/
inductive NumberFault where
  /-- A finite computation left the range of the arithmetic. -/
  | overflow
  /-- Not a number has no whole counterpart. -/
  | nanToWhole
  /-- A function was asked for a value outside its domain. -/
  | outsideDomain
  | divisionByZero
  | notReal (text : String)
  | notWhole (base : Nat) (text : String)
  /-- A decimal numeral is longer than the limit. -/
  | tooManyDigits (count : Nat)
  /-- A whole number has a longer decimal numeral than the limit. -/
  | tooLong
  deriving DecidableEq, Repr

namespace NumberFault

/-- The longest decimal numeral that is read as a whole number, or written for one. -/
def digitLimit : Nat := 4300

def limitText : String :=
  "Exceeds the limit (" ++ toString digitLimit ++ " digits) for integer string conversion"

def adviceText : String := "; use sys.set_int_max_str_digits() to increase the limit"

def message : NumberFault → String
  | overflow => "number out of range"
  | nanToWhole => "cannot convert float NaN to integer"
  | outsideDomain => "math domain error"
  | divisionByZero => "division by zero"
  | notReal text => "could not convert string to float: " ++ Text.quoted text
  | notWhole base text =>
    "invalid literal for int() with base " ++ toString base ++ ": " ++ Text.quoted text
  | tooManyDigits count =>
    limitText ++ ": value has " ++ toString count ++ " digits" ++ adviceText
  | tooLong => limitText ++ adviceText

end NumberFault

end Choreo
