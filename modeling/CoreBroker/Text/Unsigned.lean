set_option autoImplicit false

/-!
# Reading unsigned numbers

Decimal digits with an optional plus sign in front, up to a limit.  The digits are taken from left
to right and the first trouble met decides the answer, so a number that has grown too large before
a stray character is reported as too large.
-/

namespace CoreBroker.Text

/-- Why a text is not read as a number. -/
inductive UnsignedError where
  | empty
  | badDigit
  | tooLarge
  deriving DecidableEq, Repr

/-- The wording of an error in reports. -/
def UnsignedError.message : UnsignedError → String
  | empty => "cannot parse integer from empty string"
  | badDigit => "invalid digit found in string"
  | tooLarge => "number too large to fit in target type"

/-- The value of a decimal digit. -/
def digit? (c : Char) : Option Nat :=
  if c.isDigit then some (c.val.toNat - '0'.val.toNat) else none

/-- Appends the digits of a text to the number read so far, never passing `limit`. -/
def appendDigits (limit : Nat) : Nat → List Char → Except UnsignedError Nat
  | n, [] => .ok n
  | n, c :: rest =>
    match digit? c with
    | none => .error .badDigit
    | some d => if limit < 10 * n + d then .error .tooLarge
                else appendDigits limit (10 * n + d) rest

/-- Reads a whole text as a number of at most `limit`. -/
def unsigned? (limit : Nat) : List Char → Except UnsignedError Nat
  | [] => .error .empty
  | '+' :: [] => .error .badDigit
  | '+' :: digits => appendDigits limit 0 digits
  | digits => appendDigits limit 0 digits

end CoreBroker.Text
