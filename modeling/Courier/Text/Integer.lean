/-!
Reading signed integers of 64 bits: an optional sign and decimal digits.
-/
namespace Courier.Text

inductive IntegerError where
  | empty | invalidDigit | tooLarge | tooSmall
  deriving DecidableEq, Repr

def IntegerError.message : IntegerError → String
  | empty => "cannot parse integer from empty string"
  | invalidDigit => "invalid digit found in string"
  | tooLarge => "number too large to fit in target type"
  | tooSmall => "number too small to fit in target type"

/-- Reads digits onto `n` while it stays within `limit`; the first fault counts. -/
def readDigits (limit : Nat) (overflow : IntegerError) : Nat → List Char → Except IntegerError Nat
  | n, [] => .ok n
  | n, c :: rest =>
    if !c.isDigit then .error .invalidDigit
    else
      let n := 10 * n + (c.toNat - 48)
      if limit < n then .error overflow else readDigits limit overflow n rest

/-- The largest integer of 64 bits; the smallest is below its opposite by one. -/
def maxInteger : Nat := 0x7fffffffffffffff

def readInteger (text : String) : Except IntegerError Int :=
  match text.toList with
  | [] => .error .empty
  | ['-'] | ['+'] => .error .invalidDigit
  | '-' :: digits => (readDigits (maxInteger + 1) .tooSmall 0 digits).map fun n => -(n : Int)
  | '+' :: digits => (readDigits maxInteger .tooLarge 0 digits).map fun n => (n : Int)
  | digits => (readDigits maxInteger .tooLarge 0 digits).map fun n => (n : Int)

end Courier.Text
