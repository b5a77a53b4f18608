-- Decimal numbers as a person writes them on a command line: digits with an
-- optional plus sign in front, no larger than a machine word holds. Reading
-- goes left to right, so the first fault decides which error is reported.
namespace OcamlAssist.Text

inductive NumberFault where
  | empty
  | notDigit
  /-- The number is larger than a machine word holds. -/
  | tooLarge
  deriving DecidableEq, Repr

def NumberFault.message : NumberFault → String
  | .empty => "cannot parse integer from empty string"
  | .notDigit => "invalid digit found in string"
  | .tooLarge => "number too large to fit in target type"

/-- The first number that a machine word does not hold. -/
def wordLimit : Nat := 18446744073709551616

def digit? (c : Char) : Option Nat :=
  if '0' ≤ c ∧ c ≤ '9' then some (c.toNat - '0'.toNat) else none

/-- Reads digits onto a number that is already read. -/
def readDigits (read : Nat) : List Char → Except NumberFault Nat
  | [] => .ok read
  | c :: rest =>
    match digit? c with
    | none => .error .notDigit
    | some digit =>
      let next := read * 10 + digit
      if next < wordLimit then readDigits next rest else .error .tooLarge

def readNumber : List Char → Except NumberFault Nat
  | [] => .error .empty
  | ['+'] => .error .notDigit
  | '+' :: digits => readDigits 0 digits
  | digits => readDigits 0 digits

end OcamlAssist.Text
