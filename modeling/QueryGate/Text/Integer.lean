/-! Integers of a fixed width, read from their decimal digits. Reading goes from left to right and the first
fault decides: a character that is no digit, or the digit at which the value leaves its range. -/
namespace QueryGate
namespace Text

inductive IntegerError
  | empty | invalidDigit | tooLarge | tooSmall
  deriving DecidableEq, Repr

namespace IntegerError

def message : IntegerError → String
  | empty => "cannot parse integer from empty string"
  | invalidDigit => "invalid digit found in string"
  | tooLarge => "number too large to fit in target type"
  | tooSmall => "number too small to fit in target type"

end IntegerError

def digitValue (c : Char) : Nat := c.toNat - '0'.toNat

/-- Extends `acc` by the digits of a text, as long as the value does not exceed `limit`. -/
def readDigits (limit : Nat) (excess : IntegerError) : Nat → List Char → Except IntegerError Nat
  | acc, [] => .ok acc
  | acc, c :: rest =>
    if c.isDigit then
      if 10 * acc + digitValue c ≤ limit then readDigits limit excess (10 * acc + digitValue c) rest
      else .error excess
    else .error .invalidDigit

/-- A natural number of at most `limit`, with an optional plus sign. -/
def readNatural (limit : Nat) : List Char → Except IntegerError Nat
  | [] => .error .empty
  | ['+'] => .error .invalidDigit
  | '+' :: rest => readDigits limit .tooLarge 0 rest
  | cs => readDigits limit .tooLarge 0 cs

/-- A signed number, at most `limit` when positive and of magnitude at most `limit + 1` when negative. -/
def readSigned (limit : Nat) : List Char → Except IntegerError Int
  | [] => .error .empty
  | ['+'] => .error .invalidDigit
  | ['-'] => .error .invalidDigit
  | '+' :: rest => (readDigits limit .tooLarge 0 rest).map Int.ofNat
  | '-' :: rest => (readDigits (limit + 1) .tooSmall 0 rest).map fun n => -Int.ofNat n
  | cs => (readDigits limit .tooLarge 0 cs).map Int.ofNat

def readInt64 (cs : List Char) : Except IntegerError Int64 :=
  (readSigned (UInt64.size / 2 - 1) cs).map Int64.ofInt

def readUInt8 (cs : List Char) : Except IntegerError UInt8 :=
  (readNatural (UInt8.size - 1) cs).map UInt8.ofNat

end Text
end QueryGate
