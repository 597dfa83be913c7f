import QueryGate.Binary64.Layout
import QueryGate.Binary64.Literal
import QueryGate.Text.Blank
import QueryGate.Text.Integer

/-! Numbers that thresholds and orders are made of: whole numbers of 64 bits, kept exactly, and binary64 numbers.
Two whole numbers are compared as such; any other pair by the nearest binary64 numbers. -/
namespace QueryGate

inductive Number
  | whole (n : Int64)
  | real (x : Binary64)
  deriving DecidableEq

namespace Number

def toBinary64 : Number → Binary64
  | whole n => .ofInt n.toInt
  | real x => x

def compare? : Number → Number → Option Ordering
  | whole a, whole b => some (compare a.toInt b.toInt)
  | a, b => a.toBinary64.compare? b.toBinary64

/-- Equality within a kind; a whole number never equals a binary64 number. -/
def same : Number → Number → Bool
  | whole a, whole b => a == b
  | real x, real y => x.equal y
  | _, _ => false

def text : Number → List Char
  | whole n => Binary64.integerText n.toInt
  | real x => x.text .plain

@[simp] theorem compare?_whole (a b : Int64) :
    (whole a).compare? (whole b) = some (compare a.toInt b.toInt) := rfl

/-- Reads a decimal literal, blanks around it aside: a whole number where it is one of 64 bits. -/
def read? (cs : List Char) : Option Number :=
  match Text.readInt64 (Text.trim cs) with
  | .ok n => some (whole n)
  | .error _ => (Binary64.readDecimal? (Text.trim cs)).map real

end Number
end QueryGate
