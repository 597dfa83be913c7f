import QueryGate.Binary64.Basic

/-! Decimal literals: an optional sign, digits with an optional point, and an optional exponent. -/
namespace QueryGate
namespace Binary64

/-- The value of a run of digits. -/
def digitsValue (cs : List Char) : Nat := Nat.ofDigitChars 10 cs 0

def splitSign : List Char → Bool × List Char
  | '-' :: rest => (true, rest)
  | '+' :: rest => (false, rest)
  | cs => (false, cs)

/-- A signed run of at least one digit and nothing after it. -/
def readInteger? (cs : List Char) : Option Int :=
  let (negative, digits) := splitSign cs
  if digits.isEmpty || !digits.all Char.isDigit then none
  else some (if negative then -digitsValue digits else digitsValue digits)

def readExponent? : List Char → Option Int
  | [] => some 0
  | c :: rest => if c = 'e' ∨ c = 'E' then readInteger? rest else none

def splitFraction : List Char → List Char × List Char
  | '.' :: rest => rest.span Char.isDigit
  | cs => ([], cs)

/-- The magnitude of a literal without its sign: digits on at least one side of the point. -/
def readMagnitude? (negative : Bool) (cs : List Char) : Option Binary64 :=
  let (whole, rest) := cs.span Char.isDigit
  let (fraction, rest) := splitFraction rest
  if whole.isEmpty && fraction.isEmpty then none
  else (readExponent? rest).map fun exponent =>
    ofDecimal negative (digitsValue (whole ++ fraction)) (exponent - fraction.length)

def readDecimal? (cs : List Char) : Option Binary64 :=
  let (negative, rest) := splitSign cs
  readMagnitude? negative rest

/-- A decimal literal, or the name of an infinity or of the undefined number in any case. -/
def read? (cs : List Char) : Option Binary64 :=
  let (negative, rest) := splitSign cs
  match rest.map Char.toLower with
  | ['i', 'n', 'f'] => some (.infinite negative)
  | ['i', 'n', 'f', 'i', 'n', 'i', 't', 'y'] => some (.infinite negative)
  | ['n', 'a', 'n'] => some .nan
  | _ => readMagnitude? negative rest

end Binary64
end QueryGate
