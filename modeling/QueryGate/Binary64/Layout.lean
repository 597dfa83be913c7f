import QueryGate.Binary64.Shortest

/-! Written forms of a number: its shortest decimal, laid out with or without an exponent. -/
namespace QueryGate
namespace Binary64

/-- `pointZero` writes `.0` behind a whole number. `positional` bounds the power of ten of the leading digit for
which no exponent is written; without it none ever is. -/
structure Layout where
  pointZero : Bool
  positional : Option (Int × Int)

/-- The form that is read back as a number and never as an integer. -/
def Layout.exact : Layout := ⟨true, some (-4, 15)⟩

/-- The form inside running text: plain digits. -/
def Layout.plain : Layout := ⟨false, none⟩

def zeros (n : Nat) : List Char := List.replicate n '0'

/-- `m · 10 ^ e` in positional notation. -/
def positionalText (pointZero : Bool) (m : Nat) (e : Int) : List Char :=
  let digits := Nat.toDigits 10 m
  if e ≥ 0 then digits ++ zeros (if m = 0 then 0 else e.toNat) ++ if pointZero then ['.', '0'] else []
  else
    let places := e.natAbs
    let padded := zeros (places + 1 - digits.length) ++ digits
    padded.take (padded.length - places) ++ '.' :: padded.drop (padded.length - places)

def integerText (i : Int) : List Char :=
  if i < 0 then '-' :: Nat.toDigits 10 i.natAbs else Nat.toDigits 10 i.natAbs

/-- `m · 10 ^ e` with one digit before the point and an exponent. -/
def exponentText (m : Nat) (e : Int) : List Char :=
  match Nat.toDigits 10 m with
  | [] => []
  | [d] => d :: 'e' :: integerText e
  | d :: rest => d :: '.' :: rest ++ 'e' :: integerText (e + rest.length)

def magnitudeText (layout : Layout) (n : Nat) : List Char :=
  let (m, e) := shortest n
  let leading := e + (Nat.toDigits 10 m).length - 1
  match layout.positional with
  | some (low, high) =>
    if n ≠ 0 ∧ (leading < low ∨ high < leading) then exponentText m e
    else positionalText layout.pointZero m e
  | none => positionalText layout.pointZero m e

def text (layout : Layout) : Binary64 → List Char
  | .nan => ['N', 'a', 'N']
  | .infinite negative => if negative then ['-', 'i', 'n', 'f'] else ['i', 'n', 'f']
  | .finite negative n _ => if negative then '-' :: magnitudeText layout n else magnitudeText layout n

end Binary64
end QueryGate
