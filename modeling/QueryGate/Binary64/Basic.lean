/-! Numbers of the IEEE binary64 format, with exact arithmetic. A finite number is a sign and a count of units
of 2⁻¹⁰⁷⁴, the distance between the smallest of them; rounding goes to the nearest, ties to the even neighbour. -/
namespace QueryGate

namespace Binary64

/-- The distance, in units, between the numbers of the format near `n` units. -/
def spacing (n : Nat) : Nat := Nat.pow 2 (n.log2 - 52)

/-- The number of units in one. -/
def unitsOfOne : Nat := Nat.pow 2 1074

/-- Twice 2¹⁰²³ in units, the position of infinity on the line of units. -/
def infinityUnits : Nat := Nat.pow 2 2098

/-- A number of units has at most 53 significant bits and stays below 2¹⁰²⁴. -/
def Representable (n : Nat) : Prop := n < infinityUnits ∧ spacing n ∣ n

instance (n : Nat) : Decidable (Representable n) :=
  inferInstanceAs (Decidable (_ ∧ _))

theorem infinityUnits_pos : 0 < infinityUnits := by
  delta infinityUnits
  generalize 2098 = n
  exact Nat.two_pow_pos n

theorem representable_zero : Representable 0 := ⟨infinityUnits_pos, Nat.dvd_zero _⟩

end Binary64

/-- The sign flag of a finite or infinite number is `true` for a negative one. -/
inductive Binary64
  | nan
  | infinite (negative : Bool)
  | finite (negative : Bool) (units : Nat) (fits : Binary64.Representable units)
  deriving DecidableEq

namespace Binary64

def zero (negative : Bool) : Binary64 := .finite negative 0 representable_zero

/-- A count of units too large for the format is an infinity. -/
def ofUnits (negative : Bool) (n : Nat) : Binary64 :=
  if h : Representable n then .finite negative n h else .infinite negative

/-- The number of units nearest to `num / den` among those with 53 significant bits; of two equally near
ones the one with an even significand. -/
def nearest (num den : Nat) : Nat :=
  let step := spacing (num / den)
  let lower := num / (den * step)
  let twice := 2 * (num % (den * step))
  if twice < den * step then lower * step
  else if den * step < twice then (lower + 1) * step
  else (lower + lower % 2) * step

def ofRatio (negative : Bool) (num den : Nat) : Binary64 :=
  ofUnits negative (nearest (num * unitsOfOne) den)

def ofInt (i : Int) : Binary64 := ofRatio (decide (i < 0)) i.natAbs 1

/-- The number nearest to `digits · 10 ^ exponent`. A value beyond the range in either direction is decided
by its size alone, so that no power grows with the exponent. -/
def ofDecimal (negative : Bool) (digits : Nat) (exponent : Int) : Binary64 :=
  if digits = 0 then zero negative
  else if 400 < exponent then .infinite negative
  else if exponent ≥ 0 then ofRatio negative (digits * Nat.pow 10 exponent.toNat) 1
  else if digits.log2 + 1100 < 3 * exponent.natAbs then zero negative
  else ofRatio negative digits (Nat.pow 10 exponent.natAbs)

/-- The position of a number on the line of units; both zeros share one, and the undefined number has none. -/
def position? : Binary64 → Option Int
  | .nan => none
  | .infinite negative => some (if negative then -infinityUnits else infinityUnits)
  | .finite negative n _ => some (if negative then -n else n)

def compare? (a b : Binary64) : Option Ordering := do
  let x ← a.position?
  let y ← b.position?
  some (compare x y)

/-- Numerical equality: the zeros are equal, and the undefined number differs from itself. -/
def equal (a b : Binary64) : Bool := a.compare? b == some .eq

@[simp] theorem compare?_nan_left (b : Binary64) : compare? .nan b = none := rfl

@[simp] theorem compare?_nan_right (a : Binary64) : a.compare? .nan = none := by
  cases a <;> rfl

theorem equal_nan (a : Binary64) : a.equal .nan = false := by
  simp [equal]

def isFinite : Binary64 → Bool
  | .finite .. => true
  | _ => false

end Binary64
end QueryGate
