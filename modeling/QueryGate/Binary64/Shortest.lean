import QueryGate.Binary64.Basic

/-! The shortest decimal of a finite number: the fewest significant digits that read back to it, and of two
such decimals the nearer one. -/
namespace QueryGate
namespace Binary64

/-- Whether `n` units are at least `10 ^ e`. -/
def reaches (n : Nat) (e : Int) : Bool :=
  if e ≥ 0 then decide (Nat.pow 10 e.toNat * unitsOfOne ≤ n) else decide (unitsOfOne ≤ n * Nat.pow 10 e.natAbs)

/-- The power of ten of the leading digit of a positive number of units. The binary logarithm gives it up to
one, since 0.30103 is just above the decimal logarithm of two. -/
def leadingPower (n : Nat) : Int :=
  let guess := ((n.log2 : Int) - 1074) * 30103 / 100000
  if reaches n (guess + 1) then guess + 1
  else if reaches n guess then guess
  else guess - 1

/-- Numerator and denominator of `n` units measured in steps of `10 ^ e`. -/
def onGrid (n : Nat) (e : Int) : Nat × Nat :=
  if e ≥ 0 then (n, Nat.pow 10 e.toNat * unitsOfOne) else (n * Nat.pow 10 e.natAbs, unitsOfOne)

/-- The decimal with step `10 ^ e` that reads back to `n` units, if one of the two nearest does. A tie between
them goes up. -/
def hit? (n : Nat) (e : Int) : Option Nat :=
  let (num, den) := onGrid n e
  let lower := num / den
  let readsBack (m : Nat) : Bool := ofDecimal false m e == ofUnits false n
  match readsBack lower, readsBack (lower + 1) with
  | true, true => some (if 2 * (num % den) < den then lower else lower + 1)
  | true, false => some lower
  | false, true => some (lower + 1)
  | false, false => none

/-- Digits and power of ten of the first grid with a hit among those of `k`, `k + 1`, … digits; if none of the
next `tries` has one, the exact value. -/
def search (n : Nat) (leading : Int) : Nat → Nat → Nat × Int
  | 0, _ => (n * Nat.pow 5 1074, -1074)
  | tries + 1, k =>
    match hit? n (leading - k) with
    | some m => (m, leading - k)
    | none => search n leading tries (k + 1)

/-- Moves the trailing zeros of at most `fuel` digits into the power of ten. -/
def dropZeros : Nat → Nat → Int → Nat × Int
  | 0, m, e => (m, e)
  | fuel + 1, m, e => if m ≠ 0 ∧ m % 10 = 0 then dropZeros fuel (m / 10) (e + 1) else (m, e)

/-- Significant digits and power of ten of the last digit. -/
def shortest (n : Nat) : Nat × Int :=
  if n = 0 then (0, 0)
  else
    let (m, e) := search n (leadingPower n) 17 0
    dropZeros (m.log2 + 1) m e

end Binary64
end QueryGate
