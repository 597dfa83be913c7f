import QueryGate.Binary64.Basic

/-! Products and quotients of magnitudes, each rounded once, and the scaling of a significand by a power of ten
through them. Scaling rounds more than once, so it may differ from the nearest number in the last bit. -/
namespace QueryGate
namespace Binary64

/-- The units of a product of two magnitudes given in units. -/
def timesUnits (a b : Nat) : Nat := nearest (a * b) unitsOfOne

/-- The units of a quotient of two magnitudes given in units. -/
def overUnits (a b : Nat) : Nat := nearest (a * unitsOfOne) b

/-- The units of the number nearest to a power of ten. -/
def tenUnits (e : Nat) : Nat := nearest (Nat.pow 10 e * unitsOfOne) 1

/-- Scales `n` units by `10 ^ e`, through one power of ten where `e` is at most 308 in size. Division goes on in
steps of 308; three of them leave nothing of any 64-bit significand. A value beyond the range is refused. -/
def scaleUnits? : Nat → Nat → Int → Option Nat
  | 0, _, _ => some 0
  | steps + 1, n, e =>
    if e.natAbs ≤ 308 then
      if e ≥ 0 then
        let m := timesUnits n (tenUnits e.natAbs)
        if Representable m then some m else none
      else some (overUnits n (tenUnits e.natAbs))
    else if n = 0 then some 0
    else if e ≥ 0 then none
    else scaleUnits? steps (overUnits n (tenUnits 308)) (e + 308)

def ofScaled? (negative : Bool) (significand : Nat) (exponent : Int) : Option Binary64 :=
  (scaleUnits? 4 (nearest (significand * unitsOfOne) 1) exponent).map (ofUnits negative)

end Binary64
end QueryGate
