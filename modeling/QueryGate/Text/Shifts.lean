/-! Character maps given by ranges of code points that move by a common distance. -/
namespace QueryGate
namespace Text

/-- First and last code point of a range, the step between its members, and the distance they move. -/
abbrev Shifts := List (Nat × Nat × Nat × Int)

namespace Shifts

/-- Where a code point moves, or the code point itself outside every range. -/
def apply : Shifts → Nat → Nat
  | [], n => n
  | (first, last, step, distance) :: rest, n =>
    if n < first then n
    else if n ≤ last ∧ (n - first) % step = 0 then (n + distance).toNat
    else apply rest n

/-- The code points that one row moves. -/
def points (row : Nat × Nat × Nat × Int) : List Nat :=
  (List.range ((row.2.1 - row.1) / row.2.2.1 + 1)).map fun i => row.1 + row.2.2.1 * i

end Shifts
end Text
end QueryGate
