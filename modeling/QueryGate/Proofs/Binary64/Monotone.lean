import Mathlib.Tactic.SplitIfs
import QueryGate.Proofs.Binary64.Range

/-! The order of rounded numbers. Rounding keeps the order of what it rounds, and keeps integers of up to 53 bits as they
are; beyond them different integers may come to lie on one number. -/
namespace QueryGate
namespace Binary64

section Nearest

variable {num num' den : Nat}

/-- On one grid, rounding keeps the order: a greater rest does not go down where a smaller one goes up. -/
theorem nearest_mono_of_spacing (h : num ≤ num') (hs : spacing (num / den) = spacing (num' / den)) :
    nearest num den ≤ nearest num' den := by
  have hlower : num / (den * spacing (num / den)) ≤ num' / (den * spacing (num / den)) := Nat.div_le_div_right h
  rcases Nat.lt_or_eq_of_le hlower with hlt | heq
  · calc nearest num den ≤ (num / (den * spacing (num / den)) + 1) * spacing (num / den) := nearest_le num den
      _ ≤ num' / (den * spacing (num / den)) * spacing (num / den) := Nat.mul_le_mul_right _ hlt
      _ ≤ nearest num' den := by
        rw [hs]
        exact le_nearest num' den
  · have hrest : num % (den * spacing (num / den)) ≤ num' % (den * spacing (num / den)) := by
      have hsum := Nat.div_add_mod num (den * spacing (num / den))
      have hsum' := Nat.div_add_mod num' (den * spacing (num / den))
      rw [← heq] at hsum'
      omega
    unfold nearest
    simp only [← hs, ← heq]
    generalize den * spacing (num / den) = step at *
    split_ifs <;> exact Nat.mul_le_mul_right _ (by omega)

theorem log2_mono {m n : Nat} (h : m ≤ n) : m.log2 ≤ n.log2 := by
  by_cases hm : m = 0
  · simp [hm]
  · exact (Nat.le_log2 (by omega)).mpr (Nat.le_trans (Nat.log2_self_le hm) h)

/-- Rounding keeps the order. Between two grids lies a power of two, which is crossed from neither side. -/
theorem nearest_mono (h : num ≤ num') : nearest num den ≤ nearest num' den := by
  have hlog : (num / den).log2 ≤ (num' / den).log2 := log2_mono (Nat.div_le_div_right h)
  rcases Nat.lt_or_eq_of_le hlog with hlt | heq
  · have hq' : num' / den ≠ 0 := by
      intro h0
      simp [h0] at hlt
    calc nearest num den ≤ 2 ^ ((num / den).log2 + 1) := nearest_le_two_pow num den
      _ ≤ 2 ^ (num' / den).log2 := Nat.pow_le_pow_right (by decide) hlt
      _ ≤ nearest num' den := two_pow_le_nearest (Nat.log2_self_le hq')
  · exact nearest_mono_of_spacing h (by rw [spacing, spacing, heq])

end Nearest

/-- An integer of up to 53 bits is on the grid of its size, however many zeros follow. -/
theorem spacing_dvd_mul_two_pow {n : Nat} (h : n ≤ 2 ^ 53) (u : Nat) : spacing (n * 2 ^ u) ∣ n * 2 ^ u := by
  unfold spacing
  rcases Nat.lt_or_eq_of_le h with hlt | rfl
  · have hlog : (n * 2 ^ u).log2 - 52 ≤ u := by
      by_cases h0 : n * 2 ^ u = 0
      · simp [h0]
      · have hpow : n * 2 ^ u < 2 ^ (53 + u) := by
          rw [Nat.pow_add]
          exact (Nat.mul_lt_mul_right (Nat.two_pow_pos u)).mpr hlt
        have := (Nat.log2_lt h0).mpr hpow
        omega
    exact Nat.dvd_trans (Nat.pow_dvd_pow 2 hlog) (Nat.dvd_mul_left _ _)
  · rw [← Nat.pow_add, Nat.log2_two_pow]
    exact Nat.pow_dvd_pow 2 (Nat.sub_le _ _)

/-- The position of a number of units that lies on its grid: its own, or that of infinity if it is not in front of it. -/
theorem position?_ofUnits (negative : Bool) {n : Nat} (h : spacing n ∣ n) :
    (ofUnits negative n).position? =
      some (if negative then -((min n infinityUnits : Nat) : Int) else (min n infinityUnits : Nat)) := by
  unfold ofUnits
  by_cases hn : n < infinityUnits
  · rw [dif_pos ⟨hn, h⟩, Nat.min_eq_left (Nat.le_of_lt hn)]
    rfl
  · rw [dif_neg fun hr => hn hr.1, Nat.min_eq_right (Nat.le_of_not_lt hn), position?]

/-- The units of the magnitude that an integer rounds to. -/
def integerUnits (n : Nat) : Nat := min (nearest (n * unitsOfOne) 1) infinityUnits

theorem integerUnits_mono {m n : Nat} (h : m ≤ n) : integerUnits m ≤ integerUnits n := by
  have hn : nearest (m * unitsOfOne) 1 ≤ nearest (n * unitsOfOne) 1 := nearest_mono (Nat.mul_le_mul_right _ h)
  unfold integerUnits
  omega

theorem integerUnits_of_le {n : Nat} (h : n ≤ 2 ^ 53) : integerUnits n = n * unitsOfOne := by
  have hgrid : spacing (n * unitsOfOne) ∣ n * unitsOfOne := by
    delta unitsOfOne
    generalize 1074 = u
    exact spacing_dvd_mul_two_pow h u
  have hnearest : nearest (n * unitsOfOne) 1 = n * unitsOfOne := by
    simpa using nearest_mul_self hgrid (show 0 < 1 by decide)
  have hfits : n * unitsOfOne ≤ infinityUnits := by
    have hexp : 53 + 1074 ≤ 2098 := by decide
    delta unitsOfOne infinityUnits
    generalize 1074 = u, 2098 = k at hexp ⊢
    calc n * 2 ^ u ≤ 2 ^ 53 * 2 ^ u := Nat.mul_le_mul_right _ h
      _ = 2 ^ (53 + u) := (Nat.pow_add ..).symm
      _ ≤ 2 ^ k := Nat.pow_le_pow_right (by decide) hexp
  rw [integerUnits, hnearest, Nat.min_eq_left hfits]

/-- The position of an integer on the line of units, once it is rounded. -/
def integerPosition (i : Int) : Int := if i < 0 then -(integerUnits i.natAbs : Int) else integerUnits i.natAbs

theorem position?_ofInt (i : Int) : (ofInt i).position? = some (integerPosition i) := by
  rw [ofInt, ofRatio, position?_ofUnits _ (spacing_dvd_nearest _ _)]
  simp only [decide_eq_true_eq]
  rfl

theorem integerPosition_mono {i j : Int} (h : i ≤ j) : integerPosition i ≤ integerPosition j := by
  unfold integerPosition
  split_ifs with hi hj hj
  · have := integerUnits_mono (show j.natAbs ≤ i.natAbs by omega)
    omega
  · omega
  · omega
  · have := integerUnits_mono (show i.natAbs ≤ j.natAbs by omega)
    omega

/-- Integers of up to 53 bits are kept. -/
theorem integerPosition_of_natAbs_le {i : Int} (h : i.natAbs ≤ 2 ^ 53) : integerPosition i = i * unitsOfOne := by
  rw [integerPosition, integerUnits_of_le h, Int.natCast_mul]
  split_ifs with hi
  · rw [← Int.neg_mul]
    congr 1
    omega
  · congr 1
    omega

theorem integerPosition_lt_succ {i : Int} (h : i.natAbs ≤ 2 ^ 53) (h' : (i + 1).natAbs ≤ 2 ^ 53) :
    integerPosition i < integerPosition (i + 1) := by
  have hu : 0 < unitsOfOne := by
    delta unitsOfOne
    generalize 1074 = u
    exact Nat.two_pow_pos u
  rw [integerPosition_of_natAbs_le h, integerPosition_of_natAbs_le h']
  generalize unitsOfOne = u at hu ⊢
  rw [Int.add_mul]
  omega

/-- An integer of fewer than 54 bits is not rounded to the position of any other. -/
theorem integerPosition_lt {i j : Int} (h : i < j) (hs : i.natAbs < 2 ^ 53 ∨ j.natAbs < 2 ^ 53) :
    integerPosition i < integerPosition j := by
  rcases hs with hi | hj
  · calc integerPosition i < integerPosition (i + 1) := integerPosition_lt_succ (by omega) (by omega)
      _ ≤ integerPosition j := integerPosition_mono (by omega)
  · calc integerPosition i ≤ integerPosition (j - 1) := integerPosition_mono (by omega)
      _ < integerPosition (j - 1 + 1) := integerPosition_lt_succ (by omega) (by omega)
      _ = integerPosition j := by rw [Int.sub_add_cancel]

end Binary64
end QueryGate
