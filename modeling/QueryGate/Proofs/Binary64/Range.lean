import QueryGate.Proofs.Binary64.Rounding

/-! The end of the range of the format. What a ratio rounds to has at most 53 significant bits, so that rounding ends in a
number or, from half a spacing below 2¹⁰²⁴ on, in an infinity; it never ends in the undefined number. -/
namespace QueryGate
namespace Binary64

section Nearest

variable {num den : Nat}

theorem nearest_le (num den : Nat) :
    nearest num den ≤ (num / (den * spacing (num / den)) + 1) * spacing (num / den) := by
  unfold nearest
  dsimp only
  split
  · exact Nat.mul_le_mul_right _ (Nat.le_succ _)
  · split
    · exact Nat.le_refl _
    · exact Nat.mul_le_mul_right _ (Nat.add_le_add_left (Nat.le_of_lt_succ (Nat.mod_lt _ (by decide))) _)

theorem spacing_dvd_nearest_of_quotient (num den : Nat) : spacing (num / den) ∣ nearest num den := by
  unfold nearest
  dsimp only
  split
  · exact Nat.dvd_mul_left _ _
  · split
    · exact Nat.dvd_mul_left _ _
    · exact Nat.dvd_mul_left _ _

/-- Above an odd neighbour the middle goes up, since the next one is even. -/
theorem nearest_eq_of_odd (hodd : num / (den * spacing (num / den)) % 2 = 1)
    (h : den * spacing (num / den) ≤ 2 * (num % (den * spacing (num / den)))) :
    nearest num den = (num / (den * spacing (num / den)) + 1) * spacing (num / den) := by
  unfold nearest
  dsimp only
  rw [if_neg (Nat.not_lt.mpr h), hodd, ite_self]

theorem nearest_eq_of_lt (h : 2 * (num % (den * spacing (num / den))) < den * spacing (num / den)) :
    nearest num den = num / (den * spacing (num / den)) * spacing (num / den) := by
  unfold nearest
  exact if_pos h

/-- Rounding stays within the powers of two around the ratio. -/
theorem nearest_le_two_pow (num den : Nat) : nearest num den ≤ 2 ^ ((num / den).log2 + 1) := by
  obtain ⟨c, hc⟩ : spacing (num / den) ∣ 2 ^ ((num / den).log2 + 1) := Nat.pow_dvd_pow 2 (by omega)
  have hlt : num / (den * spacing (num / den)) < c := by
    rw [← Nat.div_div_eq_div_mul, Nat.div_lt_iff_lt_mul (spacing_pos _), Nat.mul_comm, ← hc]
    exact Nat.lt_log2_self
  calc nearest num den ≤ (num / (den * spacing (num / den)) + 1) * spacing (num / den) := nearest_le num den
    _ ≤ c * spacing (num / den) := Nat.mul_le_mul_right _ hlt
    _ = 2 ^ ((num / den).log2 + 1) := by rw [Nat.mul_comm, hc]

/-- What a ratio rounds to lies on the grid of its own size, also where rounding reaches the next power of two. -/
theorem spacing_dvd_nearest (num den : Nat) : spacing (nearest num den) ∣ nearest num den := by
  rcases Nat.lt_or_eq_of_le (nearest_le_two_pow num den) with h | h
  · refine Nat.dvd_trans (Nat.pow_dvd_pow 2 (Nat.sub_le_sub_right ?_ 52)) (spacing_dvd_nearest_of_quotient num den)
    by_cases h0 : nearest num den = 0
    · simp [h0]
    · exact Nat.le_of_lt_succ ((Nat.log2_lt h0).mpr h)
  · rw [h, spacing, Nat.log2_two_pow]
    exact Nat.pow_dvd_pow 2 (Nat.sub_le _ _)

/-- On a grid of `2 ^ 53` spacings, rounding reaches the end from half a spacing in front of it on. -/
theorem nearest_lt_iff_of_spacing {p : Nat} (hp : 0 < p) (hden : 0 < den) (hs : spacing (num / den) = 2 * p)
    (hq : num / den < 2 ^ 53 * (2 * p)) :
    nearest num den < 2 ^ 53 * (2 * p) ↔ num < (2 ^ 54 - 1) * (p * den) := by
  have hgrid : den * spacing (num / den) = 2 * (p * den) := by rw [hs, Nat.mul_comm, Nat.mul_assoc]
  have hx : 0 < p * den := Nat.mul_pos hp hden
  have hdown := @nearest_eq_of_lt num den
  have hup := @nearest_eq_of_odd num den
  have hle := nearest_le num den
  have hlower : num / (den * spacing (num / den)) < 2 ^ 53 := by
    rw [← Nat.div_div_eq_div_mul, hs]
    exact (Nat.div_lt_iff_lt_mul (by omega)).mpr hq
  have hsum := Nat.div_add_mod num (den * spacing (num / den))
  have hrest := Nat.mod_lt num (show 0 < den * spacing (num / den) by omega)
  rw [hgrid, hs] at hdown hup hle
  rw [hgrid] at hlower hsum hrest
  generalize p * den = x at *
  generalize num / (2 * x) = lower, num % (2 * x) = rest at *
  rcases Nat.lt_or_ge (lower + 1) (2 ^ 53) with hl | hl
  · -- not on the last spacing
    have hend : (lower + 1) * (2 * p) < 2 ^ 53 * (2 * p) := (Nat.mul_lt_mul_right (by omega)).mpr hl
    have hnum : 2 * x * (lower + 1) ≤ 2 * x * (2 ^ 53 - 1) := Nat.mul_le_mul_left _ (by omega)
    rw [Nat.mul_add, Nat.mul_one] at hnum
    exact iff_of_true (Nat.lt_of_le_of_lt hle hend) (by omega)
  · obtain rfl : lower = 2 ^ 53 - 1 := by omega
    rcases Nat.lt_or_ge (2 * rest) (2 * x) with hr | hr
    · exact iff_of_true (by rw [hdown hr]; omega) (by omega)
    · exact iff_of_false (by rw [hup (by decide) hr]; omega) (by omega)

/-- Between the last number below a power of two and the power itself, rounding goes down in front of the middle and up
from it on. -/
theorem nearest_lt_two_pow_iff (k : Nat) (hden : 0 < den) :
    nearest num den < 2 ^ (k + 54) ↔ num < (2 ^ (k + 54) - 2 ^ k) * den := by
  have hpow : ∀ j, 2 ^ (k + j) = 2 ^ j * 2 ^ k := fun j => by rw [Nat.pow_add, Nat.mul_comm]
  have hk : 0 < 2 ^ k := Nat.two_pow_pos k
  have hend : (2 ^ (k + 54) - 2 ^ k) * den = (2 ^ 54 - 1) * (2 ^ k * den) := by
    rw [hpow, ← Nat.mul_assoc]
    congr 1
    omega
  rcases Nat.lt_or_ge (num / den) (2 ^ (k + 54)) with hq | hq
  · rcases Nat.lt_or_ge (num / den) (2 ^ (k + 53)) with hlow | hlow
    · -- far below the power both hold
      have hlog : (num / den).log2 + 1 ≤ k + 53 := by
        by_cases h0 : num / den = 0
        · simp [h0]
        · exact (Nat.log2_lt h0).mpr hlow
      have hn : nearest num den ≤ 2 ^ (k + 53) :=
        Nat.le_trans (nearest_le_two_pow num den) (Nat.pow_le_pow_right (by decide) hlog)
      have hnum : num < 2 ^ (k + 53) * den := (Nat.div_lt_iff_lt_mul hden).mp hlow
      have hmid : 2 ^ (k + 53) ≤ 2 ^ (k + 54) - 2 ^ k := by
        rw [hpow, hpow]
        omega
      refine iff_of_true ?_ (Nat.lt_of_lt_of_le hnum (Nat.mul_le_mul_right _ hmid))
      rw [hpow] at hn ⊢
      omega
    · -- on the last grid in front of the power
      have hlog : (num / den).log2 = k + 53 := by
        rw [Nat.log2_eq_iff (by have := Nat.two_pow_pos (k + 53); omega)]
        exact ⟨hlow, hq⟩
      have hs : spacing (num / den) = 2 * 2 ^ k := by
        rw [spacing, hlog, Nat.mul_comm, show k + 53 - 52 = k + 1 by omega]
        exact Nat.pow_succ 2 k
      have hgrid : 2 ^ (k + 54) = 2 ^ 53 * (2 * 2 ^ k) := by
        rw [hpow]
        omega
      rw [hgrid] at hq
      rw [hend, hgrid]
      exact nearest_lt_iff_of_spacing hk hden hs hq
  · -- from the power on neither holds
    have hnum : 2 ^ (k + 54) * den ≤ num := (Nat.le_div_iff_mul_le hden).mp hq
    refine iff_of_false (Nat.not_lt.mpr (two_pow_le_nearest hq)) (Nat.not_lt.mpr (Nat.le_trans ?_ hnum))
    exact Nat.mul_le_mul_right _ (Nat.sub_le _ _)

theorem nearest_mul_two_pow_lt_iff (num k u : Nat) (hden : 0 < den) :
    nearest (num * 2 ^ u) den < 2 ^ (k + u + 54) ↔ num < (2 ^ (k + 54) - 2 ^ k) * den := by
  have hend : (2 ^ (k + u + 54) - 2 ^ (k + u)) * den = (2 ^ (k + 54) - 2 ^ k) * den * 2 ^ u := by
    rw [show k + u + 54 = k + 54 + u by omega, Nat.pow_add, Nat.pow_add 2 k u, ← Nat.sub_mul, Nat.mul_right_comm]
  rw [nearest_lt_two_pow_iff (k + u) hden, hend, Nat.mul_lt_mul_right (Nat.two_pow_pos u)]

end Nearest

/-- The least magnitude that rounds to an infinity, half a spacing below 2¹⁰²⁴. -/
def overflow : Nat := Nat.pow 2 1024 - Nat.pow 2 970

theorem isFinite_ofUnits_iff (negative : Bool) (n : Nat) : (ofUnits negative n).isFinite = true ↔ Representable n := by
  unfold ofUnits
  split
  · rename_i h
    exact iff_of_true rfl h
  · rename_i h
    exact iff_of_false Bool.false_ne_true h

/-- A ratio is read as a number of the format exactly in front of the end of its range. -/
theorem isFinite_ofRatio_iff (negative : Bool) (num : Nat) {den : Nat} (hden : 0 < den) :
    (ofRatio negative num den).isFinite = true ↔ num < overflow * den := by
  have hfits : Representable (nearest (num * unitsOfOne) den) ↔ nearest (num * unitsOfOne) den < infinityUnits :=
    and_iff_left (spacing_dvd_nearest _ den)
  have h2098 : 2098 = 970 + 1074 + 54 := rfl
  have h1024 : 1024 = 970 + 54 := rfl
  rw [ofRatio, isFinite_ofUnits_iff, hfits]
  delta infinityUnits unitsOfOne overflow
  rw [h2098, h1024]
  generalize 970 = k, 1074 = u
  exact nearest_mul_two_pow_lt_iff num k u hden

theorem ofUnits_of_isFinite_eq_false {negative : Bool} {n : Nat} (h : (ofUnits negative n).isFinite = false) :
    ofUnits negative n = .infinite negative := by
  unfold ofUnits at h ⊢
  split at h
  · cases h
  · rename_i hn
    exact dif_neg hn

end Binary64
end QueryGate
