import Mathlib.Algebra.Group.Nat.Defs
import QueryGate.Binary64.Basic

/-! Rounding to the format. Scaling a ratio does not change what it rounds to, a number of the format rounds to itself,
and with both, `ofDecimal` is the rounding of an exact ratio for any way to write the power of ten. -/
namespace QueryGate
namespace Binary64

theorem spacing_pos (n : Nat) : 0 < spacing n := Nat.two_pow_pos _

theorem nearest_mul_right (num den : Nat) {k : Nat} (hk : 0 < k) : nearest (num * k) (den * k) = nearest num den := by
  have hstep : ∀ step, den * k * step = den * step * k := fun step => Nat.mul_right_comm den k step
  unfold nearest
  simp only [Nat.mul_div_mul_right _ _ hk, hstep, Nat.mul_mod_mul_right, ← Nat.mul_assoc, Nat.mul_lt_mul_right hk]

theorem nearest_of_two_mul_lt {num den : Nat} (h : 2 * num < den) : nearest num den = 0 := by
  have hq : num / den = 0 := Nat.div_eq_of_lt (by omega)
  have hs : spacing 0 = 1 := rfl
  unfold nearest
  simp only [hq, hs, Nat.mul_one, Nat.mod_eq_of_lt (show num < den by omega), if_pos h]

theorem nearest_zero (den : Nat) : nearest 0 den = 0 := by
  unfold nearest
  simp

/-- A number of the format rounds to itself. -/
theorem nearest_mul_self {n d : Nat} (h : spacing n ∣ n) (hd : 0 < d) : nearest (n * d) d = n := by
  have hmod : n * d % (d * spacing n) = 0 := by
    obtain ⟨c, hc⟩ := h
    exact Nat.mod_eq_zero_of_dvd ⟨c, by rw [Nat.mul_assoc, ← hc, Nat.mul_comm]⟩
  have hdiv : n * d / (d * spacing n) = n / spacing n := by
    rw [Nat.mul_comm n d, Nat.mul_div_mul_left _ _ hd]
  unfold nearest
  simp only [Nat.mul_div_cancel _ hd, hmod, hdiv, Nat.mul_zero, Nat.mul_pos hd (spacing_pos n), if_true]
  exact Nat.div_mul_cancel h

theorem le_nearest (num den : Nat) :
    num / (den * spacing (num / den)) * spacing (num / den) ≤ nearest num den := by
  unfold nearest
  dsimp only
  split
  · exact Nat.le_refl _
  · split
    · exact Nat.mul_le_mul_right _ (Nat.le_succ _)
    · exact Nat.mul_le_mul_right _ (Nat.le_add_right _ _)

/-- The lower neighbour of a ratio on its grid is still at least the power of two below the ratio. -/
theorem two_pow_log2_le_lower {num den : Nat} (h : num / den ≠ 0) :
    2 ^ (num / den).log2 ≤ num / (den * spacing (num / den)) * spacing (num / den) := by
  obtain ⟨c, hc⟩ : spacing (num / den) ∣ 2 ^ (num / den).log2 := Nat.pow_dvd_pow 2 (Nat.sub_le _ 52)
  rw [← Nat.div_div_eq_div_mul, hc, Nat.mul_comm]
  refine Nat.mul_le_mul_right _ ((Nat.le_div_iff_mul_le (spacing_pos _)).mpr ?_)
  rw [Nat.mul_comm, ← hc]
  exact Nat.log2_self_le h

/-- Rounding does not go below a power of two. -/
theorem two_pow_le_nearest {k num den : Nat} (h : 2 ^ k ≤ num / den) : 2 ^ k ≤ nearest num den := by
  have hq : num / den ≠ 0 := by
    have := Nat.two_pow_pos k
    omega
  have hlog : k ≤ (num / den).log2 := (Nat.le_log2 hq).mpr h
  calc 2 ^ k ≤ 2 ^ (num / den).log2 := Nat.pow_le_pow_right (by decide) hlog
    _ ≤ num / (den * spacing (num / den)) * spacing (num / den) := two_pow_log2_le_lower hq
    _ ≤ nearest num den := le_nearest num den

theorem ofUnits_zero (negative : Bool) : ofUnits negative 0 = zero negative := dif_pos representable_zero

theorem ofUnits_of_infinityUnits_le {negative : Bool} {n : Nat} (h : infinityUnits ≤ n) :
    ofUnits negative n = .infinite negative :=
  dif_neg fun hr => Nat.not_lt.mpr h hr.1

theorem ofRatio_mul_right (negative : Bool) (num den : Nat) {k : Nat} (hk : 0 < k) :
    ofRatio negative (num * k) (den * k) = ofRatio negative num den := by
  unfold ofRatio
  rw [Nat.mul_right_comm, nearest_mul_right _ _ hk]

theorem ofRatio_zero (negative : Bool) (den : Nat) : ofRatio negative 0 den = zero negative := by
  rw [ofRatio, Nat.zero_mul, nearest_zero, ofUnits_zero]

/-- What is as large as infinity is infinite, whatever else it is. -/
theorem ofRatio_one_of_le (negative : Bool) {num : Nat} (h : infinityUnits ≤ num * unitsOfOne) :
    ofRatio negative num 1 = .infinite negative := by
  refine ofUnits_of_infinityUnits_le ?_
  delta infinityUnits at h ⊢
  generalize 2098 = i at h ⊢
  exact two_pow_le_nearest (by rwa [Nat.div_one])

/-- What is less than half a unit is nothing. -/
theorem ofRatio_of_lt (negative : Bool) {num den : Nat} (h : 2 * (num * unitsOfOne) < den) :
    ofRatio negative num den = zero negative := by
  rw [ofRatio, nearest_of_two_mul_lt h, ofUnits_zero]

theorem two_pow_le_ten_pow (k : Nat) : 2 ^ (3 * k) ≤ 10 ^ k := by
  rw [Nat.pow_mul]
  exact Nat.pow_le_pow_left (by decide) k

theorem two_pow_le_mul_ten_pow {m e i u : Nat} (hm : m ≠ 0) (h : i ≤ 3 * e + u) : 2 ^ i ≤ m * 10 ^ e * 2 ^ u := by
  calc 2 ^ i ≤ 2 ^ (3 * e + u) := Nat.pow_le_pow_right (by decide) h
    _ = 2 ^ (3 * e) * 2 ^ u := Nat.pow_add ..
    _ ≤ m * 10 ^ e * 2 ^ u := Nat.mul_le_mul_right _ (Nat.le_trans (two_pow_le_ten_pow e)
      (Nat.le_mul_of_pos_left _ (Nat.pos_of_ne_zero hm)))

theorem mul_two_pow_lt_ten_pow {m k u : Nat} (h : m.log2 + u + 2 ≤ 3 * k) : 2 * (m * 2 ^ u) < 10 ^ k := by
  calc 2 * (m * 2 ^ u) = m * 2 ^ (u + 1) := by rw [Nat.pow_succ, Nat.mul_comm 2, Nat.mul_assoc]
    _ < 2 ^ (m.log2 + 1) * 2 ^ (u + 1) := (Nat.mul_lt_mul_right (Nat.two_pow_pos _)).mpr Nat.lt_log2_self
    _ = 2 ^ (m.log2 + 1 + (u + 1)) := (Nat.pow_add ..).symm
    _ ≤ 2 ^ (3 * k) := Nat.pow_le_pow_right (by decide) (by omega)
    _ ≤ 10 ^ k := two_pow_le_ten_pow k

theorem ofDecimal_natCast (negative : Bool) (m e : Nat) :
    ofDecimal negative m e = ofRatio negative (m * 10 ^ e) 1 := by
  unfold ofDecimal
  by_cases hm : m = 0
  · rw [if_pos hm, hm, Nat.zero_mul, ofRatio_zero]
  · rw [if_neg hm]
    by_cases he : 400 < e
    · rw [if_pos (by omega), ofRatio_one_of_le]
      have hi : 2098 ≤ 3 * e + 1074 := by omega
      delta infinityUnits unitsOfOne
      generalize 2098 = i, 1074 = u at hi ⊢
      exact two_pow_le_mul_ten_pow hm hi
    · rw [if_neg (by omega), if_pos (by omega)]
      rfl

theorem ofDecimal_neg (negative : Bool) (m : Nat) {e : Nat} (he : 0 < e) :
    ofDecimal negative m (-e) = ofRatio negative m (10 ^ e) := by
  unfold ofDecimal
  by_cases hm : m = 0
  · rw [if_pos hm, hm, ofRatio_zero]
  · rw [if_neg hm, if_neg (by omega), if_neg (by omega), Int.natAbs_neg, Int.natAbs_natCast]
    split
    · have hu : m.log2 + 1074 + 2 ≤ 3 * e := by omega
      rw [ofRatio_of_lt]
      delta unitsOfOne
      generalize 1074 = u at hu ⊢
      exact mul_two_pow_lt_ten_pow hu
    · rfl

/-- The value of a decimal is the rounding of an exact ratio, however its power of ten is written. -/
theorem ofDecimal_sub (negative : Bool) (m a b : Nat) :
    ofDecimal negative m (a - b) = ofRatio negative (m * 10 ^ a) (10 ^ b) := by
  rcases Nat.lt_or_ge a b with h | h
  · rw [show (a : Int) - b = -((b - a : Nat) : Int) by omega, ofDecimal_neg negative m (by omega),
      ← ofRatio_mul_right negative m (10 ^ (b - a)) (Nat.pow_pos (n := a) (show 0 < 10 by decide)), ← Nat.pow_add,
      Nat.sub_add_cancel (Nat.le_of_lt h)]
  · rw [show (a : Int) - b = ((a - b : Nat) : Int) by omega, ofDecimal_natCast,
      ← ofRatio_mul_right negative _ 1 (Nat.pow_pos (n := b) (show 0 < 10 by decide)), Nat.one_mul, Nat.mul_assoc,
      ← Nat.pow_add, Nat.sub_add_cancel h]

theorem ofDecimal_mul_ten_pow (negative : Bool) (m k : Nat) (e : Int) :
    ofDecimal negative (m * 10 ^ k) e = ofDecimal negative m (e + k) := by
  have he : e = (e.toNat : Int) - (-e).toNat := by omega
  rw [he, ofDecimal_sub, show ((e.toNat : Int) - (-e).toNat) + k = ((k + e.toNat : Nat) : Int) - (-e).toNat by omega,
    ofDecimal_sub, Nat.mul_assoc, ← Nat.pow_add]

/-- The sign of a decimal has no part in its rounding. -/
theorem ofDecimal_eq_ofUnits {m n : Nat} {e : Int} (negative : Bool) (hn : Representable n)
    (h : ofDecimal false m e = ofUnits false n) : ofDecimal negative m e = ofUnits negative n := by
  have he : e = (e.toNat : Int) - (-e).toNat := by omega
  rw [he, ofDecimal_sub] at h ⊢
  unfold ofRatio at h ⊢
  generalize nearest _ _ = u at h ⊢
  unfold ofUnits at h
  rw [dif_pos hn] at h
  split at h
  · cases h
    rfl
  · cases h

end Binary64
end QueryGate
