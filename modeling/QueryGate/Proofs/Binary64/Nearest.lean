import QueryGate.Proofs.Binary64.Monotone

/-! Rounding to the nearest. No number with 53 significant bits is nearer to a ratio than what it is rounded to, and of
two equally near ones it is rounded to the one with an even significand. -/
namespace QueryGate
namespace Binary64

/-- Between the two neighbours of a ratio there is no other number with 53 significant bits. -/
theorem le_lower_or_upper_le (num den : Nat) {m : Nat} (hm : spacing m ∣ m) :
    m ≤ num / (den * spacing (num / den)) * spacing (num / den) ∨
      (num / (den * spacing (num / den)) + 1) * spacing (num / den) ≤ m := by
  rcases Nat.lt_or_ge (num / (den * spacing (num / den)) * spacing (num / den)) m with hlt | hle
  · have hlog : (num / den).log2 - 52 ≤ m.log2 - 52 := by
      by_cases hq : num / den = 0
      · simp [hq]
      · have hpow := Nat.lt_of_le_of_lt (two_pow_log2_le_lower hq) hlt
        exact Nat.sub_le_sub_right ((Nat.le_log2 (Nat.ne_zero_of_lt hlt)).mpr (Nat.le_of_lt hpow)) 52
    obtain ⟨c, rfl⟩ : spacing (num / den) ∣ m := Nat.dvd_trans (Nat.pow_dvd_pow 2 hlog) hm
    rw [Nat.mul_comm (spacing _), Nat.mul_lt_mul_right (spacing_pos _)] at hlt
    rw [Nat.mul_comm (spacing _)]
    exact .inr (Nat.mul_le_mul_right _ hlt)
  · exact .inl hle

/-- A ratio is rounded to the neighbour on the side where the rest is at most half a spacing. -/
theorem nearest_cases (num den : Nat) :
    (2 * (num % (den * spacing (num / den))) ≤ den * spacing (num / den) ∧
      nearest num den = num / (den * spacing (num / den)) * spacing (num / den)) ∨
    (den * spacing (num / den) ≤ 2 * (num % (den * spacing (num / den))) ∧
      nearest num den = (num / (den * spacing (num / den)) + 1) * spacing (num / den)) := by
  unfold nearest
  dsimp only
  split_ifs with hlt hgt
  · exact .inl ⟨Nat.le_of_lt hlt, rfl⟩
  · exact .inr ⟨Nat.le_of_lt hgt, rfl⟩
  · rcases Nat.mod_two_eq_zero_or_one (num / (den * spacing (num / den))) with heven | hodd
    · exact .inl ⟨by omega, by rw [heven, Nat.add_zero]⟩
    · exact .inr ⟨by omega, by rw [hodd]⟩

theorem two_mul_spacing_dvd_nearest {num den : Nat} (h : 2 * (num % (den * spacing (num / den))) = den * spacing (num / den)) :
    2 * spacing (num / den) ∣ nearest num den := by
  unfold nearest
  simp only [h, Nat.lt_irrefl, if_false]
  exact Nat.mul_dvd_mul_right (by omega) _

/-- No number with 53 significant bits is nearer to a ratio than what the ratio is rounded to. Where another one is as
near, the ratio is rounded to an even multiple of the spacing. -/
theorem nearest_closest (num : Nat) {den m : Nat} (hden : 0 < den) (hm : spacing m ∣ m) :
    let error (n : Nat) : Nat := ((n * den : Nat) - num : Int).natAbs
    error (nearest num den) ≤ error m ∧
      (error (nearest num den) = error m → nearest num den = m ∨ 2 * spacing (num / den) ∣ nearest num den) := by
  intro error
  have hmul : ∀ k, k * spacing (num / den) * den = den * spacing (num / den) * k := fun k => by
    rw [Nat.mul_comm, ← Nat.mul_assoc, Nat.mul_right_comm]
  have hsum := Nat.div_add_mod num (den * spacing (num / den))
  have hside := (le_lower_or_upper_le num den hm).imp (Nat.mul_le_mul_right den) (Nat.mul_le_mul_right den)
  rw [hmul, hmul, Nat.mul_succ] at hside
  have hnearest : (2 * (num % (den * spacing (num / den))) ≤ den * spacing (num / den) ∧
        nearest num den * den = den * spacing (num / den) * (num / (den * spacing (num / den)))) ∨
      (den * spacing (num / den) ≤ 2 * (num % (den * spacing (num / den))) ∧
        nearest num den * den =
          den * spacing (num / den) * (num / (den * spacing (num / den))) + den * spacing (num / den)) := by
    refine (nearest_cases num den).imp (And.imp_right fun h => ?_) (And.imp_right fun h => ?_)
    · rw [h, hmul]
    · rw [h, hmul, Nat.mul_succ]
  have hlt : num % (den * spacing (num / den)) < den * spacing (num / den) :=
    Nat.mod_lt _ (Nat.mul_pos hden (spacing_pos _))
  have heven : 2 * (num % (den * spacing (num / den))) = den * spacing (num / den) →
      2 * spacing (num / den) ∣ nearest num den := two_mul_spacing_dvd_nearest
  have hcancel : nearest num den * den = m * den → nearest num den = m := Nat.eq_of_mul_eq_mul_right hden
  dsimp only [error]
  generalize den * spacing (num / den) * (num / (den * spacing (num / den))) = lower at *
  generalize num % (den * spacing (num / den)) = rest at *
  generalize den * spacing (num / den) = width at *
  generalize nearest num den * den = value, m * den = other at *
  constructor
  · omega
  · intro htie
    by_cases hmiddle : 2 * rest = width
    · exact .inr (heven hmiddle)
    · exact .inl (hcancel (by omega))

theorem integerUnits_eq_nearest {n : Nat} (h : n ≤ 2 ^ 63) : integerUnits n = nearest (n * unitsOfOne) 1 := by
  have hend : nearest (2 ^ 63 * unitsOfOne) 1 ≤ infinityUnits := by
    have hexp : 63 + 1074 ≤ 2098 := by decide
    delta unitsOfOne infinityUnits
    generalize 1074 = u, 2098 = k at hexp ⊢
    have hgrid : spacing (2 ^ (63 + u)) ∣ 2 ^ (63 + u) := by
      rw [spacing, Nat.log2_two_pow]
      exact Nat.pow_dvd_pow 2 (Nat.sub_le _ _)
    have hself := nearest_mul_self hgrid (show 0 < 1 by decide)
    rw [Nat.mul_one] at hself
    show nearest (2 ^ 63 * 2 ^ u) 1 ≤ 2 ^ k
    rw [← Nat.pow_add, hself]
    exact Nat.pow_le_pow_right (by decide) hexp
  exact Nat.min_eq_left (Nat.le_trans (nearest_mono (Nat.mul_le_mul_right _ h)) hend)

/-- A finite number to an integer than which no other is nearer. Where another one is as near, it is an even multiple of
the spacing at the integer. -/
def IsNearest (x : Binary64) (i : Int) : Prop :=
  ∃ p, x.position? = some p ∧ x.isFinite = true ∧
    ∀ (y : Binary64) (j : Int), y.isFinite = true → y.position? = some j →
      (p - i * unitsOfOne).natAbs ≤ (j - i * unitsOfOne).natAbs ∧
        ((p - i * unitsOfOne).natAbs = (j - i * unitsOfOne).natAbs →
          p = j ∨ 2 * spacing (i.natAbs * unitsOfOne) ∣ p.natAbs)

theorem isFinite_ofInt {i : Int} (hi : i.natAbs ≤ 2 ^ 63) : (ofInt i).isFinite = true := by
  have hend : 2 ^ 63 < overflow := by decide +kernel
  rw [ofInt, isFinite_ofRatio_iff _ _ (by decide), Nat.mul_one]
  exact Nat.lt_of_le_of_lt hi hend

/-- Integers of 64 bits are rounded to the nearest number. -/
theorem isNearest_ofInt {i : Int} (hi : i.natAbs ≤ 2 ^ 63) : IsNearest (ofInt i) i := by
  refine ⟨_, position?_ofInt i, isFinite_ofInt hi, fun x j hx hj => ?_⟩
  cases x with
  | nan => cases hx
  | infinite negative => cases hx
  | finite negative n fits =>
    have hn := nearest_closest (i.natAbs * unitsOfOne) (show 0 < 1 by decide) fits.2
    have hzero := (nearest_closest (i.natAbs * unitsOfOne) (show 0 < 1 by decide) (Nat.dvd_zero (spacing 0))).1
    have hvalue : i * unitsOfOne =
        if i < 0 then -((i.natAbs * unitsOfOne : Nat) : Int) else (i.natAbs * unitsOfOne : Nat) := by
      rw [Int.natCast_mul]
      split_ifs with hs
      · rw [← Int.neg_mul]
        congr 1
        omega
      · congr 1
        omega
    have habs : (integerPosition i).natAbs = nearest (i.natAbs * unitsOfOne) 1 := by
      unfold integerPosition
      rw [integerUnits_eq_nearest hi]
      split_ifs <;> omega
    rw [habs]
    simp only [Nat.mul_one, Nat.div_one] at hn hzero
    rw [hvalue]
    rw [integerPosition, integerUnits_eq_nearest hi]
    generalize i.natAbs * unitsOfOne = exact at *
    generalize nearest exact 1 = rounded at *
    simp only [position?, Option.some.injEq] at hj
    constructor
    · split_ifs at * <;> omega
    · intro htie
      refine (hn.2 ?_).imp ?_ id
      · split_ifs at * <;> omega
      · split_ifs at * <;> omega

end Binary64
end QueryGate
