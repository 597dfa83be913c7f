import Mathlib.Order.Defs.LinearOrder
import QueryGate.Number
import QueryGate.Proofs.Binary64.Monotone

/-! The order of numbers. Two whole numbers are compared as they are and any other two after rounding, so the order is
transitive except through a binary64 number to which two different whole numbers are rounded. -/
namespace QueryGate
namespace Number

variable {a b c : Number}

/-- The position of a number on the line of units, once it is rounded. -/
def position? (a : Number) : Option Int := a.toBinary64.position?

def AtMost (a b : Number) : Prop := ∃ o, a.compare? b = some o ∧ o ≠ .gt

/-- A binary64 number that is equal to two whole numbers and stands between them in the wrong order. -/
inductive Blurred : Number → Number → Number → Prop
  | through {m n : Int64} {x : Binary64} (lt : n.toInt < m.toInt)
      (left : (whole m).compare? (real x) = some .eq) (right : (real x).compare? (whole n) = some .eq) :
      Blurred (whole m) (real x) (whole n)

theorem position?_whole (n : Int64) : (whole n).position? = some (Binary64.integerPosition n.toInt) :=
  Binary64.position?_ofInt n.toInt

theorem position?_eq_none_iff : a.position? = none ↔ a = real .nan := by
  cases a with
  | whole n => simp [position?_whole]
  | real x =>
    cases x with
    | nan => exact iff_of_true rfl rfl
    | infinite negative => exact iff_of_false (Option.some_ne_none _) (by simp)
    | finite negative n fits => exact iff_of_false (Option.some_ne_none _) (by simp)

/-- Two numbers that are not both whole are compared by their positions. -/
theorem compare?_of_real (h : ¬∃ m n, a = whole m ∧ b = whole n) :
    a.compare? b = (do some (compare (← a.position?) (← b.position?))) := by
  cases a with
  | real x => rfl
  | whole m =>
    cases b with
    | real x => rfl
    | whole n => exact absurd ⟨m, n, rfl, rfl⟩ h

theorem compare?_swap (a b : Number) : a.compare? b = (b.compare? a).map Ordering.swap := by
  by_cases h : ∃ m n, a = whole m ∧ b = whole n
  · obtain ⟨m, n, rfl, rfl⟩ := h
    simp [Int.compare_swap]
  · have h' : ¬∃ n m, b = whole n ∧ a = whole m := fun ⟨n, m, hb, ha⟩ => h ⟨m, n, ha, hb⟩
    rw [compare?_of_real h, compare?_of_real h']
    cases a.position? <;> cases b.position? <;> simp [Int.compare_swap]

theorem compare?_eq_none_iff : a.compare? b = none ↔ a = real .nan ∨ b = real .nan := by
  by_cases h : ∃ m n, a = whole m ∧ b = whole n
  · obtain ⟨m, n, rfl, rfl⟩ := h
    simp
  · rw [compare?_of_real h, ← position?_eq_none_iff, ← position?_eq_none_iff]
    cases a.position? <;> cases b.position? <;> simp

theorem atMost_whole {m n : Int64} : AtMost (whole m) (whole n) ↔ m.toInt ≤ n.toInt := by
  simp [AtMost, Int.compare_ne_gt]

theorem atMost_of_real (h : ¬∃ m n, a = whole m ∧ b = whole n) :
    AtMost a b ↔ ∃ i j, a.position? = some i ∧ b.position? = some j ∧ i ≤ j := by
  rw [AtMost, compare?_of_real h]
  cases a.position? <;> cases b.position? <;> simp [Int.compare_ne_gt]

/-- Rounding may join two numbers, but does not exchange them. -/
theorem AtMost.position_le (h : AtMost a b) : ∃ i j, a.position? = some i ∧ b.position? = some j ∧ i ≤ j := by
  by_cases hw : ∃ m n, a = whole m ∧ b = whole n
  · obtain ⟨m, n, rfl, rfl⟩ := hw
    exact ⟨_, _, position?_whole m, position?_whole n, Binary64.integerPosition_mono (atMost_whole.mp h)⟩
  · exact (atMost_of_real hw).mp h

theorem exists_compare? (ha : a ≠ real .nan) (hb : b ≠ real .nan) : ∃ o, a.compare? b = some o :=
  Option.ne_none_iff_exists'.mp (by simp [compare?_eq_none_iff, ha, hb])

theorem atMost_iff_of_compare? {o : Ordering} (h : a.compare? b = some o) :
    (AtMost a b ↔ o ≠ .gt) ∧ (AtMost b a ↔ o ≠ .lt) := by
  have hswap := compare?_swap b a
  rw [h] at hswap
  unfold AtMost
  rw [h, hswap]
  cases o <;> simp

theorem atMost_total (ha : a ≠ real .nan) (hb : b ≠ real .nan) : AtMost a b ∨ AtMost b a := by
  obtain ⟨o, ho⟩ := exists_compare? ha hb
  obtain ⟨hle, hge⟩ := atMost_iff_of_compare? ho
  rw [hle, hge]
  cases o <;> decide

theorem compare?_eq_some_eq_iff : a.compare? b = some .eq ↔ AtMost a b ∧ AtMost b a := by
  constructor
  · intro h
    obtain ⟨hle, hge⟩ := atMost_iff_of_compare? h
    exact ⟨hle.mpr (by decide), hge.mpr (by decide)⟩
  · rintro ⟨⟨o, ho, hgt⟩, h⟩
    have hlt := (atMost_iff_of_compare? ho).2.mp h
    cases o with
    | eq => exact ho
    | lt => exact absurd rfl hlt
    | gt => exact absurd rfl hgt

/-- Whole numbers in the wrong order that have a number between their positions are rounded to it. -/
theorem blurred_of_lt {m n : Int64} (hm : AtMost (whole m) b) (hn : AtMost b (whole n)) (h : n.toInt < m.toInt) :
    Blurred (whole m) b (whole n) := by
  obtain ⟨i, j, hi, hj, hij⟩ := hm.position_le
  obtain ⟨j', k, hj', hk, hjk⟩ := hn.position_le
  have hki : k ≤ i := by
    have hmono := Binary64.integerPosition_mono (Int.le_of_lt h)
    rw [position?_whole, Option.some_inj] at hi hk
    rwa [hi, hk] at hmono
  obtain rfl : j = j' := Option.some.inj (hj.symm.trans hj')
  obtain rfl : i = j := by omega
  obtain rfl : i = k := by omega
  cases b with
  | whole p =>
    rw [atMost_whole] at hm hn
    omega
  | real x => exact .through h (by simp [compare?_of_real, hi, hj]) (by simp [compare?_of_real, hj, hk])

/-- The order is transitive but for a blurred triple. -/
theorem atMost_trans_iff (h : AtMost a b) (h' : AtMost b c) : AtMost a c ↔ ¬Blurred a b c := by
  by_cases hw : ∃ m n, a = whole m ∧ c = whole n
  · obtain ⟨m, n, rfl, rfl⟩ := hw
    rw [atMost_whole]
    constructor
    · rintro hmn ⟨lt⟩
      omega
    · intro hb
      by_contra hmn
      exact hb (blurred_of_lt h h' (by omega))
  · obtain ⟨i, j, hi, hj, hij⟩ := h.position_le
    obtain ⟨j', k, hj', hk, hjk⟩ := h'.position_le
    obtain rfl : j = j' := Option.some.inj (hj.symm.trans hj')
    have hac : AtMost a c := (atMost_of_real hw).mpr ⟨i, k, hi, hk, Int.le_trans hij hjk⟩
    refine iff_of_true hac ?_
    rintro ⟨lt⟩
    exact hw ⟨_, _, rfl, rfl⟩

theorem Blurred.alike (h : Blurred a b c) : a.compare? b = some .eq ∧ b.compare? c = some .eq := by
  cases h with
  | through lt left right => exact ⟨left, right⟩

theorem compare?_eq_trans_iff (h : a.compare? b = some .eq) (h' : b.compare? c = some .eq) :
    a.compare? c = some .eq ↔ ¬Blurred a b c ∧ ¬Blurred c b a := by
  obtain ⟨hab, hba⟩ := compare?_eq_some_eq_iff.mp h
  obtain ⟨hbc, hcb⟩ := compare?_eq_some_eq_iff.mp h'
  rw [compare?_eq_some_eq_iff, atMost_trans_iff hab hbc, atMost_trans_iff hcb hba]

/-- No other integer is rounded to where one of fewer than 54 bits is, so blurred ones are at least 2⁵³ in magnitude. -/
theorem Blurred.large {m n : Int64} (h : Blurred (whole m) b (whole n)) :
    2 ^ 53 ≤ m.toInt.natAbs ∧ 2 ^ 53 ≤ n.toInt.natAbs := by
  obtain ⟨i, j, hi, hj, hij⟩ := (compare?_eq_some_eq_iff.mp h.alike.1).1.position_le
  obtain ⟨j', k, hj', hk, hjk⟩ := (compare?_eq_some_eq_iff.mp h.alike.2).1.position_le
  obtain rfl : j = j' := Option.some.inj (hj.symm.trans hj')
  rw [position?_whole, Option.some_inj] at hi hk
  have hlt : n.toInt < m.toInt := by
    cases h with
    | through lt => exact lt
  have hnot : ¬(n.toInt.natAbs < 2 ^ 53 ∨ m.toInt.natAbs < 2 ^ 53) := by
    intro hs
    have := Binary64.integerPosition_lt hlt hs
    omega
  omega

end Number
end QueryGate
