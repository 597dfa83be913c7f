import Mathlib.Data.List.TakeDrop
import QueryGate.PageInfo

/-! Places of pages: the rows from the first to the last place of a page are the ones that are left when those in front
of it are skipped, although the two are found by different sums that stop at the largest number at different points. -/
namespace QueryGate

variable {α : Type}

/-- The elements at the places from `a` to `b` of a list whose first element is at place `k`. -/
theorem map_fst_filter_zipIdx (xs : List α) (a b k : Nat) :
    ((xs.zipIdx k).filter fun x => decide (a ≤ x.2) && decide (x.2 ≤ b)).map Prod.fst =
      (xs.drop (a - k)).take (b + 1 - max a k) := by
  induction xs generalizing k with
  | nil => simp
  | cons x xs ih =>
    rw [List.zipIdx_cons, List.filter_cons]
    by_cases hlow : a ≤ k
    · have hdrop : a - k = 0 := by omega
      have hdrop' : a - (k + 1) = 0 := by omega
      by_cases hhigh : k ≤ b
      · have htake : b + 1 - max a k = b + 1 - max a (k + 1) + 1 := by omega
        rw [if_pos (by simp [hlow, hhigh]), List.map_cons, ih, hdrop, hdrop', htake]
        rfl
      · have htake : b + 1 - max a k = 0 := by omega
        have htake' : b + 1 - max a (k + 1) = 0 := by omega
        simp [hhigh, htake, htake', ih]
    · have hdrop : a - k = a - (k + 1) + 1 := by omega
      have hmax : max a k = max a (k + 1) := by omega
      simp [hlow, hdrop, hmax, ih]

/-! ### Windows of equal size -/

section Window

variable {total size p : Nat}

theorem ceil_le (total : Nat) (h : 1 ≤ size) : (total + size - 1) / size ≤ total := by
  refine Nat.le_of_lt_succ ((Nat.div_lt_iff_lt_mul h).mpr ?_)
  have hle : total ≤ total * size := Nat.le_mul_of_pos_right total h
  rw [Nat.succ_mul]
  omega

theorem ceil_eq_div (total : Nat) (h : 1 ≤ size) :
    (total + size - 1) / size = if total % size = 0 then total / size else total / size + 1 := by
  have hdiv := Nat.div_add_mod' total size
  have hmod := Nat.mod_lt total h
  split
  · rename_i hzero
    exact Nat.div_eq_of_lt_le (by omega) (by rw [Nat.succ_mul]; omega)
  · exact Nat.div_eq_of_lt_le (by rw [Nat.succ_mul]; omega) (by rw [Nat.succ_mul, Nat.succ_mul]; omega)

theorem le_ceil_mul (total : Nat) (h : 1 ≤ size) : total ≤ (total + size - 1) / size * size := by
  have hdiv := Nat.div_add_mod' (total + size - 1) size
  have hmod := Nat.mod_lt (total + size - 1) h
  omega

theorem mul_lt_of_lt_ceil (h : 1 ≤ size) (hp : p < (total + size - 1) / size) : p * size < total := by
  have hle := (Nat.le_div_iff_mul_le h).mp hp
  rw [Nat.succ_mul] at hle
  omega

theorem pred_mul_add (hp : 1 ≤ p) : (p - 1) * size + size = p * size := by
  rw [← Nat.succ_mul, Nat.succ_eq_add_one, Nat.sub_add_cancel hp]

theorem flatMap_windows_eq_take (xs : List α) (size k : Nat) :
    (List.range' 1 k).flatMap (fun p => (xs.drop ((p - 1) * size)).take size) = xs.take (k * size) := by
  induction k with
  | zero => simp
  | succ k ih =>
    rw [List.range'_1_concat, List.flatMap_append, ih, Nat.succ_mul, List.take_add, List.flatMap_singleton,
      Nat.add_sub_cancel_left]

theorem flatMap_windows (xs : List α) (h : 1 ≤ size) :
    (List.range' 1 ((xs.length + size - 1) / size)).flatMap (fun p => (xs.drop ((p - 1) * size)).take size) = xs := by
  rw [flatMap_windows_eq_take, List.take_of_length_le (le_ceil_mul _ h)]

/-- Every window is full but for the last one, which is not empty. -/
theorem length_window (xs : List α) (h : 1 ≤ size) (hp : 1 ≤ p) (hle : p ≤ (xs.length + size - 1) / size) :
    let window := (xs.drop ((p - 1) * size)).take size
    1 ≤ window.length ∧ window.length ≤ size ∧ (p < (xs.length + size - 1) / size → window.length = size) := by
  intro window
  have hstart : (p - 1) * size < xs.length := mul_lt_of_lt_ceil h (by omega)
  have hlength : window.length = min size (xs.length - (p - 1) * size) := by rw [List.length_take, List.length_drop]
  refine ⟨by omega, by omega, fun hlt => ?_⟩
  have hnext : p * size < xs.length := mul_lt_of_lt_ceil h hlt
  rw [← pred_mul_add hp] at hnext
  omega

end Window

/-! ### Steps of 64 bits -/

namespace Word

variable (a b : UInt64)

theorem difference_toNat : (difference a b).toNat = a.toNat - b.toNat := by
  unfold difference
  split
  · rename_i h
    exact UInt64.toNat_sub_of_le _ _ h
  · rename_i h
    rw [UInt64.le_iff_toNat_le] at h
    change 0 = _
    omega

theorem sum_toNat : (sum a b).toNat = min (a.toNat + b.toNat) (UInt64.size - 1) := by
  unfold sum
  split
  · rename_i h
    rw [UInt64.toNat_add, Nat.mod_eq_of_lt h]
    omega
  · rename_i h
    change UInt64.size - 1 = _
    omega

theorem product_toNat : (product a b).toNat = min (a.toNat * b.toNat) (UInt64.size - 1) := by
  unfold product
  split
  · rename_i h
    rw [UInt64.toNat_mul, Nat.mod_eq_of_lt h]
    omega
  · rename_i h
    change UInt64.size - 1 = _
    omega

variable {a b}

theorem mod_eq_zero_iff : a % b = 0 ↔ a.toNat % b.toNat = 0 := by
  rw [← UInt64.toNat_inj, UInt64.toNat_mod]
  rfl

/-- A quotient that leaves a rest has room to be rounded up. -/
theorem succ_div_lt (hb : 1 ≤ b.toNat) (h : a % b ≠ 0) : (a / b).toNat + 1 < UInt64.size := by
  have hle := ceil_le a.toNat hb
  rw [ceil_eq_div _ hb, if_neg (mt mod_eq_zero_iff.mpr h)] at hle
  rw [UInt64.toNat_div]
  exact Nat.lt_of_le_of_lt hle a.toNat_lt

theorem ceilDiv_toNat (hb : 1 ≤ b.toNat) : (ceilDiv a b).toNat = (a.toNat + b.toNat - 1) / b.toNat := by
  rw [ceil_eq_div _ hb, ceilDiv]
  by_cases h : a % b = 0
  · rw [if_pos h, if_pos (mod_eq_zero_iff.mp h), UInt64.toNat_div]
  · rw [if_neg h, if_neg (mt mod_eq_zero_iff.mpr h), UInt64.toNat_add, ← UInt64.toNat_div]
    exact Nat.mod_eq_of_lt (succ_div_lt hb h)

end Word

namespace PageInfo

open Word

/-- The elements at the places of a page. -/
def rowsOf (info : PageInfo) (xs : List α) : List α :=
  ((xs.zipIdx 1).filter fun x => decide (info.first.toNat ≤ x.2) && decide (x.2 ≤ info.last.toNat)).map Prod.fst

theorem rowsOf_eq (info : PageInfo) (xs : List α) (h : 1 ≤ info.first.toNat) :
    info.rowsOf xs = (xs.drop (info.first.toNat - 1)).take (info.last.toNat + 1 - info.first.toNat) := by
  rw [rowsOf, map_fst_filter_zipIdx, Nat.max_eq_left h]

theorem length_rowsOf (info : PageInfo) (xs : List α) (hfirst : 1 ≤ info.first.toNat)
    (hlast : info.last.toNat ≤ xs.length) :
    (info.rowsOf xs).length = info.last.toNat + 1 - info.first.toNat := by
  rw [rowsOf_eq info xs hfirst, List.length_take, List.length_drop]
  omega

variable (page perPage total : UInt64)

theorem skipped_toNat (hpage : 1 ≤ page.toNat) :
    (skipped page perPage).toNat = min ((page.toNat - 1) * perPage.toNat) (UInt64.size - 1) := by
  rw [skipped, product_toNat, UInt64.toNat_sub_of_le _ _ hpage]
  rfl

/-- What is stopped on the way is stopped at the end. -/
theorem first_of_toNat :
    (of page perPage total).first.toNat = min ((page.toNat - 1) * perPage.toNat + 1) (UInt64.size - 1) := by
  change (sum (product (difference page 1) perPage) 1).toNat = _
  rw [sum_toNat, product_toNat, difference_toNat]
  change min (min ((page.toNat - 1) * perPage.toNat) _ + 1) _ = _
  omega

theorem last_of_toNat :
    (of page perPage total).last.toNat = min (page.toNat * perPage.toNat) total.toNat := by
  have htotal : total.toNat < UInt64.size := total.toNat_lt
  have hproduct := product_toNat page perPage
  change (if product page perPage ≤ total then product page perPage else total).toNat = _
  split
  · rename_i h
    rw [UInt64.le_iff_toNat_le] at h
    omega
  · rename_i h
    rw [UInt64.le_iff_toNat_le] at h
    omega

theorem one_le_first_of : 1 ≤ (of page perPage total).first.toNat := by
  have hsize : 1 ≤ UInt64.size - 1 := by decide
  rw [first_of_toNat]
  omega

theorem offset_of_toNat :
    (of page perPage total).offset.toNat + 1 = (of page perPage total).first.toNat := by
  have h := one_le_first_of page perPage total
  have hle : (1 : UInt64) ≤ (of page perPage total).first := h
  rw [offset, UInt64.toNat_sub_of_le _ _ hle]
  exact Nat.sub_add_cancel h

variable {page perPage total}

theorem rowsOf_of {xs : List α} (hpage : 1 ≤ page.toNat) (htotal : total.toNat = xs.length)
    (hsize : xs.length < UInt64.size - 1) :
    (of page perPage total).rowsOf xs = (xs.drop (skipped page perPage).toNat).take perPage.toNat := by
  rw [rowsOf_eq _ _ (one_le_first_of ..), first_of_toNat, last_of_toNat, skipped_toNat _ _ hpage, htotal,
    ← pred_mul_add hpage]
  generalize (page.toNat - 1) * perPage.toNat = front
  generalize UInt64.size - 1 = top at hsize ⊢
  by_cases h : front < xs.length
  · -- no sum is stopped, and at the end of the rows there are no more to take
    have hfirst : min (front + 1) top - 1 = front := by omega
    have hskip : min front top = front := by omega
    have htake : min (front + perPage.toNat) xs.length + 1 - min (front + 1) top =
        min perPage.toNat (xs.drop front).length := by
      rw [List.length_drop]
      omega
    rw [hfirst, hskip, htake, ← List.take_take, List.take_length]
  · -- even where the sums are stopped, they lie behind the last row
    rw [List.drop_eq_nil_of_le (by omega), List.drop_eq_nil_of_le (by omega), List.take_nil, List.take_nil]

theorem lastPage_of_toNat (h : 1 ≤ perPage.toNat) :
    (of page perPage total).lastPage.toNat = (total.toNat + perPage.toNat - 1) / perPage.toNat := by
  have hne : perPage ≠ 0 := by
    rintro rfl
    cases h
  change (if perPage = 0 then 0 else ceilDiv total perPage).toNat = _
  rw [if_neg hne, ceilDiv_toNat h]

end PageInfo
end QueryGate
