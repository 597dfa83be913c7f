import Mathlib.Data.Rat.Floor
import QueryGate.Proofs.PageInfo

/-! The arithmetic of pages, and what it amounts to: every step of it has a result, up to the last page none is stopped, and
the pages cut the places of the rows into runs, each of which begins behind the end of the one before it. -/
namespace QueryGate

/-! ### Steps that may have no result -/

namespace Word

def sub? (a b : UInt64) : Option UInt64 := if b ≤ a then some (a - b) else none

def add? (a b : UInt64) : Option UInt64 := if a.toNat + b.toNat < UInt64.size then some (a + b) else none

/-- A quotient rounded up. There is none by zero, and the quotient rounded down may have no successor. -/
def ceilDiv? (a b : UInt64) : Option UInt64 :=
  if b = 0 then none else if a % b = 0 then some (a / b) else add? (a / b) 1

theorem ceilDiv?_eq {a b : UInt64} (h : b ≠ 0) : ceilDiv? a b = some (ceilDiv a b) := by
  have hb : 1 ≤ b.toNat := Nat.pos_of_ne_zero fun e => h (UInt64.toNat_inj.mp e)
  rw [ceilDiv?, ceilDiv, if_neg h]
  split
  · rfl
  · rename_i hmod
    exact if_pos (succ_div_lt hb hmod)

end Word

namespace PageInfo

open Word

/-- The place of a page. There is none if a step has no result. -/
def ofSteps? (page perPage total : UInt64) : Option PageInfo :=
  (if perPage = 0 then some 0 else ceilDiv? total perPage).map fun lastPage => {
    page, perPage, lastPage, total
    first := sum (product (difference page 1) perPage) 1
    last := min (product page perPage) total }

section

variable (page perPage total : UInt64)

/-- Every step has a result. -/
theorem ofSteps?_eq : ofSteps? page perPage total = some (of page perPage total) := by
  have hlastPage : (if perPage = 0 then some 0 else ceilDiv? total perPage) = some (of page perPage total).lastPage := by
    by_cases h : perPage = 0
    · simp only [of, if_pos h]
    · simp only [of, if_neg h, ceilDiv?_eq h]
  rw [ofSteps?, hlastPage]
  rfl

theorem sub?_first_of : sub? (of page perPage total).first 1 = some (of page perPage total).offset :=
  if_pos (one_le_first_of page perPage total)

theorem lastPage_of_eq_ceil :
    ((of page perPage total).lastPage.toNat : ℤ) = ⌈(total.toNat / perPage.toNat : ℚ)⌉ := by
  by_cases h : perPage = 0
  · subst h
    simp [of]
  · have hpos : 1 ≤ perPage.toNat := Nat.pos_of_ne_zero fun e => h (UInt64.toNat_inj.mp e)
    have hpos' : (0 : ℚ) < perPage.toNat := by exact_mod_cast hpos
    have hlow := le_ceil_mul total.toNat hpos
    have hhigh : (total.toNat + perPage.toNat - 1) / perPage.toNat * perPage.toNat < total.toNat + perPage.toNat := by
      have hle := Nat.div_mul_le_self (total.toNat + perPage.toNat - 1) perPage.toNat
      omega
    rw [lastPage_of_toNat hpos]
    generalize (total.toNat + perPage.toNat - 1) / perPage.toNat = last at hlow hhigh ⊢
    refine (Int.ceil_eq_iff.mpr ⟨?_, ?_⟩).symm
    · rw [lt_div_iff₀ hpos', sub_mul, one_mul, sub_lt_iff_lt_add]
      exact_mod_cast hhigh
    · rw [div_le_iff₀ hpos']
      exact_mod_cast hlow

end

/-! ### Pages up to the last one -/

theorem one_le_perPage {page perPage total : UInt64} (hpage : 1 ≤ page) (h : page ≤ (of page perPage total).lastPage) :
    1 ≤ perPage.toNat := by
  by_contra hzero
  obtain rfl : perPage = 0 := UInt64.toNat_inj.mp (Nat.lt_one_iff.mp (Nat.lt_of_not_le hzero))
  have hnone : (1 : UInt64) ≤ 0 := UInt64.le_trans hpage h
  exact absurd hnone (by decide)

section Inside

variable {page perPage total : UInt64} (hpage : 1 ≤ page.toNat) (hsize : 1 ≤ perPage.toNat)
  (hlast : page.toNat ≤ (total.toNat + perPage.toNat - 1) / perPage.toNat)
include hpage hsize hlast

theorem skipped_lt_total : (page.toNat - 1) * perPage.toNat < total.toNat := mul_lt_of_lt_ceil hsize (by omega)

/-- The sums for a page with rows are not stopped. -/
theorem first_of_inside : (of page perPage total).first.toNat = (page.toNat - 1) * perPage.toNat + 1 := by
  have hlt := skipped_lt_total hpage hsize hlast
  have htotal : total.toNat < UInt64.size := total.toNat_lt
  rw [first_of_toNat]
  omega

theorem first_le_last_of : (of page perPage total).first.toNat ≤ (of page perPage total).last.toNat := by
  have hlt := skipped_lt_total hpage hsize hlast
  rw [first_of_inside hpage hsize hlast, last_of_toNat, ← pred_mul_add hpage]
  omega

theorem mem_places_iff (i : ℕ) :
    ((of page perPage total).first.toNat ≤ i ∧ i ≤ (of page perPage total).last.toNat) ↔
      1 ≤ i ∧ i ≤ total.toNat ∧ (i - 1) / perPage.toNat = page.toNat - 1 := by
  rw [first_of_inside hpage hsize hlast, last_of_toNat, Nat.div_eq_iff hsize, ← pred_mul_add hpage]
  omega

end Inside

section Place

variable {page perPage total : UInt64} (hsize : 1 ≤ perPage.toNat)
include hsize

/-- A page in front of the last one is full. -/
theorem last_of_lt (h : page.toNat < (total.toNat + perPage.toNat - 1) / perPage.toNat) :
    (of page perPage total).last.toNat = page.toNat * perPage.toNat := by
  have hle := mul_lt_of_lt_ceil hsize h
  rw [last_of_toNat]
  omega

theorem last_of_end (h : (total.toNat + perPage.toNat - 1) / perPage.toNat ≤ page.toNat) :
    (of page perPage total).last.toNat = total.toNat := by
  have hle := le_ceil_mul total.toNat hsize
  have hmul := Nat.mul_le_mul_right perPage.toNat h
  rw [last_of_toNat]
  omega

/-- Behind the last page a page ends before it begins, if there is a number behind the total. -/
theorem last_lt_first_of (htotal : total.toNat < UInt64.size - 1)
    (h : (total.toNat + perPage.toNat - 1) / perPage.toNat < page.toNat) :
    (of page perPage total).last.toNat < (of page perPage total).first.toNat := by
  have hle := le_ceil_mul total.toNat hsize
  have hmul := Nat.mul_le_mul_right perPage.toNat (Nat.le_sub_one_of_lt h)
  rw [first_of_toNat, last_of_toNat]
  omega

end Place

/-- The page of each place. -/
theorem existsUnique_page {perPage total : UInt64} (hsize : 1 ≤ perPage.toNat) {i : ℕ} (hi : 1 ≤ i)
    (hle : i ≤ total.toNat) :
    ∃! page : UInt64, 1 ≤ page ∧ page ≤ (of page perPage total).lastPage ∧
      (of page perPage total).first.toNat ≤ i ∧ i ≤ (of page perPage total).last.toNat := by
  have hlast : ∀ page : UInt64, (1 ≤ page ∧ page ≤ (of page perPage total).lastPage) ↔
      1 ≤ page.toNat ∧ page.toNat ≤ (total.toNat + perPage.toNat - 1) / perPage.toNat := by
    intro page
    have h : (of page perPage total).lastPage.toNat = _ := lastPage_of_toNat hsize
    rw [← h]
    exact Iff.rfl
  have hbelow : (i - 1) / perPage.toNat < (total.toNat + perPage.toNat - 1) / perPage.toNat := by
    by_contra hnot
    have hend := le_ceil_mul total.toNat hsize
    have hmul := Nat.mul_le_mul_right perPage.toNat (Nat.le_of_not_lt hnot)
    have hdiv := Nat.div_mul_le_self (i - 1) perPage.toNat
    omega
  obtain ⟨page, hpage⟩ : ∃ page : UInt64, page.toNat - 1 = (i - 1) / perPage.toNat ∧ 1 ≤ page.toNat := by
    have htotal : total.toNat < UInt64.size := total.toNat_lt
    have hceil := ceil_le total.toNat hsize
    generalize (i - 1) / perPage.toNat = before at hbelow ⊢
    have hnat : (UInt64.ofNat (before + 1)).toNat = before + 1 := UInt64.toNat_ofNat_of_lt' (by omega)
    exact ⟨UInt64.ofNat (before + 1), by omega, by omega⟩
  rw [← hpage.1] at hbelow
  have hin : page.toNat ≤ (total.toNat + perPage.toNat - 1) / perPage.toNat := by omega
  refine ⟨page, ?_, ?_⟩
  · obtain ⟨hone, hle'⟩ := (hlast page).mpr ⟨hpage.2, hin⟩
    exact ⟨hone, hle', (mem_places_iff hpage.2 hsize hin i).mpr ⟨hi, hle, hpage.1.symm⟩⟩
  · rintro other ⟨hone, hother, hplace⟩
    obtain ⟨hone, hother⟩ := (hlast other).mp ⟨hone, hother⟩
    obtain ⟨-, -, hdiv⟩ := (mem_places_iff hone hsize hother i).mp hplace
    rw [← hpage.1] at hdiv
    rw [← UInt64.toNat_inj]
    omega

/-- The page behind one that is not the last begins behind its end. -/
theorem first_of_next {page perPage total : UInt64} (hpage : 1 ≤ page.toNat) (hsize : 1 ≤ perPage.toNat)
    (h : page.toNat < (total.toNat + perPage.toNat - 1) / perPage.toNat) :
    (of (page + 1) perPage total).first.toNat = (of page perPage total).last.toNat + 1 ∧
      (of page perPage total).last.toNat + 1 = (of page perPage total).first.toNat + perPage.toNat := by
  have htotal : total.toNat < UInt64.size := total.toNat_lt
  have hceil := ceil_le total.toNat hsize
  have hnext : (page + 1).toNat = page.toNat + 1 := by
    rw [UInt64.toNat_add]
    exact Nat.mod_eq_of_lt (Nat.lt_of_lt_of_le (Nat.succ_lt_succ (Nat.lt_of_lt_of_le h hceil)) htotal)
  have hfirst : (of (page + 1) perPage total).first.toNat = _ := first_of_inside (by omega) hsize (by omega)
  rw [hnext, Nat.add_sub_cancel] at hfirst
  rw [hfirst, last_of_lt hsize h, first_of_inside hpage hsize (Nat.le_of_lt h), ← pred_mul_add hpage]
  omega

/-- The arithmetic of pages is exact. Every step of it has a result, and the place of a page is what it is over all
numbers, but that its first row is stopped at the largest number. It is not up to the last page: the first page begins
with the first row, a page begins where the one before it ends, all but the last one are full, and the last one ends with
the last row, so that each row has its page. Behind the last page there are no rows. -/
theorem of_tiles (page perPage total : UInt64) :
    let info := of page perPage total
    ofSteps? page perPage total = some info ∧ sub? info.first 1 = some info.offset ∧
    (info.lastPage.toNat : ℤ) = ⌈(total.toNat / perPage.toNat : ℚ)⌉ ∧ (perPage = 0 → info.lastPage = 0) ∧
    info.last.toNat = min (page.toNat * perPage.toNat) total.toNat ∧
    info.first.toNat = min ((page.toNat - 1) * perPage.toNat + 1) (2 ^ 64 - 1) ∧
    (1 ≤ page → page ≤ info.lastPage →
      info.first.toNat = (page.toNat - 1) * perPage.toNat + 1 ∧ info.first ≤ info.last ∧ info.last ≤ total ∧
      (page = 1 → info.first = 1) ∧ (page = info.lastPage → info.last = total) ∧
      (page < info.lastPage →
        (of (page + 1) perPage total).first.toNat = info.last.toNat + 1 ∧
          info.last.toNat + 1 = info.first.toNat + perPage.toNat)) ∧
    (∀ i, 1 ≤ i → i ≤ total.toNat → perPage ≠ 0 →
      ∃! p : UInt64, 1 ≤ p ∧ p ≤ info.lastPage ∧
        (of p perPage total).first.toNat ≤ i ∧ i ≤ (of p perPage total).last.toNat) ∧
    (total.toNat < 2 ^ 64 - 1 → perPage ≠ 0 → info.lastPage < page → info.last < info.first) := by
  intro info
  have hpos : perPage ≠ 0 → 1 ≤ perPage.toNat := fun h => Nat.pos_of_ne_zero fun e => h (UInt64.toNat_inj.mp e)
  have hceil : 1 ≤ perPage.toNat → info.lastPage.toNat = (total.toNat + perPage.toNat - 1) / perPage.toNat :=
    lastPage_of_toNat
  refine ⟨ofSteps?_eq page perPage total, sub?_first_of page perPage total, lastPage_of_eq_ceil page perPage total, ?_,
    last_of_toNat page perPage total, first_of_toNat page perPage total, ?_, ?_, ?_⟩
  · rintro rfl
    rfl
  · intro hpage hlast
    have hone : 1 ≤ page.toNat := hpage
    have hsize := one_le_perPage hpage hlast
    have hin : page.toNat ≤ (total.toNat + perPage.toNat - 1) / perPage.toNat := by
      rw [← hceil hsize]
      exact hlast
    refine ⟨first_of_inside hone hsize hin, first_le_last_of hone hsize hin, ?_, ?_, ?_, ?_⟩
    · rw [UInt64.le_iff_toNat_le, last_of_toNat]
      exact Nat.min_le_right ..
    · rintro rfl
      rw [← UInt64.toNat_inj, first_of_inside hone hsize hin]
      simp
    · intro hend
      rw [← UInt64.toNat_inj]
      exact last_of_end hsize (by rw [← hceil hsize, hend])
    · intro hlt
      refine first_of_next hone hsize ?_
      rw [← hceil hsize]
      exact hlt
  · intro i hi hle hne
    exact existsUnique_page (hpos hne) hi hle
  · intro htotal hne hlt
    refine last_lt_first_of (hpos hne) htotal ?_
    rw [← hceil (hpos hne)]
    exact hlt

/-- With the largest total, a page behind the last one ends where it begins. -/
example : (of 2 18446744073709551615 18446744073709551615).lastPage = 1 ∧
    (of 2 18446744073709551615 18446744073709551615).first = (of 2 18446744073709551615 18446744073709551615).last := by
  decide

end PageInfo
end QueryGate
