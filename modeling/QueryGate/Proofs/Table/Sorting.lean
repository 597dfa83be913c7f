import Mathlib.Data.List.Pairwise
import QueryGate.Table.Sorting

/-! What a stable sort is. Where a comparison orders the elements of a list, one arrangement of them alone is in order and
keeps the order of those that are not told apart. Merging gives it, and so does putting the elements in their places one
after the other, so that short lists are sorted by insertion whether they are in order or not. -/
namespace QueryGate

variable {α : Type} {cmp : α → α → Ordering} {l : List α}

theorem mergeSort_eq_map_attach (le : α → α → Bool) (l : List α) :
    l.mergeSort le = (l.attach.mergeSort fun a b => le a b).map Subtype.val := by
  rw [List.map_mergeSort (s := le) (fun _ _ _ _ => rfl), List.attach_map_subtype_val]

namespace Orders

variable (h : Orders cmp l)
include h

theorem le_trans (a b c : { x // x ∈ l }) (hab : (cmp a b != .gt) = true) (hbc : (cmp b c != .gt) = true) :
    (cmp a c != .gt) = true := by
  rw [bne_iff_ne] at *
  exact h.trans a a.2 b b.2 c c.2 hab hbc

theorem le_total (a b : { x // x ∈ l }) : (cmp a b != .gt || cmp b a != .gt) = true := by
  rw [h.swap a a.2 b b.2]
  cases cmp a b <;> rfl

theorem ne_gt_of_tied {a b c : α} (ha : a ∈ l) (hb : b ∈ l) (hc : c ∈ l) (hab : cmp a b = .eq) (hac : cmp a c = .eq) :
    cmp b c ≠ .gt := by
  have hba : cmp b a ≠ .gt := by simp [h.swap a ha b hb, hab]
  exact h.trans b hb a ha c hc hba (by simp [hac])

theorem pairwise_mergeSort : (l.mergeSort fun a b => cmp a b != .gt).Pairwise fun a b => cmp a b ≠ .gt := by
  rw [mergeSort_eq_map_attach, List.pairwise_map]
  exact (List.pairwise_mergeSort h.le_trans h.le_total l.attach).imp bne_iff_ne.mp

theorem sublist_mergeSort {ys : List α} (hs : ys.Pairwise fun a b => cmp a b ≠ .gt) (hsub : ys.Sublist l) :
    ys.Sublist (l.mergeSort fun a b => cmp a b != .gt) := by
  rw [← List.attach_map_subtype_val l] at hsub
  obtain ⟨zs, hz, rfl⟩ := List.sublist_map_iff.mp hsub
  rw [mergeSort_eq_map_attach]
  have hzs : zs.Pairwise fun a b : { x // x ∈ l } => (cmp a b != .gt) = true :=
    (List.pairwise_map.mp hs).imp bne_iff_ne.mpr
  exact List.Sublist.map _ (List.sublist_mergeSort h.le_trans h.le_total hzs hz)

/-- Sorting keeps the order of elements that it need not put in order. -/
theorem filter_mergeSort {p : α → Bool} (hp : ∀ a ∈ l, ∀ b ∈ l, p a = true → p b = true → cmp a b ≠ .gt) :
    (l.mergeSort fun a b => cmp a b != .gt).filter p = l.filter p := by
  have hpairwise : (l.filter p).Pairwise fun a b => cmp a b ≠ .gt := by
    refine List.pairwise_of_forall_mem_list fun a ha b hb => ?_
    obtain ⟨ha, hpa⟩ := List.mem_filter.mp ha
    obtain ⟨hb, hpb⟩ := List.mem_filter.mp hb
    exact hp a ha b hb hpa hpb
  have hsub := h.sublist_mergeSort hpairwise List.filter_sublist
  have hfilter := hsub.filter p
  rw [List.filter_filter, funext fun a => Bool.and_self (p a)] at hfilter
  exact (hfilter.eq_of_length ((List.mergeSort_perm l _).symm.filter p).length_eq).symm

end Orders

section Classes

variable {lt : α → α → Prop} {tie : α → α → Bool} {x y : α} {xs ys : List α}

/-- The first elements of two sorted arrangements are not told apart. -/
theorem tie_of_perm_cons (hperm : (x :: xs).Perm (y :: ys)) (hself : tie x x = true)
    (total : ∀ a ∈ x :: xs, ∀ b ∈ x :: xs, lt a b ∨ tie a b = true ∨ lt b a) (hx : ∀ b ∈ xs, ¬lt b x)
    (hy : ∀ b ∈ ys, ¬lt b y) : tie x y = true := by
  have hyx : y ∈ x :: xs := hperm.mem_iff.mpr List.mem_cons_self
  rcases total x List.mem_cons_self y hyx with hlt | htie | hlt
  · rcases List.mem_cons.mp (hperm.mem_iff.mp List.mem_cons_self) with rfl | hmem
    · exact hself
    · exact absurd hlt (hy x hmem)
  · exact htie
  · rcases List.mem_cons.mp hyx with rfl | hmem
    · exact hself
    · exact absurd hlt (hx y hmem)

theorem filter_tail_congr {p : α → Bool} (h : (x :: xs).filter p = (x :: ys).filter p) :
    xs.filter p = ys.filter p := by
  by_cases hp : p x = true
  · rw [List.filter_cons_of_pos hp, List.filter_cons_of_pos hp] at h
    exact (List.cons.inj h).2
  · rwa [List.filter_cons_of_neg hp, List.filter_cons_of_neg hp] at h

variable (lt tie) in
/-- A sorted list is known from the elements of each class of elements that the order does not tell apart. -/
theorem eq_of_perm_of_filter (hperm : xs.Perm ys) (hrefl : ∀ a ∈ xs, tie a a = true)
    (total : ∀ a ∈ xs, ∀ b ∈ xs, lt a b ∨ tie a b = true ∨ lt b a) (hx : xs.Pairwise fun a b => ¬lt b a)
    (hy : ys.Pairwise fun a b => ¬lt b a) (h : ∀ a ∈ xs, xs.filter (tie a) = ys.filter (tie a)) : xs = ys := by
  induction xs generalizing ys with
  | nil => exact hperm.nil_eq
  | cons x xs ih =>
    have hself : tie x x = true := hrefl x List.mem_cons_self
    obtain ⟨hx, hxs⟩ := List.pairwise_cons.mp hx
    cases ys with
    | nil => cases hperm.length_eq
    | cons y ys =>
      obtain ⟨hy, hys⟩ := List.pairwise_cons.mp hy
      have htie : tie x y = true := tie_of_perm_cons hperm hself total hx hy
      have hhead := h x List.mem_cons_self
      rw [List.filter_cons_of_pos hself, List.filter_cons_of_pos htie] at hhead
      obtain rfl : x = y := (List.cons.inj hhead).1
      rw [ih ((List.perm_cons x).mp hperm) (fun a ha => hrefl a (List.mem_cons_of_mem x ha))
        (fun a ha b hb => total a (List.mem_cons_of_mem x ha) b (List.mem_cons_of_mem x hb)) hxs hys
        fun a ha => filter_tail_congr (h a (List.mem_cons_of_mem x ha))]

end Classes

/-- The stable sort is the only arrangement in order that keeps the order of elements that are not told apart. -/
theorem Orders.eq_mergeSort (h : Orders cmp l) {ys : List α} (hperm : ys.Perm l)
    (hsorted : ys.Pairwise fun a b => cmp a b ≠ .gt)
    (hstable : ∀ a ∈ l, ys.filter (fun b => cmp a b == .eq) = l.filter fun b => cmp a b == .eq) :
    ys = l.mergeSort fun a b => cmp a b != .gt := by
  have hself : ∀ a ∈ l, cmp a a = .eq := by
    intro a ha
    have hswap := h.swap a ha a ha
    cases hcmp : cmp a a <;> rw [hcmp] at hswap <;> first | rfl | cases hswap
  have hle : ∀ {xs : List α}, xs.Perm l → xs.Pairwise (fun a b => cmp a b ≠ .gt) →
      xs.Pairwise fun a b => cmp b a ≠ .lt := by
    intro xs hxs hpairwise
    refine hpairwise.imp_of_mem fun ha hb hab hba => hab ?_
    rw [h.swap _ (hxs.mem_iff.mp hb) _ (hxs.mem_iff.mp ha), hba]
    rfl
  refine eq_of_perm_of_filter (fun a b => cmp a b = .lt) (fun a b => cmp a b == .eq)
    (hperm.trans (List.mergeSort_perm l _).symm) (fun a ha => ?_) (fun a ha b hb => ?_) (hle hperm hsorted)
    (hle (List.mergeSort_perm l _) h.pairwise_mergeSort) fun a ha => ?_
  · rw [hself a (hperm.mem_iff.mp ha)]
    rfl
  · rw [h.swap a (hperm.mem_iff.mp ha) b (hperm.mem_iff.mp hb)]
    cases cmp a b <;> simp
  · have ha := hperm.mem_iff.mp ha
    rw [hstable a ha, h.filter_mergeSort fun b hb c hc hab hac => ?_]
    exact h.ne_gt_of_tied ha hb hc (beq_iff_eq.mp hab) (beq_iff_eq.mp hac)

namespace Disorder

section Insertion

variable (h : Orders cmp l) {x : α} (hx : x ∈ l) {ys : List α} (hys : ∀ y ∈ ys, y ∈ l)
include h hx hys

theorem pairwise_insertBack (hp : ys.Pairwise fun a b => cmp b a ≠ .gt) :
    (insertBack cmp x ys).Pairwise fun a b => cmp b a ≠ .gt := by
  induction ys with
  | nil => exact List.pairwise_singleton _ _
  | cons y ys ih =>
    obtain ⟨hy, hp'⟩ := List.pairwise_cons.mp hp
    have hyl : y ∈ l := hys y List.mem_cons_self
    have hrest : ∀ z ∈ ys, z ∈ l := fun z hz => hys z (List.mem_cons_of_mem y hz)
    unfold insertBack
    split
    · rename_i hlt
      refine List.pairwise_cons.mpr ⟨fun z hz => ?_, ih hrest hp'⟩
      rcases List.mem_cons.mp ((insertBack_perm cmp x ys).mem_iff.mp hz) with rfl | hz
      · rw [hlt]
        exact Ordering.noConfusion
      · exact hy z hz
    · rename_i hnot
      have hyx : cmp y x ≠ .gt := by
        rw [h.swap x hx y hyl]
        intro hgt
        exact hnot (by simpa using congrArg Ordering.swap hgt)
      refine List.pairwise_cons.mpr ⟨fun z hz => ?_, hp⟩
      rcases List.mem_cons.mp hz with rfl | hz
      · exact hyx
      · exact h.trans z (hrest z hz) y hyl x hx (hy z hz) hyx

/-- An element is never put past one that it is not told apart from. -/
theorem filter_insertBack {a : α} (ha : a ∈ l) :
    (insertBack cmp x ys).filter (fun b => cmp a b == .eq) = (x :: ys).filter fun b => cmp a b == .eq := by
  induction ys with
  | nil => rfl
  | cons y ys ih =>
    have hyl : y ∈ l := hys y List.mem_cons_self
    unfold insertBack
    split
    · rename_i hlt
      rw [List.filter_cons, ih fun z hz => hys z (List.mem_cons_of_mem y hz)]
      by_cases hax : cmp a x = .eq
      · have hay : cmp a y ≠ .eq := by
          intro hay
          have hyx := h.ne_gt_of_tied ha hyl hx hay hax
          rw [h.swap x hx y hyl, hlt] at hyx
          exact hyx rfl
        simp [hax, hay]
      · simp [List.filter_cons, hax]
    · rfl

end Insertion

/-- Putting the elements in their places one after the other sorts them, and leaves those that are not told apart in their
order. -/
theorem foldl_insertBack (h : Orders cmp l) (xs ys : List α) (hxs : ∀ x ∈ xs, x ∈ l) (hys : ∀ y ∈ ys, y ∈ l)
    (hp : ys.Pairwise fun a b => cmp b a ≠ .gt) :
    let zs := xs.foldl (fun ys x => insertBack cmp x ys) ys
    zs.Pairwise (fun a b => cmp b a ≠ .gt) ∧
      ∀ a ∈ l, zs.filter (fun b => cmp a b == .eq) = (xs.reverse ++ ys).filter fun b => cmp a b == .eq := by
  induction xs generalizing ys with
  | nil => exact ⟨hp, fun a _ => rfl⟩
  | cons x xs ih =>
    have hx : x ∈ l := hxs x List.mem_cons_self
    have hmem : ∀ y ∈ insertBack cmp x ys, y ∈ l := by
      intro y hy
      rcases List.mem_cons.mp ((insertBack_perm cmp x ys).mem_iff.mp hy) with rfl | hy
      · exact hx
      · exact hys y hy
    obtain ⟨hsorted, hstable⟩ :=
      ih _ (fun z hz => hxs z (List.mem_cons_of_mem x hz)) hmem (pairwise_insertBack h hx hys hp)
    refine ⟨hsorted, fun a ha => ?_⟩
    rw [List.foldl_cons, hstable a ha, List.filter_append, filter_insertBack h hx hys ha, ← List.filter_append]
    simp

theorem insertAll_eq_mergeSort (h : Orders cmp l) : insertAll cmp l = l.mergeSort fun a b => cmp a b != .gt := by
  obtain ⟨hsorted, hstable⟩ := foldl_insertBack h l [] (fun _ => id) (by simp) .nil
  refine h.eq_mergeSort (insertAll_perm cmp l) (List.pairwise_reverse.mpr hsorted) fun a ha => ?_
  rw [insertAll, List.filter_reverse, hstable a ha]
  simp

/-- A short list is sorted by insertion, in order or not. -/
theorem sort?_ofInsertion (cmp : α → α → Ordering) {xs : List α} (h : xs.length ≤ 20) :
    @sort? α ofInsertion cmp xs = some (insertAll cmp xs) := by
  unfold sort?
  split
  · rename_i horders
    rw [insertAll_eq_mergeSort horders]
  · rw [ofInsertion]
    simp [h]

end Disorder
end QueryGate
