/-! Stable sorting by a comparison that need not be an order. Where it orders the elements of a list, there is one stable
arrangement of them. What becomes of other elements is not for the sort to promise: it may arrange them in any way, or
give up on them. -/
namespace QueryGate

variable {α : Type}

/-- Whether a comparison puts the elements of a list in order. -/
structure Orders (cmp : α → α → Ordering) (xs : List α) : Prop where
  swap : ∀ a ∈ xs, ∀ b ∈ xs, cmp b a = (cmp a b).swap
  trans : ∀ a ∈ xs, ∀ b ∈ xs, ∀ c ∈ xs, cmp a b ≠ .gt → cmp b c ≠ .gt → cmp a c ≠ .gt

instance (cmp : α → α → Ordering) (xs : List α) : Decidable (Orders cmp xs) :=
  decidable_of_iff
    ((∀ a ∈ xs, ∀ b ∈ xs, cmp b a = (cmp a b).swap) ∧
      ∀ a ∈ xs, ∀ b ∈ xs, ∀ c ∈ xs, cmp a b ≠ .gt → cmp b c ≠ .gt → cmp a c ≠ .gt)
    ⟨fun h => ⟨h.1, h.2⟩, fun h => ⟨h.swap, h.trans⟩⟩

/-- What a sort makes of elements that the comparison does not order: an arrangement of them, or nothing if it gives
up. -/
class Disorder (α : Type) where
  arrange? : (α → α → Ordering) → (xs : List α) → Option { ys : List α // ys.Perm xs }

/-- The stable sort of a list. -/
def sort? [Disorder α] (cmp : α → α → Ordering) (xs : List α) : Option (List α) :=
  if Orders cmp xs then some (xs.mergeSort fun a b => cmp a b != .gt)
  else (Disorder.arrange? cmp xs).map Subtype.val

theorem sort?_of_orders [Disorder α] {cmp : α → α → Ordering} {xs : List α} (h : Orders cmp xs) :
    sort? cmp xs = some (xs.mergeSort fun a b => cmp a b != .gt) := if_pos h

/-- A sort neither loses an element nor repeats one, whatever the comparison is. -/
theorem perm_of_sort? [Disorder α] {cmp : α → α → Ordering} {xs ys : List α} (h : sort? cmp xs = some ys) :
    ys.Perm xs := by
  unfold sort? at h
  split at h
  · cases h
    exact List.mergeSort_perm _ _
  · obtain ⟨zs, -, rfl⟩ := Option.map_eq_some_iff.mp h
    exact zs.2

namespace Disorder

/-- Puts an element behind the last one that it does not come before. The list and the result are reversed. -/
def insertBack (cmp : α → α → Ordering) (x : α) : List α → List α
  | [] => [x]
  | y :: ys => if cmp x y = .lt then y :: insertBack cmp x ys else x :: y :: ys

theorem insertBack_perm (cmp : α → α → Ordering) (x : α) (ys : List α) : (insertBack cmp x ys).Perm (x :: ys) := by
  induction ys with
  | nil => exact List.Perm.refl _
  | cons y ys ih =>
    unfold insertBack
    split
    · exact (ih.cons y).trans (List.Perm.swap x y ys)
    · exact List.Perm.refl _

theorem foldl_insertBack_perm (cmp : α → α → Ordering) (xs ys : List α) :
    (xs.foldl (fun ys x => insertBack cmp x ys) ys).Perm (xs ++ ys) := by
  induction xs generalizing ys with
  | nil => exact List.Perm.refl _
  | cons x xs ih =>
    have hx : (xs ++ insertBack cmp x ys).Perm (xs ++ x :: ys) := (insertBack_perm cmp x ys).append_left xs
    exact (ih _).trans (hx.trans List.perm_middle)

/-- The elements put in their places one after the other. -/
def insertAll (cmp : α → α → Ordering) (xs : List α) : List α :=
  (xs.foldl (fun ys x => insertBack cmp x ys) []).reverse

theorem insertAll_perm (cmp : α → α → Ordering) (xs : List α) : (insertAll cmp xs).Perm xs := by
  have h := foldl_insertBack_perm cmp xs []
  rw [List.append_nil] at h
  exact (List.reverse_perm _).trans h

/-- Up to twenty elements are put in their places one after the other, and no contradiction comes to light. With more of
them a sort may give up, and this one does. -/
abbrev ofInsertion : Disorder α where
  arrange? cmp xs := if xs.length ≤ 20 then some ⟨insertAll cmp xs, insertAll_perm cmp xs⟩ else none

end Disorder
end QueryGate
