import QueryGate.Proofs.Table.Page
import QueryGate.Proofs.Table.Precedence

/-! What a condition that is joined to a query leaves of its rows. It is joined to the conditions since the last `or`,
so the rows that match what stands in front of that one are not asked. -/
namespace QueryGate

namespace Clauses

/-- The links in front of the last `or`. -/
def beforeLastOr : List Link → List Link
  | [] => []
  | l :: rest => if rest.any Link.isOr then l :: beforeLastOr rest else []

theorem beforeLastOr_concat_or (links : List Link) (c : Condition) : beforeLastOr (links ++ [.or c]) = links := by
  induction links with
  | nil => rfl
  | cons l rest ih =>
    have hany : (rest ++ [Link.or c]).any Link.isOr = true := by simp [Link.isOr]
    rw [List.cons_append, beforeLastOr, if_pos hany, ih]

theorem beforeLastOr_concat_and (links : List Link) (c : Condition) :
    beforeLastOr (links ++ [.and c]) = beforeLastOr links := by
  induction links with
  | nil => rfl
  | cons l rest ih =>
    have hany : (rest ++ [Link.and c]).any Link.isOr = rest.any Link.isOr := by simp [Link.isOr]
    rw [List.cons_append, beforeLastOr, hany, ih, beforeLastOr]

theorem beforeLastOr_eq_nil {links : List Link} (h : ∀ l ∈ links.tail, l.isOr = false) : beforeLastOr links = [] := by
  cases links with
  | nil => rfl
  | cons l rest =>
    have hany : rest.any Link.isOr = false := by simpa using h
    simp [beforeLastOr, hany]

theorem dropLast_and (groups : Clauses) (c : Condition) : (groups.and c).dropLast = groups.dropLast := by
  rcases List.eq_nil_or_concat' groups with rfl | ⟨init, group, rfl⟩
  · rfl
  · rw [and_append_group, List.dropLast_concat, List.dropLast_concat]

/-- The last group is what the links from the last `or` on have made. -/
theorem dropLast_foldl_link (links : List Link) :
    (links.foldl link []).dropLast = (beforeLastOr links).foldl link [] := by
  induction links using List.reverseRecOn with
  | nil => rfl
  | append_singleton links l ih =>
    rw [List.foldl_append, List.foldl_cons, List.foldl_nil]
    cases l with
    | and c =>
      rw [beforeLastOr_concat_and, ← ih]
      exact dropLast_and _ c
    | or c =>
      rw [beforeLastOr_concat_or]
      exact List.dropLast_concat

theorem foldl_link_eq_nil_iff (links : List Link) : links.foldl link [] = [] ↔ links = [] := by
  cases links with
  | nil => simp
  | cons l rest =>
    rw [foldl_link_cons]
    exact iff_of_false (List.cons_ne_nil _ _) (List.cons_ne_nil _ _)

variable {R : Type} [Row R]

theorem ne_nil_and_holdOf_iff (groups : Clauses) (row : R) :
    groups ≠ [] ∧ holdOf groups row = true ↔ (groups.any fun group => group.all (·.holdsOf row)) = true := by
  cases groups <;> simp [holdOf]

theorem holdOf_and_iff (groups : Clauses) (c : Condition) (row : R) :
    holdOf (groups.and c) row = true ↔ holdOf groups row = true ∧
      (c.holdsOf row = true ∨ groups.dropLast ≠ [] ∧ holdOf groups.dropLast row = true) := by
  rcases List.eq_nil_or_concat' groups with rfl | ⟨init, group, rfl⟩
  · simp [and, holdOf]
  · have hlogic : ∀ i g h : Bool, (i || g && h) = true ↔ (i || g) = true ∧ (h = true ∨ i = true) := by decide
    have hone : [c].all (·.holdsOf row) = c.holdsOf row := by simp
    rw [and_append_group, List.dropLast_concat, ne_nil_and_holdOf_iff, holdOf_append_group, holdOf_append_group,
      List.all_append, hone]
    exact hlogic ..

end Clauses

namespace Query

variable {R : Type}

/-- Joins a condition to a query, or an alternative. -/
def join (q : Query R) : Clauses.Link → Query R
  | .and c => q.andWhere c
  | .or c => q.orWhere c

theorem foldl_join_eq (links : List Clauses.Link) (q : Query R) :
    links.foldl join q = { q with clauses := links.foldl Clauses.link q.clauses } := by
  induction links generalizing q with
  | nil => rfl
  | cons l rest ih =>
    rw [List.foldl_cons, ih]
    cases l <;> rfl

variable [Row R]

theorem mem_matched_of_mem_select? {q : Query R} {rows : List R} {row : R} (h : q.select? = some rows)
    (hrow : row ∈ rows) : row ∈ q.matched := by
  obtain ⟨all, hall, rfl⟩ := Option.map_eq_some_iff.mp h
  exact (perm_of_ordered? hall).subset ((Window.cut_sublist q.window all).subset hrow)

open Clauses

/-- A condition that is joined to a query leaves of its rows those that satisfy the condition, and those that match what
stands in front of the last `or`. So it lets no row in, and whatever is selected afterwards satisfies it or matches what
was asked for before that `or`. Where no `or` comes behind the first condition, what is left satisfies the condition. -/
theorem holdOf_andWhere_iff (rows : List R) (orderings : List (String × Direction)) (window : Option Window)
    (links : List Link) (c : Condition) :
    let start : Query R := ⟨rows, [], orderings, window⟩
    let q := links.foldl join start
    let earlier (row : R) : Prop :=
      beforeLastOr links ≠ [] ∧ ((beforeLastOr links).foldl join start).clauses.holdOf row = true
    (∀ row : R, (q.andWhere c).clauses.holdOf row = true ↔
      q.clauses.holdOf row = true ∧ (c.holdsOf row = true ∨ earlier row)) ∧
    (∀ selected, (q.andWhere c).select? = some selected →
      ∀ row ∈ selected, row ∈ q.matched ∧ (c.holdsOf row = true ∨ earlier row)) ∧
    ((∀ l ∈ links.tail, l.isOr = false) → ∀ row : R,
      (q.andWhere c).clauses.holdOf row = true ↔ q.clauses.holdOf row = true ∧ c.holdsOf row = true) := by
  intro start q earlier
  have hq : q.clauses = links.foldl link [] := congrArg clauses (foldl_join_eq links start)
  have hearlier : ∀ row : R, earlier row ↔
      q.clauses.dropLast ≠ [] ∧ Clauses.holdOf q.clauses.dropLast row = true := by
    intro row
    have hbefore := congrArg clauses (foldl_join_eq (beforeLastOr links) start)
    rw [hq, dropLast_foldl_link, Ne, foldl_link_eq_nil_iff]
    simp only [earlier, hbefore]
    rfl
  have hjoin : ∀ row : R, (q.andWhere c).clauses.holdOf row = true ↔
      q.clauses.holdOf row = true ∧ (c.holdsOf row = true ∨ earlier row) := by
    intro row
    rw [hearlier]
    exact holdOf_and_iff q.clauses c row
  refine ⟨hjoin, fun selected hselected row hrow => ?_, fun hfirst row => ?_⟩
  · obtain ⟨hmem, hholds⟩ := List.mem_filter.mp (mem_matched_of_mem_select? hselected hrow)
    obtain ⟨hbefore, hleft⟩ := (hjoin row).mp hholds
    exact ⟨List.mem_filter.mpr ⟨hmem, hbefore⟩, hleft⟩
  · have hnot : ¬earlier row := fun h => h.1 (beforeLastOr_eq_nil hfirst)
    rw [hjoin, or_iff_left hnot]

/-- A row that matches what stands in front of an `or` stays, though it does not satisfy the condition that is joined
last. -/
theorem not_holdOf_andWhere_iff_and :
    let row := Data.record [("a", .int 1), ("b", .int 0)]
    let c : Condition := ⟨"b", .equal, .int 1⟩
    let q := [Link.and ⟨"a", .equal, .int 1⟩, .or c].foldl join (ofRows [row])
    ¬((q.andWhere c).clauses.holdOf row = true ↔ q.clauses.holdOf row = true ∧ c.holdsOf row = true) ∧
      ∃ selected, (q.andWhere c).select? = some selected ∧ ¬∀ row ∈ selected, c.holdsOf row = true := by
  intro row c q
  have hafter : (q.andWhere c).clauses.holdOf row = true := by decide +kernel
  have hfails : c.holdsOf row = false := by decide +kernel
  have hselected : row ∈ (q.andWhere c).matched := List.mem_filter.mpr ⟨List.mem_singleton.mpr rfl, hafter⟩
  have hnot : ¬c.holdsOf row = true := by simp [hfails]
  exact ⟨fun h => hnot (h.mp hafter).2, _, rfl, fun h => hnot (h row hselected)⟩

end Query
end QueryGate
