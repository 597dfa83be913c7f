import Mathlib.Data.List.Basic
import QueryGate.Table.Condition

/-! Chains of clauses. A chain of links leaves the groups that are there alone but for the last one, which its leading
conditions narrow, and puts the groups that it begins behind them. To go through one chain once more changes the groups,
but not the rows that satisfy them. -/
namespace QueryGate
namespace Clauses

/-- A condition that is joined to the last group, or begins a new one. -/
inductive Link
  | and (c : Condition)
  | or (c : Condition)

def link (groups : Clauses) : Link → Clauses
  | .and c => groups.and c
  | .or c => groups.or c

/-- The conditions that a chain joins to the group in front of it. -/
def lead : List Link → List Condition
  | .and c :: rest => c :: lead rest
  | _ => []

/-- The groups that a chain begins. -/
def begun : List Link → Clauses
  | [] => []
  | .and _ :: rest => begun rest
  | .or c :: rest => (c :: lead rest) :: begun rest

theorem foldl_link_append_group (links : List Link) (init : Clauses) (group : List Condition) :
    links.foldl link (init ++ [group]) = init ++ (group ++ lead links) :: begun links := by
  induction links generalizing init group with
  | nil => simp [lead, begun]
  | cons l rest ih =>
    cases l with
    | and c =>
      have hand : link (init ++ [group]) (.and c) = init ++ [group ++ [c]] := and_append_group init group c
      rw [List.foldl_cons, hand, ih]
      simp [lead, begun]
    | or c =>
      have hor : link (init ++ [group]) (.or c) = (init ++ [group]) ++ [[c]] := rfl
      rw [List.foldl_cons, hor, ih]
      simp [lead, begun]

section Rows

variable {R : Type} [Row R]

theorem holdOf_append_group (groups : Clauses) (group : List Condition) (row : R) :
    holdOf (groups ++ [group]) row =
      (groups.any (fun group => group.all (·.holdsOf row)) || group.all (·.holdsOf row)) := by
  simp [holdOf]

theorem holdOf_append_cons (init : Clauses) (group : List Condition) (rest : Clauses) (row : R) :
    holdOf (init ++ group :: rest) row =
      (init.any (fun group => group.all (·.holdsOf row)) || group.all (·.holdsOf row) ||
        rest.any fun group => group.all (·.holdsOf row)) := by
  simp [holdOf, Bool.or_assoc]

theorem holdOf_foldl_link_twice_of_group (links : List Link) (init : Clauses) (group : List Condition) (row : R) :
    holdOf (links.foldl link (links.foldl link (init ++ [group]))) row =
      holdOf (links.foldl link (init ++ [group])) row := by
  rw [foldl_link_append_group]
  rcases List.eq_nil_or_concat' (begun links) with hbegun | ⟨mid, last, hbegun⟩
  · -- the last group has the leading conditions already
    rw [hbegun, foldl_link_append_group, hbegun, holdOf_append_group, holdOf_append_group]
    simp only [List.all_append, Bool.and_assoc, Bool.and_self]
  · -- the last group is one that the chain begins, and it is put behind once more
    have honce : init ++ (group ++ lead links) :: (mid ++ [last]) =
        (init ++ (group ++ lead links) :: mid) ++ [last] := by simp
    have hlast : ∀ b m z z' : Bool, (b || m || z && z' || m || z) = (b || m || z) := by decide
    rw [hbegun, honce, foldl_link_append_group, hbegun, holdOf_append_cons, holdOf_append_group]
    simp only [List.any_append, List.any_cons, List.any_nil, List.all_append, Bool.or_false, ← Bool.or_assoc]
    exact hlast ..

/-- A chain that was gone through already changes nothing that matters: what it joins to the last group follows from
that group or stands beside it, and what it begins is there. -/
theorem holdOf_foldl_link_twice (links : List Link) (groups : Clauses) (row : R) :
    holdOf (links.foldl link (links.foldl link groups)) row = holdOf (links.foldl link groups) row := by
  rcases List.eq_nil_or_concat' groups with rfl | ⟨init, group, rfl⟩
  · cases links with
    | nil => rfl
    | cons l rest =>
      cases l with
      | and c => exact holdOf_foldl_link_twice_of_group (.and c :: rest) [] [] row
      | or c =>
        have honce : (Link.or c :: rest).foldl link [] = begun (.or c :: rest) :=
          foldl_link_append_group rest [] [c]
        have hne : begun (.or c :: rest) ≠ [] := List.cons_ne_nil _ _
        obtain ⟨mid, last, hbegun⟩ := (List.eq_nil_or_concat' (begun (.or c :: rest))).resolve_left hne
        rw [honce, hbegun, foldl_link_append_group, hbegun, holdOf_append_cons, holdOf_append_group]
        simp only [lead, List.append_nil, List.any_append, List.any_cons, List.any_nil, Bool.or_false, Bool.or_self]
  · exact holdOf_foldl_link_twice_of_group links init group row

end Rows

end Clauses
end QueryGate
