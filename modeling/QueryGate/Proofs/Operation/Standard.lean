import QueryGate.Operation.Standard
import QueryGate.Table.Query

/-! What the standard operations do to a query in memory, where no step of the store fails. -/
namespace QueryGate

variable {B Row : Type}

theorem Catalog.get?_standard [Conditions B Row] (name : String) :
    (Catalog.standard : Catalog B).get? name =
      if name = "orWhere" then some ⟨3, Operation.orWhere⟩
      else if name = "where" then some ⟨3, Operation.andWhere⟩
      else if name = "sort" then some ⟨2, Operation.sort⟩
      else none := by
  simp only [standard, OrderedMap.ofList, List.foldl_cons, List.foldl_nil, OrderedMap.get?_insert]
  rfl

/-- There are three standard operations. -/
theorem Catalog.cases_of_get?_standard [Conditions B Row] {name : String} {op : Operation B}
    (h : (Catalog.standard : Catalog B).get? name = some op) :
    (name = "orWhere" ∧ op = ⟨3, Operation.orWhere⟩) ∨ (name = "where" ∧ op = ⟨3, Operation.andWhere⟩) ∨
      (name = "sort" ∧ op = ⟨2, Operation.sort⟩) := by
  rw [get?_standard] at h
  split at h
  · exact .inl ⟨by assumption, (Option.some.inj h).symm⟩
  · split at h
    · exact .inr (.inl ⟨by assumption, (Option.some.inj h).symm⟩)
    · split at h
      · exact .inr (.inr ⟨by assumption, (Option.some.inj h).symm⟩)
      · cases h

theorem Direction.ofSign_one : ofSign (.whole 1) = .ascending := by decide +kernel

theorem Direction.ofSign_neg_one : ofSign (.whole (-1)) = .descending := by decide +kernel

namespace Operation

variable {R : Type} [QueryGate.Row R]

theorem sort_run (column : String) (n : Int64) (q : Query R) :
    (sort [.text column, .int n]).run q = (.ok (), q.orderBy column (.ofSign (.whole n))) := rfl

theorem andWhere_run (c : Condition) (q : Query R) :
    (andWhere [.text c.column, .text c.comparison.text, c.value]).run q = (.ok (), q.andWhere c) := by
  obtain ⟨column, comparison, value⟩ := c
  cases comparison <;> rfl

theorem orWhere_run (c : Condition) (q : Query R) :
    (orWhere [.text c.column, .text c.comparison.text, c.value]).run q = (.ok (), q.orWhere c) := by
  obtain ⟨column, comparison, value⟩ := c
  cases comparison <;> rfl

end Operation
end QueryGate
