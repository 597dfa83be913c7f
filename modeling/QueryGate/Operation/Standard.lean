import QueryGate.Operation.Catalog

/-! The standard operations: ordering by a column, and conditions on a column. Arguments are read from left to
right. -/
namespace QueryGate
namespace Operation

variable {B Row : Type}

/-- A column and a number whose sign gives the direction. -/
def sort [Backend B Row] (args : Args) : Action OperationError B Unit := do
  let column ← take (args.text 0)
  let n ← take (args.number 1)
  store (Backend.applyOrder column (.ofSign n))

/-- A column, a comparison operator and the value to compare with. -/
def condition (args : Args) : Action OperationError B (String × Comparison × Arg) := do
  let column ← take (args.text 0)
  let operator ← take (args.text 1)
  match Comparison.ofText? operator with
  | some c => return (column, c, ← take (args.get 2))
  | none => throw (.argument (.invalid 1 (Comparison.unknownMessage operator)))

def andWhere [Conditions B Row] (args : Args) : Action OperationError B Unit := do
  let (column, c, value) ← condition args
  store (Conditions.andWhere column c value)

def orWhere [Conditions B Row] (args : Args) : Action OperationError B Unit := do
  let (column, c, value) ← condition args
  store (Conditions.orWhere column c value)

end Operation

def Catalog.standard {B Row : Type} [Conditions B Row] : Catalog B :=
  OrderedMap.ofList [("sort", ⟨2, Operation.sort⟩), ("where", ⟨3, Operation.andWhere⟩), ("orWhere", ⟨3, Operation.orWhere⟩)]

end QueryGate
