import QueryGate.Arg
import QueryGate.Comparison
import QueryGate.Direction
import QueryGate.PageInfo

/-! What a gate asks of a store of rows. The state of a backend is the query built so far; a step that fails keeps
what it has changed before. -/
namespace QueryGate

/-- A step on a state that may end in an error. -/
abbrev Action (ε σ α : Type) := ExceptT ε (StateM σ) α

/-- A failure of a store, which no request is to blame for: an error that it reports, or a panic, which takes down
whatever has called it. -/
inductive Failure
  | error (message : String)
  | panic
  deriving DecidableEq

class Backend (B : Type) (Row : outParam Type) where
  applyOrder : String → Direction → Action Failure B Unit
  applyWindow : (limit offset : UInt64) → Action Failure B Unit
  pageInfo : (perPage page : UInt64) → Action Failure B PageInfo
  fetchRows : Action Failure B (List Row)

/-- Backends that take conditions, as further requirements or as alternatives. -/
class Conditions (B : Type) (Row : outParam Type) extends Backend B Row where
  andWhere : String → Comparison → Arg → Action Failure B Unit
  orWhere : String → Comparison → Arg → Action Failure B Unit

end QueryGate
