import QueryGate.Bracket.Basic
import QueryGate.Gate.AllowList
import QueryGate.Operation.Args

/-! Reports: what became of each parameter in a pass. -/
namespace QueryGate

inductive SkipReason
  | malformed (m : Bracket.Malformed)
  | unknownOperation
  | denied (d : Denial)
  | badArguments (e : ArgumentError)
  deriving DecidableEq

def SkipReason.message : SkipReason → String
  | malformed m => "malformed value: " ++ m.message
  | unknownOperation => "no operation with this name"
  | denied .notAllowed => "operation is not on the allow-list"
  | denied .budgetExhausted => "call budget exhausted"
  | denied (.rejected v) => "arguments rejected: " ++ v.message
  | badArguments e => "unusable arguments: " ++ e.message

inductive Status
  | applied
  | skipped (reason : SkipReason)
  deriving DecidableEq

structure Outcome where
  key : String
  operation : String
  status : Status
  deriving DecidableEq

namespace Outcome

def isApplied (o : Outcome) : Bool := o.status == .applied

def skipReason? (o : Outcome) : Option SkipReason :=
  match o.status with
  | .applied => none
  | .skipped reason => some reason

end Outcome
end QueryGate
