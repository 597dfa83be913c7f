import QueryGate.Backend
import QueryGate.Operation.Args

/-! Operations: named ways in which a request may change a query. -/
namespace QueryGate

/-- How an operation ends when it does not succeed: the arguments are unusable, or the store fails. -/
inductive OperationError
  | argument (e : ArgumentError)
  | validation (v : ValidationFailed)
  | failure (f : Failure)

/-- What a request is told about unusable arguments. A failure of the store is none of its business. -/
def OperationError.argument? : OperationError → Except Failure ArgumentError
  | argument e => .ok e
  | validation v => .ok (.failed v)
  | failure f => .error f

structure Operation (B : Type) where
  arity : Nat
  run : Args → Action OperationError B Unit

namespace Operation

variable {B α : Type}

/-- Takes an argument; without it the operation ends. -/
def take (r : Except ArgumentError α) : Action OperationError B α :=
  ExceptT.mk (pure (r.mapError .argument))

/-- A step of the store as a part of an operation. -/
def store (a : Action Failure B α) : Action OperationError B α := ExceptT.adapt .failure a

/-- The name of the operation that a parameter asks for. An underscore with digits behind it only tells apart
parameters that ask for the same one. -/
def nameOf (key : String) : String :=
  let digits := key.toList.reverse.takeWhile Char.isDigit
  match key.toList.reverse.dropWhile Char.isDigit with
  | '_' :: stem => if digits.isEmpty then key else String.ofList stem.reverse
  | _ => key

end Operation
end QueryGate
