import QueryGate.Rule.RuleSet

/-! Argument lists against one rule set for each position, and single arguments with a default. -/
namespace QueryGate

/-- Why an argument list was refused: its length, or the first argument that does not pass. -/
inductive Violation
  | arityMismatch (expected actual : Nat)
  | rejected (position : Nat) (value : Arg)
  deriving DecidableEq

def Violation.message : Violation → String
  | arityMismatch expected actual =>
    "expected " ++ toString expected ++ " arguments, got " ++ toString actual
  | rejected position value =>
    "argument " ++ toString position ++ " (" ++ value.toText ++ ") failed validation"

/-- An argument that did not pass where no default was given. -/
structure ValidationFailed where
  value : Arg
  deriving DecidableEq

def ValidationFailed.message (v : ValidationFailed) : String :=
  "value " ++ v.value.toText ++ " does not satisfy its rules"

namespace RuleSet

/-- The first argument, from a position on, that does not pass. -/
def firstRejected? (position : Nat) : List RuleSet → List Arg → Option Violation
  | set :: sets, a :: args =>
    if set.passes a then firstRejected? (position + 1) sets args else some (.rejected position a)
  | _, _ => none

def check? (sets : List RuleSet) (args : List Arg) : Option Violation :=
  if args.length = sets.length then firstRejected? 0 sets args
  else some (.arityMismatch sets.length args.length)

def accepts (sets : List RuleSet) (args : List Arg) : Bool := (check? sets args).isNone

/-- An argument that passes, or else the default, whatever that is. -/
def ensure (set : RuleSet) (a : Arg) (default : Option Arg) : Except ValidationFailed Arg :=
  if set.passes a then .ok a
  else
    match default with
    | some d => .ok d
    | none => .error ⟨a⟩

def ensureOr (set : RuleSet) (a default : Arg) : Arg := if set.passes a then a else default

theorem ensure_some (set : RuleSet) (a default : Arg) :
    set.ensure a (some default) = .ok (set.ensureOr a default) := by
  unfold ensure ensureOr
  split <;> rfl

end RuleSet
end QueryGate
