import QueryGate.Comparison
import QueryGate.Rule.Check
import QueryGate.Text.Integer

/-! Positional arguments as an operation reads them. -/
namespace QueryGate

/-- Why an operation cannot use its arguments. -/
inductive ArgumentError
  | arity (expected actual : Nat)
  | missing (index : Nat)
  | type (index : Nat) (expected found : String)
  | invalid (index : Nat) (reason : String)
  | failed (v : ValidationFailed)
  deriving DecidableEq

def ArgumentError.message : ArgumentError → String
  | arity expected actual => "expected " ++ toString expected ++ " arguments, got " ++ toString actual
  | missing index => "missing argument " ++ toString index
  | type index expected found =>
    "argument " ++ toString index ++ ": expected " ++ expected ++ ", got " ++ found
  | invalid index reason => "argument " ++ toString index ++ ": " ++ reason
  | failed v => v.message

abbrev Args := List Arg

namespace Args

def get (args : Args) (index : Nat) : Except ArgumentError Arg :=
  match args[index]? with
  | some a => .ok a
  | none => .error (.missing index)

/-- A view of the argument at an index, which has to be of the kind that the view is about. -/
def view {α : Type} (f : Arg → Option α) (expected : String) (args : Args) (index : Nat) :
    Except ArgumentError α := do
  let a ← args.get index
  match f a with
  | some x => .ok x
  | none => .error (.type index expected a.kind)

def text (args : Args) (index : Nat) : Except ArgumentError String := view Arg.text? "string" args index

/-- A whole number, or a text that spells one. -/
def integer (args : Args) (index : Nat) : Except ArgumentError Int64 := view Arg.integer? "integer" args index

def number (args : Args) (index : Nat) : Except ArgumentError Number := view Arg.number? "number" args index

/-- The text of an argument, read by a reader that may give a reason against it. -/
def parse {α : Type} (read : String → Except String α) (args : Args) (index : Nat) :
    Except ArgumentError α := do
  let a ← args.get index
  match read a.toText with
  | .ok x => .ok x
  | .error reason => .error (.invalid index reason)

def readByte (s : String) : Except String UInt8 := (Text.readUInt8 s.toList).mapError Text.IntegerError.message

def readInt64 (s : String) : Except String Int64 := (Text.readInt64 s.toList).mapError Text.IntegerError.message

def readBool (s : String) : Except String Bool :=
  if s = "true" then .ok true
  else if s = "false" then .ok false
  else .error "provided string was not \x60true\x60 or \x60false\x60"

def readComparison (s : String) : Except String Comparison :=
  match Comparison.ofText? s with
  | some c => .ok c
  | none => .error (Comparison.unknownMessage s)

end Args
end QueryGate
