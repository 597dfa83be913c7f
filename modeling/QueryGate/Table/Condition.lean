import QueryGate.Comparison
import QueryGate.Table.Cell
import QueryGate.Text.Lowercase
import QueryGate.Text.Part

/-! Conditions on a column, and clauses made of them: groups of which one has to hold, each a list of conditions that
all have to hold. -/
namespace QueryGate

structure Condition where
  column : String
  comparison : Comparison
  value : Arg
  deriving DecidableEq

namespace Condition

/-- The truth value that an argument can be taken for. -/
def truth? : Arg → Option Bool
  | .bool b => some b
  | .int n => if n = 0 then some false else if n = 1 then some true else none
  | .text s =>
    if s = "true" ∨ s = "1" then some true
    else if s = "false" ∨ s = "0" then some false
    else none
  | .float _ => none

/-- Whether one text holds another, case aside. -/
def like (text part : String) : Bool :=
  Text.hasPart (Text.lowercase part.toList) (Text.lowercase text.toList)

/-- The order of a text and an argument: that of the numbers if both read as numbers that have one, and else that of
the texts. -/
def compareText (s : String) (value : Arg) : Ordering :=
  let byNumber := do
    let m ← (Arg.text s).number?
    let n ← value.number?
    m.compare? n
  byNumber.getD (compare s value.toText)

/-- Whether a cell satisfies a condition. Nothing holds of a missing value, or of two values without an order. -/
def matchesCell (c : Condition) (cell : Cell) : Bool :=
  if c.comparison = .like then
    match cell.shown? with
    | some s => like s c.value.toText
    | none => false
  else
    match cell with
    | .missing => false
    | .number m =>
      match c.value.number?.bind m.compare? with
      | some o => c.comparison.holds o
      | none => false
    | .text s => c.comparison.holds (compareText s c.value)
    | .bool b =>
      match truth? c.value, c.comparison with
      | some v, .equal => b == v
      | some v, .notEqual => b != v
      | _, _ => false

variable {R : Type} [Row R]

def holdsOf (c : Condition) (row : R) : Bool := c.matchesCell (Row.cell row c.column)

end Condition

abbrev Clauses := List (List Condition)

namespace Clauses

/-- Joins a condition to the last group. -/
def and (groups : Clauses) (c : Condition) : Clauses :=
  match groups.getLast? with
  | some group => groups.dropLast ++ [group ++ [c]]
  | none => [[c]]

/-- Begins a new group. -/
def or (groups : Clauses) (c : Condition) : Clauses := groups ++ [[c]]

variable {R : Type} [Row R]

/-- Whether a row satisfies the clauses; without any clause every row does. -/
def holdOf (groups : Clauses) (row : R) : Bool :=
  groups.isEmpty || groups.any fun group => group.all (·.holdsOf row)

@[simp] theorem and_append_group (groups : Clauses) (group : List Condition) (c : Condition) :
    and (groups ++ [group]) c = groups ++ [group ++ [c]] := by
  simp [and]

end Clauses
end QueryGate
