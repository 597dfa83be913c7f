import QueryGate.Number

/-! Directions of an ordering. -/
namespace QueryGate

inductive Direction
  | ascending | descending
  deriving DecidableEq

namespace Direction

/-- A number below zero asks for descending order; both zeros and the undefined number do not. -/
def ofSign (n : Number) : Direction :=
  if n.toBinary64.compare? (.zero false) = some .lt then descending else ascending

def text : Direction → String
  | ascending => "ASC"
  | descending => "DESC"

def name : Direction → String
  | ascending => "asc"
  | descending => "desc"

def ofName? (s : String) : Option Direction := [ascending, descending].find? (·.name == s)

theorem ofName?_name (d : Direction) : ofName? d.name = some d := by
  cases d <;> decide

/-- The order of two values in a direction. -/
def apply : Direction → Ordering → Ordering
  | ascending, o => o
  | descending, o => o.swap

end Direction
end QueryGate
