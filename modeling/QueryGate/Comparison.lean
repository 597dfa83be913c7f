/-! The comparison operators of conditions, as a request writes them. -/
namespace QueryGate

inductive Comparison
  | equal | notEqual | less | greater | lessOrEqual | greaterOrEqual | like
  deriving DecidableEq

namespace Comparison

def all : List Comparison := [equal, notEqual, less, greater, lessOrEqual, greaterOrEqual, like]

def text : Comparison → String
  | equal => "="
  | notEqual => "!="
  | less => "<"
  | greater => ">"
  | lessOrEqual => "<="
  | greaterOrEqual => ">="
  | like => "LIKE"

def ofText? (s : String) : Option Comparison := all.find? (·.text == s)

theorem ofText?_text (c : Comparison) : ofText? c.text = some c := by
  cases c <;> decide

def unknownMessage (s : String) : String := "unknown comparison operator '" ++ s ++ "'"

/-- Whether an operator holds of two values in a given order. A pattern is not a matter of order. -/
def holds : Comparison → Ordering → Bool
  | equal, o => o == .eq
  | notEqual, o => o != .eq
  | less, o => o == .lt
  | greater, o => o == .gt
  | lessOrEqual, o => o != .gt
  | greaterOrEqual, o => o != .lt
  | like, _ => false

end Comparison
end QueryGate
