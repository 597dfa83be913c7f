import QueryGate.Operation.Basic
import QueryGate.OrderedMap

/-! Catalogs: the operations that a gate knows, by name. A name put in again replaces its operation. -/
namespace QueryGate

abbrev Catalog (B : Type) := OrderedMap (Operation B)

namespace Catalog

variable {B : Type}

def add (c : Catalog B) (name : String) (arity : Nat) (run : Args → Action OperationError B Unit) : Catalog B :=
  c.insert name ⟨arity, run⟩

/-- The names in increasing order. -/
def names (c : Catalog B) : List String := c.keys.mergeSort fun a b => decide (a ≤ b)

def describe (c : Catalog B) : String :=
  "Operations \x7b names: [" ++ String.intercalate ", " ((names c).map Text.quoted) ++ "] \x7d"

end Catalog
end QueryGate
