import QueryGate.Data.Record
import QueryGate.Rule.Schema

/-! Declarations: operations that requests may ask for, the rules for their arguments, and how often. -/
namespace QueryGate

structure Declaration where
  name : String
  rules : List RuleSet
  /-- Without a number of its own a declaration has the one of the settings. -/
  maxCalls : Option UInt32

namespace Declaration

def budget (d : Declaration) (default : UInt32) : UInt32 := d.maxCalls.getD default

def fieldNames : List String := ["name", "rules", "max_calls"]

def maxCalls? : Data → Option (Option UInt32)
  | .null => some none
  | d => d.word32?.map some

def rules? (d : Data) : Option (List RuleSet) := d.items?.bind (·.mapM RuleSet.ofData?)

def ofData? (d : Data) : Option Declaration := do
  let fields ← d.fields? fieldNames
  some {
    name := ← fields.require "name" Data.text?
    rules := ← fields.orDefault "rules" rules? []
    maxCalls := ← fields.orDefault "max_calls" maxCalls? none }

/-- The data of a declaration; one with custom rules has none. -/
def toData? (d : Declaration) : Option Data := do
  let rules ← d.rules.mapM RuleSet.toData?
  let calls := match d.maxCalls with
    | some n => [("max_calls", .int n.toNat)]
    | none => []
  some (.record ([("name", .text d.name), ("rules", .list rules)] ++ calls))

end Declaration
end QueryGate
