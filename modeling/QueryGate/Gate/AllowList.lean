import QueryGate.OrderedMap
import QueryGate.Rule.Check

/-! Allow-lists: the operations that a restricted gate lets through, each with a budget of calls. -/
namespace QueryGate

structure Allowance where
  rules : List RuleSet
  remaining : UInt32

inductive Denial
  | notAllowed | budgetExhausted
  | rejected (v : Violation)
  deriving DecidableEq

abbrev AllowList := OrderedMap Allowance

namespace AllowList

/-- Declares an operation; one that was declared before gets new rules and a new budget. -/
def allow (l : AllowList) (name : String) (rules : List RuleSet) (calls : UInt32) : AllowList :=
  l.insert name ⟨rules, calls⟩

theorem get?_allow (l : AllowList) (name : String) (rules : List RuleSet) (calls : UInt32) (n : String) :
    (l.allow name rules calls).get? n = if n = name then some ⟨rules, calls⟩ else l.get? n :=
  l.get?_insert name ⟨rules, calls⟩ n

def remaining? (l : AllowList) (name : String) : Option UInt32 := (l.get? name).map Allowance.remaining

/-- Why a call is not let through, if it is not. -/
def denial? (l : AllowList) (name : String) (args : List Arg) : Option Denial :=
  match l.get? name with
  | none => some .notAllowed
  | some a =>
    if a.remaining = 0 then some .budgetExhausted
    else (RuleSet.check? a.rules args).map .rejected

theorem denial?_eq_none_iff (l : AllowList) (name : String) (args : List Arg) :
    l.denial? name args = none ↔
      ∃ a, l.get? name = some a ∧ a.remaining ≠ 0 ∧ RuleSet.check? a.rules args = none := by
  unfold denial?
  cases l.get? name with
  | none => simp
  | some a => by_cases h : a.remaining = 0 <;> simp [h]

/-- Takes one call from the budget of an operation. -/
def consume (l : AllowList) (name : String) : AllowList :=
  match l.get? name with
  | some a => l.insert name { a with remaining := if a.remaining = 0 then 0 else a.remaining - 1 }
  | none => l

theorem get?_consume (l : AllowList) (name n : String) :
    (l.consume name).get? n =
      if n = name then
        (l.get? n).map fun a => { a with remaining := if a.remaining = 0 then 0 else a.remaining - 1 }
      else l.get? n := by
  unfold consume
  cases h : l.get? name with
  | none =>
    by_cases hn : n = name
    · subst hn
      simp [h]
    · simp [hn]
  | some a =>
    by_cases hn : n = name
    · subst hn
      simp [OrderedMap.get?_insert, h]
    · simp [OrderedMap.get?_insert, hn]

end AllowList
end QueryGate
