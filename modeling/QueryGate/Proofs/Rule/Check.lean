import Mathlib.Data.List.Forall2
import QueryGate.Rule.Check

/-! Argument lists that pass: as many arguments as rule sets, each passing the one at its position. -/
namespace QueryGate
namespace RuleSet

theorem firstRejected?_eq_none_iff {sets : List RuleSet} {args : List Arg} (h : args.length = sets.length)
    (position : Nat) :
    firstRejected? position sets args = none ↔ List.Forall₂ (fun set a => passes set a = true) sets args := by
  induction sets generalizing args position with
  | nil =>
    obtain rfl : args = [] := List.length_eq_zero_iff.mp h
    simp [firstRejected?]
  | cons set sets ih =>
    cases args with
    | nil => simp at h
    | cons a args =>
      have hl : args.length = sets.length := by simpa using h
      by_cases hp : set.passes a = true
      · simp [firstRejected?, hp, ih hl]
      · simp [firstRejected?, hp]

theorem check?_eq_none_iff (sets : List RuleSet) (args : List Arg) :
    check? sets args = none ↔ List.Forall₂ (fun set a => passes set a = true) sets args := by
  unfold check?
  by_cases h : args.length = sets.length
  · rw [if_pos h]
    exact firstRejected?_eq_none_iff h 0
  · rw [if_neg h]
    constructor
    · intro hn
      cases hn
    · intro hf
      exact absurd hf.length_eq.symm h

end RuleSet
end QueryGate
