import QueryGate.Proofs.Rule.Check

/-! Argument lists that do not pass. A rule set is a formula over its rules, and what is reported is the first position
whose argument does not satisfy the formula there. -/
namespace QueryGate

/-- Whether a rule takes an argument. A custom test has to answer that it does; an error is no answer. -/
def Rule.Takes : Rule → Arg → Prop
  | custom _ test, a => test a = .ok true
  | r, a => r.check a = true

theorem Rule.check_eq_true_iff (r : Rule) (a : Arg) : r.check a = true ↔ r.Takes a := by
  cases r with
  | custom name test =>
    simp only [check, Takes]
    cases test a <;> simp
  | _ => exact Iff.rfl

/-- The rules of which a slot wants one. -/
def Slot.alternatives : Slot → List Rule
  | rule r => [r]
  | anyOf rs => rs

theorem Slot.passes_eq_true_iff (s : Slot) (a : Arg) : s.passes a = true ↔ ∃ r ∈ s.alternatives, r.Takes a := by
  cases s <;> simp [passes, alternatives, Rule.check_eq_true_iff]

namespace RuleSet

/-- A rule set as lists of alternatives, each of which has to have one that takes the argument. -/
def formula : RuleSet → List (List Rule)
  | single r => [[r]]
  | all slots => slots.map Slot.alternatives

def Satisfied (set : RuleSet) (a : Arg) : Prop := ∀ rs ∈ set.formula, ∃ r ∈ rs, r.Takes a

theorem passes_eq_true_iff (set : RuleSet) (a : Arg) : set.passes a = true ↔ set.Satisfied a := by
  cases set with
  | single r => simp [passes, Satisfied, formula, Rule.check_eq_true_iff]
  | all slots => simp [passes, Satisfied, formula, Slot.passes_eq_true_iff]

/-- An argument at a position does not satisfy the rule set there, and every argument in front of it does. -/
structure FirstFailure (sets : List RuleSet) (args : List Arg) (position : Nat) (a : Arg) : Prop where
  here : ∃ set, sets[position]? = some set ∧ args[position]? = some a ∧ ¬set.Satisfied a
  before : ∀ i < position, ∀ set b, sets[i]? = some set → args[i]? = some b → set.Satisfied b

section Cons

variable {set : RuleSet} {sets : List RuleSet} {a b : Arg} {args : List Arg} {position : Nat}

theorem firstFailure_cons_of_not_satisfied (h : ¬set.Satisfied a) :
    FirstFailure (set :: sets) (a :: args) position b ↔ position = 0 ∧ b = a := by
  constructor
  · intro hf
    obtain rfl : position = 0 := by
      by_contra hne
      exact h (hf.before 0 (Nat.pos_of_ne_zero hne) set a rfl rfl)
    obtain ⟨_, -, hb, -⟩ := hf.here
    exact ⟨rfl, (Option.some.inj hb).symm⟩
  · rintro ⟨rfl, rfl⟩
    exact ⟨⟨set, rfl, rfl, h⟩, nofun⟩

theorem firstFailure_cons_of_satisfied (h : set.Satisfied a) :
    FirstFailure (set :: sets) (a :: args) position b ↔
      ∃ i, position = i + 1 ∧ FirstFailure sets args i b := by
  constructor
  · intro hf
    cases position with
    | zero =>
      obtain ⟨set', hs, hb, hn⟩ := hf.here
      cases hs
      cases hb
      exact absurd h hn
    | succ i => exact ⟨i, rfl, hf.here, fun j hj => hf.before (j + 1) (Nat.succ_lt_succ hj)⟩
  · rintro ⟨i, rfl, hf⟩
    refine ⟨hf.here, fun j hj set' b' hs hb => ?_⟩
    cases j with
    | zero =>
      cases hs
      cases hb
      exact h
    | succ j => exact hf.before j (Nat.lt_of_succ_lt_succ hj) set' b' hs hb

end Cons

/-- The scan from a position on stops at the first failure, and reports nothing else. -/
theorem firstRejected?_eq_some_iff (start : Nat) (sets : List RuleSet) (args : List Arg) (v : Violation) :
    firstRejected? start sets args = some v ↔
      ∃ i a, FirstFailure sets args i a ∧ v = .rejected (start + i) a := by
  induction sets generalizing start args with
  | nil =>
    refine iff_of_false nofun ?_
    rintro ⟨i, a, ⟨⟨set, hs, -, -⟩, -⟩, -⟩
    cases hs
  | cons set sets ih =>
    cases args with
    | nil =>
      refine iff_of_false nofun ?_
      rintro ⟨i, a, ⟨⟨set, -, ha, -⟩, -⟩, -⟩
      cases ha
    | cons a args =>
      by_cases h : set.Satisfied a
      · rw [firstRejected?, if_pos ((passes_eq_true_iff set a).mpr h), ih]
        simp only [firstFailure_cons_of_satisfied h]
        constructor
        · rintro ⟨i, b, hf, rfl⟩
          exact ⟨i + 1, b, ⟨i, rfl, hf⟩, by rw [Nat.add_right_comm, Nat.add_assoc]⟩
        · rintro ⟨_, b, ⟨i, rfl, hf⟩, rfl⟩
          exact ⟨i, b, hf, by rw [Nat.add_right_comm, Nat.add_assoc]⟩
      · rw [firstRejected?, if_neg (mt (passes_eq_true_iff set a).mp h)]
        simp only [firstFailure_cons_of_not_satisfied h, Option.some.injEq]
        constructor
        · rintro rfl
          exact ⟨0, a, ⟨rfl, rfl⟩, rfl⟩
        · rintro ⟨_, _, ⟨rfl, rfl⟩, rfl⟩
          rfl

section Check

variable (sets : List RuleSet) (args : List Arg)

theorem check?_eq_arityMismatch_iff (expected actual : Nat) :
    check? sets args = some (.arityMismatch expected actual) ↔
      args.length ≠ sets.length ∧ expected = sets.length ∧ actual = args.length := by
  unfold check?
  by_cases h : args.length = sets.length
  · rw [if_pos h, firstRejected?_eq_some_iff]
    refine iff_of_false ?_ fun hm => hm.1 h
    rintro ⟨_, _, -, hv⟩
    cases hv
  · rw [if_neg h]
    simp [h, eq_comm]

theorem check?_eq_rejected_iff (position : Nat) (a : Arg) :
    check? sets args = some (.rejected position a) ↔
      args.length = sets.length ∧ FirstFailure sets args position a := by
  unfold check?
  by_cases h : args.length = sets.length
  · simp [h, firstRejected?_eq_some_iff]
  · rw [if_neg h]
    exact iff_of_false nofun fun hf => h hf.1

theorem check?_eq_none_iff_satisfied : check? sets args = none ↔ List.Forall₂ Satisfied sets args := by
  simp only [check?_eq_none_iff, passes_eq_true_iff]

end Check

section Ensure

variable (set : RuleSet) (a : Arg) (default : Option Arg)

theorem ensure_eq_ok_iff (b : Arg) :
    set.ensure a default = .ok b ↔ set.Satisfied a ∧ b = a ∨ ¬set.Satisfied a ∧ default = some b := by
  unfold ensure
  by_cases h : set.Satisfied a
  · rw [if_pos ((passes_eq_true_iff set a).mpr h)]
    simp [h, eq_comm]
  · rw [if_neg (mt (passes_eq_true_iff set a).mp h)]
    cases default <;> simp [h]

theorem ensure_eq_error_iff (e : ValidationFailed) :
    set.ensure a default = .error e ↔ ¬set.Satisfied a ∧ default = none ∧ e = ⟨a⟩ := by
  unfold ensure
  by_cases h : set.Satisfied a
  · rw [if_pos ((passes_eq_true_iff set a).mpr h)]
    simp [h]
  · rw [if_neg (mt (passes_eq_true_iff set a).mp h)]
    cases default <;> simp [h, eq_comm]

end Ensure

/-- A list of arguments is refused for its length, or else for the first argument that does not satisfy its rule set,
and accepted otherwise. A single argument that does not satisfy its rule set gives way to the default, whatever that is,
and is refused where there is none. -/
theorem check?_reports_first_failure :
    (∀ (sets : List RuleSet) (args : List Arg),
      (∀ expected actual, check? sets args = some (.arityMismatch expected actual) ↔
        args.length ≠ sets.length ∧ expected = sets.length ∧ actual = args.length) ∧
      (∀ position a, check? sets args = some (.rejected position a) ↔
        args.length = sets.length ∧ FirstFailure sets args position a) ∧
      (check? sets args = none ↔ List.Forall₂ Satisfied sets args) ∧
      (accepts sets args = true ↔ check? sets args = none)) ∧
    ∀ (set : RuleSet) (a : Arg),
      (∀ default b, set.ensure a default = .ok b ↔
        set.Satisfied a ∧ b = a ∨ ¬set.Satisfied a ∧ default = some b) ∧
      (∀ default e, set.ensure a default = .error e ↔ ¬set.Satisfied a ∧ default = none ∧ e = ⟨a⟩) ∧
      ∀ d, set.ensure a (some d) = .ok (set.ensureOr a d) := by
  constructor
  · intro sets args
    exact ⟨check?_eq_arityMismatch_iff sets args, check?_eq_rejected_iff sets args,
      check?_eq_none_iff_satisfied sets args, Option.isNone_iff_eq_none⟩
  · intro set a
    exact ⟨ensure_eq_ok_iff set a, ensure_eq_error_iff set a, ensure_some set a⟩

end RuleSet
end QueryGate
