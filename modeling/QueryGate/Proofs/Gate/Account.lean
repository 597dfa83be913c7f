import QueryGate.Gate.AllowList

/-! Allow-lists as accounts: what each operation was given, less what was spent on it since. -/
namespace QueryGate

theorem toNat_sub_one_add_one {n : UInt32} (h : n ≠ 0) : (n - 1).toNat + 1 = n.toNat := by
  have hn : n.toNat ≠ 0 := fun e => h (UInt32.toNat_inj.mp e)
  have hle : (1 : UInt32) ≤ n := by
    rw [UInt32.le_iff_toNat_le]
    change 1 ≤ n.toNat
    omega
  rw [UInt32.toNat_sub_of_le _ _ hle]
  change n.toNat - 1 + 1 = n.toNat
  omega

/-- The rules are those given, and what is left and what was spent make up what was given. -/
structure Accounted (given : String → Option Allowance) (spent : String → Nat) (allowed : Option AllowList) :
    Prop where
  undeclared : ∀ name, given name = none → allowed.bind (·.get? name) = none
  declared : ∀ name a, given name = some a → ∃ b, allowed.bind (·.get? name) = some b ∧ b.rules = a.rules ∧
    b.remaining.toNat + spent name = a.remaining.toNat

namespace Accounted

variable {given : String → Option Allowance} {spent : String → Nat} {allowed : Option AllowList}

/-- A call takes one from the budget of its operation, where something was left, and from no other. -/
theorem spend (h : Accounted given spent allowed) (name : String)
    (hleft : ∀ a, allowed.bind (·.get? name) = some a → a.remaining ≠ 0) :
    Accounted given (fun n => spent n + if name = n then 1 else 0) (allowed.map (·.consume name)) := by
  have hget : ∀ n, (allowed.map (·.consume name)).bind (·.get? n) =
      if n = name then
        (allowed.bind (·.get? n)).map fun a =>
          { a with remaining := if a.remaining = 0 then 0 else a.remaining - 1 }
      else allowed.bind (·.get? n) := by
    cases allowed with
    | none => simp
    | some l => exact AllowList.get?_consume l name
  refine ⟨?_, ?_⟩
  · intro n hn
    rw [hget, h.undeclared n hn]
    simp
  · intro n a hn
    obtain ⟨b, hb, hr, hsum⟩ := h.declared n a hn
    rw [hget, hb]
    by_cases he : n = name
    · subst he
      have hne := hleft b hb
      refine ⟨{ b with remaining := b.remaining - 1 }, by rw [if_pos rfl, Option.map_some, if_neg hne], hr, ?_⟩
      have hs := toNat_sub_one_add_one hne
      simp only [if_true]
      omega
    · refine ⟨b, by rw [if_neg he], hr, ?_⟩
      rw [if_neg (fun e => he e.symm)]
      exact hsum

theorem congr_spent {spent' : String → Nat} (h : Accounted given spent allowed) (hs : ∀ n, spent' n = spent n) :
    Accounted given spent' allowed := by
  obtain rfl : spent' = spent := funext hs
  exact h

end Accounted
end QueryGate
