/-! Hexadecimal digits in either case. -/
namespace QueryGate
namespace Text

def hexValue? (c : Char) : Option Nat :=
  if c.isDigit then some (c.toNat - '0'.toNat)
  else if 'a' ≤ c ∧ c ≤ 'f' then some (c.toNat - 'a'.toNat + 10)
  else if 'A' ≤ c ∧ c ≤ 'F' then some (c.toNat - 'A'.toNat + 10)
  else none

theorem hexValue?_lt {c : Char} {n : Nat} (h : hexValue? c = some n) : n < 16 := by
  simp only [hexValue?] at h
  split at h
  · rename_i hd
    simp only [Char.isDigit, Bool.and_eq_true, decide_eq_true_eq, UInt32.le_iff_toNat_le] at hd
    have := Option.some.inj h
    simp only [Char.toNat] at *
    have h9 : ('9' : Char).val.toNat = 57 := rfl
    have h0 : ('0' : Char).val.toNat = 48 := rfl
    omega
  · split at h
    · rename_i hd
      have := Option.some.inj h
      have hf : c.toNat ≤ 'f'.toNat := hd.2
      have h1 : 'f'.toNat = 102 := rfl
      have h2 : 'a'.toNat = 97 := rfl
      omega
    · split at h
      · rename_i hd
        have := Option.some.inj h
        have hf : c.toNat ≤ 'F'.toNat := hd.2
        have h1 : 'F'.toNat = 70 := rfl
        have h2 : 'A'.toNat = 65 := rfl
        omega
      · simp at h

/-- The value of a run of hexadecimal digits. -/
def hexNumber? (cs : List Char) : Option Nat :=
  (cs.mapM hexValue?).map fun digits => digits.foldl (fun n d => 16 * n + d) 0

end Text
end QueryGate
