import QueryGate.Binary64.Layout
import QueryGate.Text.Integer

/-! Reading integers. A run of digits is read as its value where this is within bounds, nothing else is read, and the
text of an integer is read as that integer. -/
namespace QueryGate
namespace Text

theorem bounds_of_isDigit {c : Char} (h : c.isDigit = true) : 48 ≤ c.toNat ∧ c.toNat ≤ 57 := by
  simp only [Char.isDigit, Bool.and_eq_true, decide_eq_true_eq, UInt32.le_iff_toNat_le] at h
  exact h

theorem digits_toDigits (n : Nat) : ∀ c ∈ Nat.toDigits 10 n, c.isDigit = true := fun _ =>
  Nat.isDigit_of_mem_toDigits (by decide) (by decide)

theorem exists_toDigits_eq_cons (n : Nat) : ∃ c rest, Nat.toDigits 10 n = c :: rest ∧ c.isDigit = true := by
  obtain ⟨c, rest, h⟩ := List.exists_cons_of_ne_nil (Nat.toDigits_ne_nil (n := n) (b := 10))
  exact ⟨c, rest, h, digits_toDigits n c (by simp [h])⟩

theorem le_ofDigitChars (cs : List Char) (acc : Nat) : acc ≤ Nat.ofDigitChars 10 cs acc := by
  induction cs generalizing acc with
  | nil => simp
  | cons c rest ih =>
    rw [Nat.ofDigitChars_cons]
    exact Nat.le_trans (by omega) (ih _)

theorem readDigits_of_digits {limit acc : Nat} (excess : IntegerError) {cs : List Char}
    (hd : ∀ c ∈ cs, c.isDigit = true) (h : Nat.ofDigitChars 10 cs acc ≤ limit) :
    readDigits limit excess acc cs = .ok (Nat.ofDigitChars 10 cs acc) := by
  induction cs generalizing acc with
  | nil => simp [readDigits]
  | cons c rest ih =>
    rw [Nat.ofDigitChars_cons] at h ⊢
    have hle : 10 * acc + digitValue c ≤ limit := Nat.le_trans (le_ofDigitChars rest _) h
    rw [readDigits, if_pos (hd c List.mem_cons_self), if_pos hle]
    exact ih (fun c hc => hd c (List.mem_cons_of_mem _ hc)) h

theorem digits_of_readDigits {limit acc n : Nat} {excess : IntegerError} {cs : List Char}
    (h : readDigits limit excess acc cs = .ok n) : ∀ c ∈ cs, c.isDigit = true := by
  induction cs generalizing acc with
  | nil => simp
  | cons c rest ih =>
    unfold readDigits at h
    split at h
    · rename_i hc
      split at h
      · intro d hd
        rcases List.mem_cons.mp hd with rfl | hd
        · exact hc
        · exact ih h d hd
      · cases h
    · cases h

theorem readDigits_toDigits {limit n : Nat} (excess : IntegerError) (h : n ≤ limit) :
    readDigits limit excess 0 (Nat.toDigits 10 n) = .ok n := by
  have hv : Nat.ofDigitChars 10 (Nat.toDigits 10 n) 0 = n := Nat.ofDigitChars_ten_toDigits
  rw [readDigits_of_digits excess (digits_toDigits n) (by rwa [hv]), hv]

/-- What is read as a signed number has nothing but digits behind its first character. -/
theorem digits_of_readSigned {limit : Nat} {i : Int} {c : Char} {rest : List Char}
    (h : readSigned limit (c :: rest) = .ok i) : ∀ d ∈ rest, d.isDigit = true := by
  unfold readSigned at h
  split at h
  · cases h
  · cases h
  · cases h
  · rename_i cs _ heq
    cases heq
    cases hr : readDigits limit .tooLarge 0 rest with
    | ok n => exact digits_of_readDigits hr
    | error e => simp [hr, Except.map] at h
  · rename_i cs _ heq
    cases heq
    cases hr : readDigits (limit + 1) .tooSmall 0 rest with
    | ok n => exact digits_of_readDigits hr
    | error e => simp [hr, Except.map] at h
  · cases hr : readDigits limit .tooLarge 0 (c :: rest) with
    | ok n => exact fun d hd => digits_of_readDigits hr d (List.mem_cons_of_mem c hd)
    | error e => simp [hr, Except.map] at h

theorem readSigned_digits {limit : Nat} {c : Char} {rest : List Char} (hc : c.isDigit = true) :
    readSigned limit (c :: rest) = (readDigits limit .tooLarge 0 (c :: rest)).map Int.ofNat := by
  have hp : c ≠ '+' := by
    rintro rfl
    cases hc
  have hm : c ≠ '-' := by
    rintro rfl
    cases hc
  unfold readSigned
  split <;> simp_all

/-- The text of an integer is a run of digits, with a minus sign in front of it for a negative one. -/
theorem integerText_cases (i : Int) :
    (0 ≤ i ∧ Binary64.integerText i = Nat.toDigits 10 i.natAbs) ∨
      (i < 0 ∧ Binary64.integerText i = '-' :: Nat.toDigits 10 i.natAbs) := by
  unfold Binary64.integerText
  split
  · exact .inr ⟨by assumption, rfl⟩
  · exact .inl ⟨by omega, rfl⟩

theorem readSigned_integerText {limit : Nat} {i : Int} (hlow : -(limit + 1) ≤ i) (hhigh : i ≤ limit) :
    readSigned limit (Binary64.integerText i) = .ok i := by
  obtain ⟨c, rest, hds, hc⟩ := exists_toDigits_eq_cons i.natAbs
  rcases integerText_cases i with ⟨hi, ht⟩ | ⟨hi, ht⟩
  · rw [ht, hds, readSigned_digits hc, ← hds, readDigits_toDigits _ (by omega), Except.map]
    congr 1
    exact Int.natAbs_of_nonneg hi
  · have hr : readDigits (limit + 1) .tooSmall 0 (Nat.toDigits 10 i.natAbs) = .ok i.natAbs :=
      readDigits_toDigits _ (by omega)
    rw [hds] at hr
    rw [ht, hds]
    simp only [readSigned, hr, Except.map]
    congr 1
    rw [Int.ofNat_eq_natCast]
    omega

theorem readInt64_integerText (n : Int64) : readInt64 (Binary64.integerText n.toInt) = .ok n := by
  have hlow : -((UInt64.size / 2 - 1 : Nat) + 1 : Int) ≤ n.toInt := n.le_toInt
  have hhigh : n.toInt ≤ (UInt64.size / 2 - 1 : Nat) := Int.le_of_lt_add_one n.toInt_lt
  rw [readInt64, readSigned_integerText hlow hhigh, Except.map, Int64.ofInt_toInt]

end Text
end QueryGate
