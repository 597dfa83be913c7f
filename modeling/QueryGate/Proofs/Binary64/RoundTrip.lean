import QueryGate.Binary64.Layout
import QueryGate.Proofs.Binary64.Literal
import QueryGate.Proofs.Binary64.Rounding

/-! The exact text of a finite number reads back to it. Each decimal that the search for a shortest one may end with
has the number as its value: one that was tried has passed that very test, and the one taken when all fail is exact. -/
namespace QueryGate
namespace Binary64

theorem ofDecimal_of_hit? {n m : Nat} {e : Int} (h : hit? n e = some m) : ofDecimal false m e = ofUnits false n := by
  unfold hit? at h
  generalize onGrid n e = grid at h
  obtain ⟨num, den⟩ := grid
  dsimp only at h
  split at h
  · rename_i hl hu
    rw [beq_iff_eq] at hl hu
    cases h
    split
    · exact hl
    · exact hu
  · rename_i hl _
    cases h
    exact beq_iff_eq.mp hl
  · rename_i _ hu
    cases h
    exact beq_iff_eq.mp hu
  · cases h

/-- Five times two is ten: the number of units is the nearest one to its exact decimal. -/
theorem ofDecimal_exact (negative : Bool) {n : Nat} (h : spacing n ∣ n) :
    ofDecimal negative (n * Nat.pow 5 1074) (-1074) = ofUnits negative n := by
  have hu : ∀ u, n * 5 ^ u * 2 ^ u = n * 10 ^ u := fun u => by rw [Nat.mul_assoc, ← Nat.mul_pow]
  have he : (-1074 : Int) = ((0 : Nat) : Int) - (1074 : Nat) := rfl
  rw [he, ofDecimal_sub, ofRatio, Nat.pow_zero, Nat.mul_one]
  delta unitsOfOne
  generalize 1074 = u
  change ofUnits negative (nearest (n * 5 ^ u * 2 ^ u) (10 ^ u)) = _
  rw [hu, nearest_mul_self h (Nat.pow_pos (by decide))]

theorem ofDecimal_search {n : Nat} (h : spacing n ∣ n) (leading : Int) (tries k : Nat) :
    ofDecimal false (search n leading tries k).1 (search n leading tries k).2 = ofUnits false n := by
  induction tries generalizing k with
  | zero => exact ofDecimal_exact false h
  | succ tries ih =>
    unfold search
    cases hh : hit? n (leading - k) with
    | some m => exact ofDecimal_of_hit? hh
    | none => exact ih (k + 1)

theorem ofDecimal_dropZeros (negative : Bool) (fuel m : Nat) (e : Int) :
    ofDecimal negative (dropZeros fuel m e).1 (dropZeros fuel m e).2 = ofDecimal negative m e := by
  induction fuel generalizing m e with
  | zero => rfl
  | succ fuel ih =>
    unfold dropZeros
    split
    · rename_i h
      have hm : m / 10 * 10 ^ 1 = m := by omega
      rw [ih]
      conv => rhs; rw [← hm, ofDecimal_mul_ten_pow]
      rfl
    · rfl

theorem ofDecimal_shortest {n : Nat} (hn : Representable n) (negative : Bool) :
    ofDecimal negative (shortest n).1 (shortest n).2 = ofUnits negative n := by
  refine ofDecimal_eq_ofUnits negative hn ?_
  unfold shortest
  split
  · rename_i h
    rw [h, ofUnits_zero]
    rfl
  · have hs := ofDecimal_search hn.2 (leadingPower n) 17 0
    generalize search n (leadingPower n) 17 0 = d at hs ⊢
    exact (ofDecimal_dropZeros ..).trans hs

theorem digits_zeros (k : Nat) : ∀ c ∈ zeros k, c.isDigit = true := by
  intro c hc
  rw [List.eq_of_mem_replicate hc]
  rfl

theorem digitsValue_append (ds es : List Char) :
    digitsValue (ds ++ es) = Nat.ofDigitChars 10 es (digitsValue ds) :=
  Nat.ofDigitChars_append 0

theorem digitsValue_append_zeros (ds : List Char) (k : Nat) :
    digitsValue (ds ++ zeros k) = digitsValue ds * 10 ^ k := by
  rw [digitsValue_append, zeros, Nat.ofDigitChars_replicate_zero, Nat.mul_comm]

theorem digitsValue_zeros_append (ds : List Char) (k : Nat) : digitsValue (zeros k ++ ds) = digitsValue ds := by
  have hz : digitsValue (zeros k) = 0 := by
    have := digitsValue_append_zeros [] k
    rwa [List.nil_append, show digitsValue [] = 0 from rfl, Nat.zero_mul] at this
  rw [digitsValue_append, hz]
  rfl

/-- A text that is a literal, with the value of a decimal. -/
def Spells (cs : List Char) (m : Nat) (e : Int) : Prop :=
  ∃ l : Literal, l.WellFormed ∧ cs = l.text ∧ ∀ negative, l.value negative = ofDecimal negative m e

theorem spells_positionalText_of_nonneg (m : Nat) {e : Int} (he : e ≥ 0) : Spells (positionalText true m e) m e := by
  obtain ⟨k, hk⟩ : ∃ k, k = if m = 0 then 0 else e.toNat := ⟨_, rfl⟩
  refine ⟨⟨Nat.toDigits 10 m ++ zeros k, some ['0'], none⟩, ⟨?_, ?_, ?_, .inl rfl⟩, ?_, ?_⟩
  · intro c hc
    rcases List.mem_append.mp hc with hc | hc
    · exact Text.digits_toDigits m c hc
    · exact digits_zeros k c hc
  · intro c hc
    rw [List.mem_singleton.mp hc]
    rfl
  · simp [Nat.toDigits_ne_nil]
  · simp [positionalText, he, ← hk, Literal.text, Literal.fractionText, Literal.exponentText]
  · intro negative
    have hv : digitsValue (Nat.toDigits 10 m ++ zeros k ++ ['0']) = m * 10 ^ (k + 1) := by
      rw [List.append_assoc, show zeros k ++ ['0'] = zeros (k + 1) from List.replicate_succ'.symm,
        digitsValue_append_zeros, digitsValue_toDigits]
    simp only [Literal.value, Option.getD_some, Option.getD_none, hv, ofDecimal_mul_ten_pow]
    by_cases hm : m = 0
    · simp [hm, ofDecimal]
    · rw [if_neg hm] at hk
      congr 1
      simp
      omega

theorem spells_positionalText_of_neg (m : Nat) {e : Int} (he : ¬e ≥ 0) : Spells (positionalText true m e) m e := by
  obtain ⟨padded, hp⟩ : ∃ ds, ds = zeros (e.natAbs + 1 - (Nat.toDigits 10 m).length) ++ Nat.toDigits 10 m := ⟨_, rfl⟩
  have hd : ∀ c ∈ padded, c.isDigit = true := by
    intro c hc
    rw [hp] at hc
    rcases List.mem_append.mp hc with hc | hc
    · exact digits_zeros _ c hc
    · exact Text.digits_toDigits m c hc
  have hlen : e.natAbs + 1 ≤ padded.length := by
    rw [hp, List.length_append, zeros, List.length_replicate]
    omega
  refine ⟨⟨padded.take (padded.length - e.natAbs), some (padded.drop (padded.length - e.natAbs)), none⟩,
    ⟨?_, ?_, ?_, .inl rfl⟩, ?_, ?_⟩
  · exact fun c hc => hd c (List.mem_of_mem_take hc)
  · exact fun c hc => hd c (List.mem_of_mem_drop hc)
  · intro h
    have := congrArg List.length h
    simp at this
    omega
  · simp [positionalText, he, ← hp, Literal.text, Literal.fractionText, Literal.exponentText]
  · intro negative
    have hv : digitsValue padded = m := by rw [hp, digitsValue_zeros_append, digitsValue_toDigits]
    simp only [Literal.value, Option.getD_some, Option.getD_none, List.take_append_drop, hv, List.length_drop]
    congr 1
    omega

theorem spells_exponentText (m : Nat) (e : Int) : Spells (exponentText m e) m e := by
  have hd := Text.digits_toDigits m
  have hv := digitsValue_toDigits m
  unfold exponentText
  split
  · exact absurd (by assumption) Nat.toDigits_ne_nil
  · rename_i d h
    rw [h] at hd hv
    refine ⟨⟨[d], none, some e⟩, ⟨hd, by simp, by simp, .inr rfl⟩, rfl, fun negative => ?_⟩
    simp [Literal.value, hv]
  · rename_i d rest hne h
    rw [h] at hd hv
    refine ⟨⟨[d], some rest, some (e + rest.length)⟩, ⟨?_, ?_, by simp, .inl rfl⟩, ?_, fun negative => ?_⟩
    · exact fun c hc => hd c (by simp at hc; simp [hc])
    · exact fun c hc => hd c (List.mem_cons_of_mem d hc)
    · simp [Literal.text, Literal.fractionText, Literal.exponentText]
    · have hs : digitsValue ([d] ++ rest) = m := hv
      simp only [Literal.value, Option.getD_some, hs]
      congr 1
      omega

theorem spells_magnitudeText (n : Nat) : Spells (magnitudeText .exact n) (shortest n).1 (shortest n).2 := by
  have hpos : Spells (positionalText true (shortest n).1 (shortest n).2) (shortest n).1 (shortest n).2 := by
    by_cases he : (shortest n).2 ≥ 0
    · exact spells_positionalText_of_nonneg _ he
    · exact spells_positionalText_of_neg _ he
  unfold magnitudeText Layout.exact
  dsimp only
  split
  · exact spells_exponentText ..
  · exact hpos

/-- The text of a finite number is a literal, with a minus sign in front of it for a negative one. -/
theorem exists_text_eq {x : Binary64} (hx : x.isFinite = true) :
    ∃ l : Literal, l.WellFormed ∧ (x.text .exact = l.text ∧ x = l.value false ∨
      x.text .exact = '-' :: l.text ∧ x = l.value true) := by
  cases x with
  | nan => cases hx
  | infinite negative => cases hx
  | finite negative n fits =>
    obtain ⟨l, hl, ht, hv⟩ := spells_magnitudeText n
    have hval : ∀ s, l.value s = .finite s n fits := fun s => by
      rw [hv, ofDecimal_shortest fits, ofUnits, dif_pos fits]
    cases negative with
    | false => exact ⟨l, hl, .inl ⟨by simpa [text] using ht, (hval false).symm⟩⟩
    | true => exact ⟨l, hl, .inr ⟨by simpa [text] using ht, (hval true).symm⟩⟩

theorem isMark_text {x : Binary64} (hx : x.isFinite = true) : ∀ c ∈ x.text .exact, Literal.isMark c = true := by
  obtain ⟨l, hl, ⟨ht, -⟩ | ⟨ht, -⟩⟩ := exists_text_eq hx
  · rw [ht]
    exact Literal.isMark_text hl
  · rw [ht]
    intro c hc
    rcases List.mem_cons.mp hc with rfl | hc
    · rfl
    · exact Literal.isMark_text hl c hc

theorem readDecimal?_text {x : Binary64} (hx : x.isFinite = true) : readDecimal? (x.text .exact) = some x := by
  obtain ⟨l, hl, ⟨ht, rfl⟩ | ⟨ht, rfl⟩⟩ := exists_text_eq hx
  · obtain ⟨c, rest, -, hc, hd, -, -⟩ := Literal.text_eq_cons hl
    rw [ht, readDecimal?, hc, splitSign_of_digit rest hd, ← hc]
    exact Literal.readMagnitude?_text hl false
  · rw [ht]
    exact Literal.readMagnitude?_text hl true

/-- The text of a finite number is never taken for an integer. -/
theorem readSigned_text {x : Binary64} (hx : x.isFinite = true) (limit : Nat) :
    ∃ e, Text.readSigned limit (x.text .exact) = .error e := by
  obtain ⟨l, hl, ht⟩ := exists_text_eq hx
  obtain ⟨c, rest, d, hc, -, hd, hnot⟩ := Literal.text_eq_cons hl
  have htail : ∃ a as, x.text .exact = a :: as ∧ d ∈ as := by
    rcases ht with ⟨ht, -⟩ | ⟨ht, -⟩
    · exact ⟨c, rest, ht.trans hc, hd⟩
    · exact ⟨'-', c :: rest, by rw [ht, hc], List.mem_cons_of_mem c hd⟩
  obtain ⟨a, as, has, hmem⟩ := htail
  rw [has]
  cases hr : Text.readSigned limit (a :: as) with
  | error e => exact ⟨e, rfl⟩
  | ok i =>
    rw [Text.digits_of_readSigned hr d hmem] at hnot
    cases hnot

end Binary64
end QueryGate
