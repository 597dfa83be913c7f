import QueryGate.Proofs.Binary64.Literal
import QueryGate.Proofs.Binary64.Range
import QueryGate.Proofs.Text.Blank

/-! Decimal literals and their exact values. A literal is read as its value, rounded once, and the value alone decides
whether that is a number or an infinity. -/
namespace QueryGate

namespace Text

theorem ofDigitChars_le_of_readDigits {limit acc n : Nat} {excess : IntegerError} {cs : List Char}
    (h : readDigits limit excess acc cs = .ok n) (hacc : acc ≤ limit) : Nat.ofDigitChars 10 cs acc ≤ limit := by
  induction cs generalizing acc with
  | nil => simpa using hacc
  | cons c rest ih =>
    unfold readDigits at h
    split at h
    · split at h
      · rename_i hle
        rw [Nat.ofDigitChars_cons]
        exact ih h hle
      · cases h
    · cases h

/-- A run of at least one digit with a value of at most `limit`. -/
structure IsDigits (limit : Nat) (cs : List Char) : Prop where
  nonempty : cs ≠ []
  digits : ∀ c ∈ cs, c.isDigit = true
  value_le : Binary64.digitsValue cs ≤ limit

theorem isDigits_of_readDigits {limit n : Nat} {excess : IntegerError} {cs : List Char} (hne : cs ≠ [])
    (h : readDigits limit excess 0 cs = .ok n) : IsDigits limit cs :=
  ⟨hne, digits_of_readDigits h, ofDigitChars_le_of_readDigits h (Nat.zero_le _)⟩

theorem IsDigits.mono {limit limit' : Nat} {cs : List Char} (h : IsDigits limit cs) (hle : limit ≤ limit') :
    IsDigits limit' cs :=
  ⟨h.nonempty, h.digits, Nat.le_trans h.value_le hle⟩

/-- What is read as a signed number has such a run behind its sign. -/
theorem isDigits_of_readSigned {limit : Nat} {cs : List Char} {i : Int} (h : readSigned limit cs = .ok i) :
    IsDigits (limit + 1) (Binary64.splitSign cs).2 := by
  unfold readSigned at h
  split at h
  · cases h
  · cases h
  · cases h
  · rename_i rest hne
    cases hr : readDigits limit .tooLarge 0 rest with
    | ok n => exact (isDigits_of_readDigits hne hr).mono (Nat.le_succ _)
    | error e => simp [hr, Except.map] at h
  · rename_i rest hne
    cases hr : readDigits (limit + 1) .tooSmall 0 rest with
    | ok n => exact isDigits_of_readDigits hne hr
    | error e => simp [hr, Except.map] at h
  · rename_i hnil _ _ hplus hminus
    have hs : Binary64.splitSign cs = (false, cs) := by
      unfold Binary64.splitSign
      split
      · exact absurd rfl (hminus _)
      · exact absurd rfl (hplus _)
      · rfl
    rw [hs]
    cases hr : readDigits limit .tooLarge 0 cs with
    | ok n => exact (isDigits_of_readDigits hnil hr).mono (Nat.le_succ _)
    | error e => simp [hr, Except.map] at h

end Text

namespace Binary64

/-- The exact value of a literal, `digits · 10 ^ exponent` behind its sign. -/
structure Decimal where
  negative : Bool
  digits : Nat
  exponent : Int
  deriving DecidableEq

namespace Decimal

/-- Whether the value lies in front of the end of the range. -/
def InRange (d : Decimal) : Prop := d.digits * 10 ^ d.exponent.toNat < overflow * 10 ^ (-d.exponent).toNat

instance (d : Decimal) : Decidable d.InRange :=
  inferInstanceAs (Decidable (_ < _))

/-- The nearest number. -/
def rounded (d : Decimal) : Binary64 := ofDecimal d.negative d.digits d.exponent

theorem rounded_eq_ofRatio (d : Decimal) :
    d.rounded = ofRatio d.negative (d.digits * 10 ^ d.exponent.toNat) (10 ^ (-d.exponent).toNat) := by
  have he : d.exponent = (d.exponent.toNat : Int) - (-d.exponent).toNat := by omega
  rw [rounded, he, ofDecimal_sub, ← he]

theorem isFinite_rounded_iff (d : Decimal) : d.rounded.isFinite = true ↔ d.InRange := by
  rw [rounded_eq_ofRatio, isFinite_ofRatio_iff _ _ (Nat.pow_pos (by decide))]
  rfl

theorem rounded_of_not_inRange {d : Decimal} (h : ¬d.InRange) : d.rounded = .infinite d.negative := by
  rw [← isFinite_rounded_iff, Bool.not_eq_true] at h
  rw [rounded_eq_ofRatio] at h ⊢
  exact ofUnits_of_isFinite_eq_false h

theorem rounded_ne_nan (d : Decimal) : d.rounded ≠ .nan := by
  by_cases h : d.InRange
  · intro hnan
    rw [← isFinite_rounded_iff, hnan] at h
    cases h
  · rw [rounded_of_not_inRange h]
    nofun

/-- The value of a literal without its sign: digits on at least one side of the point, and maybe an exponent. -/
def readMagnitude? (negative : Bool) (cs : List Char) : Option Decimal :=
  let (whole, rest) := cs.span Char.isDigit
  let (fraction, rest) := splitFraction rest
  if whole.isEmpty && fraction.isEmpty then none
  else (readExponent? rest).map fun exponent =>
    ⟨negative, digitsValue (whole ++ fraction), exponent - fraction.length⟩

def read? (cs : List Char) : Option Decimal :=
  let (negative, rest) := splitSign cs
  readMagnitude? negative rest

/-- A literal is read as its exact value, rounded once. -/
theorem readDecimal?_eq (cs : List Char) : readDecimal? cs = (read? cs).map rounded := by
  unfold readDecimal? read? Binary64.readMagnitude? readMagnitude?
  dsimp only
  split
  · rfl
  · rw [Option.map_map]
    rfl

theorem read?_of_isDigits {limit : Nat} {cs : List Char} (h : Text.IsDigits limit (splitSign cs).2) :
    read? cs = some ⟨(splitSign cs).1, digitsValue (splitSign cs).2, 0⟩ := by
  have hnil : ∀ c ∈ ([] : List Char).head?, c.isDigit = false := by simp
  have hspan := span_digits h.digits hnil
  have hne : (splitSign cs).2.isEmpty = false := by simpa using h.nonempty
  rw [List.append_nil] at hspan
  unfold read? readMagnitude?
  simp only [hspan, splitFraction, hne, Bool.false_and, Bool.false_eq_true, if_false, readExponent?, Option.map_some,
    List.append_nil, List.length_nil]
  rfl

/-- No whole number of 64 bits comes near the end of the range. -/
theorem inRange_of_isDigits {cs : List Char} (h : Text.IsDigits (UInt64.size / 2) (splitSign cs).2) :
    ∀ d ∈ read? cs, d.InRange := by
  have hsize : UInt64.size / 2 < overflow := by decide +kernel
  rw [read?_of_isDigits h]
  rintro d ⟨⟩
  simpa [InRange] using Nat.lt_of_le_of_lt h.value_le hsize

/-- A character that a decimal literal may hold. -/
def isLiteral (c : Char) : Bool := c.isDigit || c == '+' || c == '-' || c == '.' || c == 'e' || c == 'E'

theorem isBlank_of_isLiteral {c : Char} (h : isLiteral c = true) : Text.isBlank c = false := by
  simp only [isLiteral, Bool.or_eq_true, beq_iff_eq] at h
  rcases h with ((((h | rfl) | rfl) | rfl) | rfl) | rfl
  · have := Text.bounds_of_isDigit h
    exact Text.isBlank_of_between (by omega) (by omega)
  all_goals decide

theorem isLiteral_of_splitSign {cs : List Char} (h : ∀ c ∈ (splitSign cs).2, isLiteral c = true) :
    ∀ c ∈ cs, isLiteral c = true := by
  unfold splitSign at h
  split at h
  · simpa [isLiteral] using h
  · simpa [isLiteral] using h
  · exact h

theorem isLiteral_of_readInteger? {cs : List Char} {i : Int} (h : readInteger? cs = some i) :
    ∀ c ∈ cs, isLiteral c = true := by
  refine isLiteral_of_splitSign fun c hc => ?_
  unfold readInteger? at h
  dsimp only at h
  split at h
  · cases h
  · rename_i hdigits
    simp only [Bool.or_eq_true, not_or, Bool.not_eq_true, Bool.not_eq_false', List.all_eq_true] at hdigits
    simp [isLiteral, hdigits.2 c hc]

theorem isLiteral_of_readExponent? {cs : List Char} {i : Int} (h : readExponent? cs = some i) :
    ∀ c ∈ cs, isLiteral c = true := by
  cases cs with
  | nil => simp
  | cons c rest =>
    rw [readExponent?] at h
    split at h
    · rename_i hc
      intro d hd
      rcases List.mem_cons.mp hd with rfl | hd
      · rcases hc with rfl | rfl <;> rfl
      · exact isLiteral_of_readInteger? h d hd
    · cases h

theorem isLiteral_of_span {cs : List Char} (h : ∀ c ∈ (cs.span Char.isDigit).2, isLiteral c = true) :
    ∀ c ∈ cs, isLiteral c = true := by
  rw [List.span_eq_takeWhile_dropWhile] at h
  intro c hc
  rw [← List.takeWhile_append_dropWhile (p := Char.isDigit) (l := cs), List.mem_append] at hc
  rcases hc with hc | hc
  · simp [isLiteral, List.all_eq_true.mp List.all_takeWhile c hc]
  · exact h c hc

theorem isLiteral_of_splitFraction {cs : List Char} (h : ∀ c ∈ (splitFraction cs).2, isLiteral c = true) :
    ∀ c ∈ cs, isLiteral c = true := by
  unfold splitFraction at h
  split at h
  · intro c hc
    rcases List.mem_cons.mp hc with rfl | hc
    · rfl
    · exact isLiteral_of_span h c hc
  · exact h

theorem isLiteral_of_read? {cs : List Char} {d : Decimal} (h : read? cs = some d) : ∀ c ∈ cs, isLiteral c = true := by
  unfold read? readMagnitude? at h
  dsimp only at h
  split at h
  · cases h
  · obtain ⟨e, he, -⟩ := Option.map_eq_some_iff.mp h
    exact isLiteral_of_splitSign (isLiteral_of_span (isLiteral_of_splitFraction (isLiteral_of_readExponent? he)))

end Decimal
end Binary64

end QueryGate
