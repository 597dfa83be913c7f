import Mathlib.Data.List.TakeDrop
import QueryGate.Binary64.Literal
import QueryGate.Proofs.Text.Integer

/-! Decimal literals by their parts. What a number is written as is such a literal, and what it is read as depends on
the parts alone. -/
namespace QueryGate
namespace Binary64

theorem splitSign_of_digit {c : Char} (rest : List Char) (hc : c.isDigit = true) :
    splitSign (c :: rest) = (false, c :: rest) := by
  unfold splitSign
  split <;> simp_all

@[simp] theorem digitsValue_toDigits (n : Nat) : digitsValue (Nat.toDigits 10 n) = n := Nat.ofDigitChars_ten_toDigits

theorem readInteger?_integerText (i : Int) : readInteger? (integerText i) = some i := by
  have hall : (Nat.toDigits 10 i.natAbs).all Char.isDigit = true := List.all_eq_true.mpr (Text.digits_toDigits _)
  have hne : (Nat.toDigits 10 i.natAbs).isEmpty = false := by simp [Nat.toDigits_ne_nil]
  rcases Text.integerText_cases i with ⟨hi, ht⟩ | ⟨hi, ht⟩
  · obtain ⟨c, rest, hds, hc⟩ := Text.exists_toDigits_eq_cons i.natAbs
    have hs : splitSign (Nat.toDigits 10 i.natAbs) = (false, Nat.toDigits 10 i.natAbs) := by
      rw [hds, splitSign_of_digit rest hc]
    rw [ht, readInteger?, hs]
    simp [hne, hall, Int.natAbs_of_nonneg hi]
  · rw [ht, readInteger?]
    simp only [splitSign, hne, hall, digitsValue_toDigits, Bool.not_true, Bool.or_false, Bool.false_eq_true, if_false,
      if_true, Option.some.injEq]
    omega

theorem span_digits {ds rest : List Char} (hd : ∀ c ∈ ds, c.isDigit = true)
    (hr : ∀ c ∈ rest.head?, c.isDigit = false) : (ds ++ rest).span Char.isDigit = (ds, rest) := by
  rw [List.span_eq_takeWhile_dropWhile, List.takeWhile_append_of_pos hd, List.dropWhile_append_of_pos hd]
  cases rest with
  | nil => simp
  | cons c rest =>
    have hc : c.isDigit = false := hr c rfl
    simp [hc]

/-- A literal without its sign. Its fraction is what stands behind the point, if there is one. -/
structure Literal where
  whole : List Char
  fraction : Option (List Char)
  exponent : Option Int

namespace Literal

def fractionText (l : Literal) : List Char :=
  match l.fraction with
  | none => []
  | some ds => '.' :: ds

def exponentText (l : Literal) : List Char :=
  match l.exponent with
  | none => []
  | some e => 'e' :: integerText e

def text (l : Literal) : List Char := l.whole ++ (l.fractionText ++ l.exponentText)

def value (l : Literal) (negative : Bool) : Binary64 :=
  ofDecimal negative (digitsValue (l.whole ++ l.fraction.getD [])) (l.exponent.getD 0 - (l.fraction.getD []).length)

/-- Digits in front of the point, and a sign by which it cannot be taken for an integer. -/
structure WellFormed (l : Literal) : Prop where
  whole : ∀ c ∈ l.whole, c.isDigit = true
  fraction : ∀ c ∈ l.fraction.getD [], c.isDigit = true
  nonempty : l.whole ≠ []
  marked : l.fraction.isSome = true ∨ l.exponent.isSome = true

variable {l : Literal}

theorem head_exponentText (l : Literal) : ∀ c ∈ l.exponentText.head?, c = 'e' := by
  unfold exponentText
  cases l.exponent <;> simp

theorem head_fractionText (l : Literal) : ∀ c ∈ (l.fractionText ++ l.exponentText).head?, c.isDigit = false := by
  unfold fractionText
  cases l.fraction with
  | none =>
    intro c hc
    obtain rfl := l.head_exponentText c (by simpa using hc)
    rfl
  | some ds => simp

theorem splitFraction_text (h : l.WellFormed) :
    splitFraction (l.fractionText ++ l.exponentText) = (l.fraction.getD [], l.exponentText) := by
  have hhead : ∀ c ∈ l.exponentText.head?, c.isDigit = false := by
    intro c hc
    rw [l.head_exponentText c hc]
    rfl
  have hd := h.fraction
  unfold fractionText
  cases hf : l.fraction with
  | none =>
    unfold splitFraction
    split
    · rename_i rest heq
      have := l.head_exponentText '.' (by rw [show l.exponentText = '.' :: rest from heq]; rfl)
      simp at this
    · rfl
  | some ds =>
    rw [hf] at hd
    simpa [splitFraction] using span_digits hd hhead

theorem readExponent?_text (l : Literal) : readExponent? l.exponentText = some (l.exponent.getD 0) := by
  unfold exponentText
  cases l.exponent with
  | none => rfl
  | some e => simp [readExponent?, readInteger?_integerText]

theorem readMagnitude?_text (h : l.WellFormed) (negative : Bool) :
    readMagnitude? negative l.text = some (l.value negative) := by
  have hw : l.whole.isEmpty = false := by simpa using h.nonempty
  unfold readMagnitude? text
  rw [span_digits h.whole l.head_fractionText]
  simp only [splitFraction_text h, hw, Bool.false_and, Bool.false_eq_true, if_false, readExponent?_text,
    Option.map_some]
  rfl

/-- The characters of a literal, its sign included. -/
def isMark (c : Char) : Bool := c.isDigit || c == '-' || c == '.' || c == 'e'

theorem isMark_integerText (i : Int) : ∀ c ∈ integerText i, isMark c = true := by
  intro c hc
  rcases Text.integerText_cases i with ⟨-, ht⟩ | ⟨-, ht⟩
  · rw [ht] at hc
    simp [isMark, Text.digits_toDigits _ c hc]
  · rw [ht] at hc
    rcases List.mem_cons.mp hc with rfl | hc
    · rfl
    · simp [isMark, Text.digits_toDigits _ c hc]

theorem isMark_text (h : l.WellFormed) : ∀ c ∈ l.text, isMark c = true := by
  intro c hc
  rcases List.mem_append.mp hc with hc | hc
  · simp [isMark, h.whole c hc]
  · rcases List.mem_append.mp hc with hc | hc
    · unfold fractionText at hc
      cases hf : l.fraction with
      | none => simp [hf] at hc
      | some ds =>
        rw [hf] at hc
        rcases List.mem_cons.mp hc with rfl | hc
        · rfl
        · simp [isMark, h.fraction c (by simpa [hf] using hc)]
    · unfold exponentText at hc
      cases he : l.exponent with
      | none => simp [he] at hc
      | some e =>
        rw [he] at hc
        rcases List.mem_cons.mp hc with rfl | hc
        · rfl
        · exact isMark_integerText e c hc

/-- A literal begins with a digit, and has something other than a digit behind it. -/
theorem text_eq_cons (h : l.WellFormed) :
    ∃ c rest d, l.text = c :: rest ∧ c.isDigit = true ∧ d ∈ rest ∧ d.isDigit = false := by
  obtain ⟨c, ws, hw⟩ := List.exists_cons_of_ne_nil h.nonempty
  have hmark : ∃ d ∈ l.fractionText ++ l.exponentText, d.isDigit = false := by
    rcases h.marked with hf | he
    · obtain ⟨ds, hds⟩ := Option.isSome_iff_exists.mp hf
      exact ⟨'.', by simp [fractionText, hds], rfl⟩
    · obtain ⟨e, he⟩ := Option.isSome_iff_exists.mp he
      exact ⟨'e', by simp [exponentText, he], rfl⟩
  obtain ⟨d, hd, hnot⟩ := hmark
  refine ⟨c, ws ++ (l.fractionText ++ l.exponentText), d, by rw [text, hw]; rfl, h.whole c (by simp [hw]), ?_, hnot⟩
  exact List.mem_append_right ws hd

end Literal
end Binary64
end QueryGate
