import QueryGate.Params.Basic
import QueryGate.Proofs.Bracket.RoundTrip
import QueryGate.Proofs.OrderedMap
import QueryGate.Settings.Basic

/-! Numbers submitted in a request. However a natural number is written, it is taken as a page number, and as a page
size where it is within the bounds. -/
namespace QueryGate

/-- Digits that spell a number which an argument can hold. -/
structure Decimal (n : Nat) (ds : List Char) : Prop where
  ne_nil : ds ≠ []
  digits : ∀ c ∈ ds, c.isDigit = true
  value : Nat.ofDigitChars 10 ds 0 = n
  fits : n ≤ UInt64.size / 2 - 1

namespace Decimal

variable {n : Nat} {ds : List Char}

theorem toDigits (h : n ≤ UInt64.size / 2 - 1) : Decimal n (Nat.toDigits 10 n) :=
  ⟨Nat.toDigits_ne_nil, Text.digits_toDigits n, Nat.ofDigitChars_ten_toDigits, h⟩

theorem isMark (h : Decimal n ds) : ∀ c ∈ ds, Binary64.Literal.isMark c = true := by
  intro c hc
  simp [Binary64.Literal.isMark, h.digits c hc]

theorem toInt_ofInt (h : Decimal n ds) : (Int64.ofInt n).toInt = n := by
  have hn := h.fits
  exact Int64.toInt_ofInt_of_le (by omega) (by simp only [UInt64.size] at hn; omega)

theorem read? (h : Decimal n ds) : Number.read? ds = some (.whole (.ofInt n)) := by
  obtain ⟨c, rest, rfl⟩ := List.exists_cons_of_ne_nil h.ne_nil
  have hread : Text.readDigits (UInt64.size / 2 - 1) .tooLarge 0 (c :: rest) = .ok n := by
    rw [Text.readDigits_of_digits _ h.digits (by rw [h.value]; exact h.fits), h.value]
  rw [Number.read?, Number.trim_of_isMark h.isMark, Text.readInt64, Text.readSigned_digits (h.digits c (by simp)),
    hread]
  rfl

theorem integer?_text (h : Decimal n ds) : (Arg.text (String.ofList ds)).integer? = some (.ofInt n) := by
  simp only [Arg.integer?, Arg.number?, String.toList_ofList, h.read?]

theorem not_isBracket (h : Decimal n ds) : ds.any Bracket.isBracket = false := by
  rw [List.any_eq_false]
  intro c hc
  have hb := Text.bounds_of_isDigit (h.digits c hc)
  simp only [Bracket.isBracket, Bool.or_eq_true, beq_iff_eq, not_or]
  exact ⟨fun e => by rw [e] at hb; simp at hb, fun e => by rw [e] at hb; simp at hb⟩

/-- Bare digits are a text in both ways of reading. -/
theorem parse_bare (h : Decimal n ds) (scalars : Bracket.Scalars) :
    Bracket.parse scalars (String.ofList ds) = .ok [.text (String.ofList ds)] := by
  have hinside : Bracket.inside? ds = none := by
    cases ds with
    | nil => rfl
    | cons c rest =>
      have hc : Bracket.isBracket c = false := by
        have hany := h.not_isBracket
        rw [List.any_cons, Bool.or_eq_false_iff] at hany
        exact hany.1
      have hne : c ≠ '[' := by
        rintro rfl
        cases hc
      simp [Bracket.inside?, hne]
  simp only [Bracket.parse, String.toList_ofList, Number.trim_of_isMark h.isMark, hinside, h.not_isBracket,
    Bool.false_eq_true, if_false]

theorem parse_bracketed (h : Decimal n ds) (scalars : Bracket.Scalars) :
    ∃ a, Bracket.parse scalars (String.ofList ('[' :: ds ++ [']'])) = .ok [a] ∧ a.integer? = some (.ofInt n) := by
  have hpieces : Bracket.pieces? false false [] ds = some [⟨ds, false⟩] := by
    have hbare := Bracket.pieces?_bare (Bracket.bare_of_isMark h.isMark) false [] []
    rw [List.append_nil, List.append_nil] at hbare
    simpa [Bracket.pieces?, h.ne_nil] using hbare
  refine ⟨(Bracket.Piece.mk ds false).toArg scalars, ?_, ?_⟩
  · simp only [Bracket.parse, String.toList_ofList, Bracket.trim_brackets, Bracket.inside?_brackets, hpieces,
      List.map_cons, List.map_nil]
  · cases scalars with
    | verbatim => exact h.integer?_text
    | inferred =>
      have hinfer := Arg.infer_ofList h.isMark h.read?
      simp only [Bracket.Piece.toArg, and_self, if_true, hinfer]
      rfl

end Decimal

/-- The texts that spell a number: its digits, bare or as the only element of a list, with quotes or without. -/
inductive Bracket.Spells (n : Nat) : String → Prop
  | bare {ds : List Char} (h : Decimal n ds) : Spells n (String.ofList ds)
  | bracketed {ds : List Char} (h : Decimal n ds) : Spells n (String.ofList ('[' :: ds ++ [']']))
  | quoted {ds : List Char} (h : Decimal n ds) : Spells n (render [.text (String.ofList ds)])

theorem Bracket.Spells.parse {n : Nat} {s : String} (h : Bracket.Spells n s) (scalars : Scalars) :
    ∃ a i, Bracket.parse scalars s = .ok [a] ∧ a.integer? = some i ∧ i.toInt = n := by
  cases h with
  | bare h => exact ⟨_, _, h.parse_bare scalars, h.integer?_text, h.toInt_ofInt⟩
  | bracketed h =>
    obtain ⟨a, ha, hi⟩ := h.parse_bracketed scalars
    exact ⟨a, _, ha, hi, h.toInt_ofInt⟩
  | quoted h =>
    refine ⟨_, _, parse_render scalars _, ?_, h.toInt_ofInt⟩
    simpa [piece, Piece.toArg] using h.integer?_text

/-- The ways to submit a natural number: as a number, by itself or as the first of a list, and as a text. -/
inductive RawValue.Spells (n : Nat) : RawValue → Prop
  | number (i : Int64) (h : i.toInt = n) : Spells n (.scalar (.int i))
  | list (i : Int64) (h : i.toInt = n) (rest : List Arg) : Spells n (.list (.int i :: rest))
  | text {s : String} (h : Bracket.Spells n s) : Spells n (.text s)
  | scalar {s : String} (h : Bracket.Spells n s) : Spells n (.scalar (.text s))

/-- However a number is submitted, it is what the first argument reads as. -/
theorem RawValue.Spells.parse {n : Nat} {v : RawValue} (h : v.Spells n) (scalars : Bracket.Scalars) :
    ∃ a rest i, v.parse scalars = .ok (a :: rest) ∧ a.integer? = some i ∧ i.toInt = n := by
  cases h with
  | number i h => exact ⟨_, [], i, rfl, rfl, h⟩
  | list i h rest => exact ⟨_, rest, i, rfl, rfl, h⟩
  | text h =>
    obtain ⟨a, i, hparse, ha, hi⟩ := h.parse scalars
    exact ⟨a, [], i, hparse, ha, hi⟩
  | scalar h =>
    obtain ⟨a, i, hparse, ha, hi⟩ := h.parse scalars
    exact ⟨a, [], i, hparse, ha, hi⟩

theorem RawParams.first?_parse {raw : RawParams} {key : String} {v : RawValue} {n : Nat} (hget : raw.get? key = some v)
    (h : v.Spells n) (scalars : Bracket.Scalars) :
    ∃ i : Int64, ((raw.parse scalars).first? key).bind Arg.integer? = some i ∧ i.toInt = n := by
  obtain ⟨a, rest, i, hparse, ha, hi⟩ := h.parse scalars
  have hvalue : (raw.parse scalars).get? key = some (.ok (a :: rest)) := by
    rw [parse, OrderedMap.get?_mapValues, hget, Option.map_some, hparse]
  refine ⟨i, ?_, hi⟩
  simp only [Params.first?, Params.args?, hvalue, Option.bind_some, List.head?_cons, ha]

namespace Settings

theorem toNat_ofNat_toInt {i : Int64} {n : Nat} (h : i.toInt = n) : (UInt64.ofNat i.toInt.toNat).toNat = n := by
  have hlt := i.toInt_lt
  rw [h, Int.toNat_natCast]
  exact UInt64.toNat_ofNat_of_lt' (by simp only [UInt64.size]; omega)

variable (s : Settings) {submitted : Option Arg} {i : Int64} {n : Nat}

/-- A number above one is the page that is taken; otherwise it is the default, but none in front of the first page. -/
theorem max_page_toNat_eq (submitted : Option Arg) :
    (max (s.page submitted) 1).toNat =
      match submitted.bind Arg.integer? with
      | some i => if 1 < i.toInt then i.toInt.toNat else max s.defaultPage.toNat 1
      | none => max s.defaultPage.toNat 1 := by
  rw [UInt64.toNat_max]
  unfold page
  cases submitted.bind Arg.integer? with
  | none => rfl
  | some i =>
    by_cases h : 1 < i.toInt
    · have hi : (UInt64.ofNat i.toInt.toNat).toNat = i.toInt.toNat := toNat_ofNat_toInt (by omega)
      have hone : 1 ≤ i.toInt.toNat := by omega
      simp only [if_pos h, hi]
      exact Nat.max_eq_left hone
    · simp only [if_neg h]
      rfl

/-- Page one is not taken as such, but it is what is taken by default. -/
theorem max_page_toNat (hdefault : s.defaultPage ≤ 1) (h : submitted.bind Arg.integer? = some i) (hi : i.toInt = n)
    (hn : 1 ≤ n) : (max (s.page submitted) 1).toNat = n := by
  have hle : s.defaultPage.toNat ≤ 1 := hdefault
  simp only [max_page_toNat_eq, h]
  split
  · rw [hi, Int.toNat_natCast]
  · have hone : n = 1 := by omega
    rw [hone]
    exact Nat.max_eq_right hle

/-- A number within the bounds is the size that is taken. -/
theorem perPage_toNat_eq (submitted : Option Arg) :
    (s.perPage submitted).toNat =
      match submitted.bind Arg.integer? with
      | some i =>
        if 0 ≤ i.toInt ∧ s.minPerPage.toNat ≤ i.toInt.toNat ∧ i.toInt.toNat ≤ s.maxPerPage.toNat then i.toInt.toNat
        else s.defaultPerPage.toNat
      | none => s.defaultPerPage.toNat := by
  unfold perPage
  cases submitted.bind Arg.integer? with
  | none => rfl
  | some i =>
    by_cases h : 0 ≤ i.toInt
    · have hi : (UInt64.ofNat i.toInt.toNat).toNat = i.toInt.toNat := toNat_ofNat_toInt (Int.toNat_of_nonneg h).symm
      simp only [UInt64.le_iff_toNat_le, hi, apply_ite UInt64.toNat]
    · simp only [h, false_and, if_false]

theorem perPage_toNat (h : submitted.bind Arg.integer? = some i) (hi : i.toInt = n) (hmin : s.minPerPage.toNat ≤ n)
    (hmax : n ≤ s.maxPerPage.toNat) : (s.perPage submitted).toNat = n := by
  simp only [perPage_toNat_eq, h, hi, Int.toNat_natCast, hmin, hmax, Int.natCast_nonneg, and_self, if_true]

end Settings
end QueryGate
