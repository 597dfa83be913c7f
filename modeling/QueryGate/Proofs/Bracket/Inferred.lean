import QueryGate.Proofs.Binary64.Decimal
import QueryGate.Proofs.Bracket.Grammar

/-! Inference and the range of binary64. A token that is a decimal literal becomes a number, whatever its size; one from
the end of the range on becomes an infinity, which is written as a word and comes back as a text. -/
namespace QueryGate

namespace Arg

open Binary64

theorem isFinite_of_isText {a : Arg} (h : a.isText = true) : a.isFinite = true := by
  cases a with
  | text s => rfl
  | bool b => cases h
  | int n => cases h
  | float x => cases h

/-- The three ways in which inference goes. A token that is no literal is taken as a word or as itself. -/
theorem infer_cases (token : String) :
    (∃ n, infer token = .int n ∧ ∀ d ∈ Decimal.read? token.toList, d.InRange) ∨
    (∃ d, infer token = .float d.rounded ∧ Decimal.read? token.toList = some d) ∨
    (infer token).isFloat = false ∧ Decimal.read? token.toList = none := by
  unfold infer
  by_cases htrue : token = "true"
  · subst htrue
    exact .inr (.inr ⟨rfl, by decide⟩)
  by_cases hfalse : token = "false"
  · subst hfalse
    exact .inr (.inr ⟨rfl, by decide⟩)
  rw [if_neg htrue, if_neg hfalse]
  by_cases htrim : Text.trim token.toList = token.toList
  · rw [if_pos htrim, Number.read?, htrim, Decimal.readDecimal?_eq]
    cases hint : Text.readInt64 token.toList with
    | ok n =>
      obtain ⟨i, hi, -⟩ : ∃ i, Text.readSigned (UInt64.size / 2 - 1) token.toList = .ok i ∧ Int64.ofInt i = n := by
        unfold Text.readInt64 at hint
        cases hs : Text.readSigned (UInt64.size / 2 - 1) token.toList with
        | ok i => exact ⟨i, rfl, by simpa [hs, Except.map] using hint⟩
        | error e => simp [hs, Except.map] at hint
      exact .inl ⟨n, rfl, Decimal.inRange_of_isDigits (Text.isDigits_of_readSigned hi)⟩
    | error e =>
      cases hd : Decimal.read? token.toList with
      | some d => exact .inr (.inl ⟨d, rfl, rfl⟩)
      | none => exact .inr (.inr ⟨rfl, rfl⟩)
  · rw [if_neg htrim]
    refine .inr (.inr ⟨rfl, Option.eq_none_iff_forall_ne_some.mpr fun d hd => htrim ?_⟩)
    exact Text.trim_of_forall fun c hc => Decimal.isBlank_of_isLiteral (Decimal.isLiteral_of_read? hd c hc)

/-- What inference makes of a token is finite exactly where the token does not spell a decimal beyond the range. -/
theorem isFinite_infer_iff (token : String) :
    (infer token).isFinite = true ↔ ∀ d ∈ Decimal.read? token.toList, d.InRange := by
  rcases infer_cases token with ⟨n, hn, hrange⟩ | ⟨d, hd, hread⟩ | ⟨hfloat, hread⟩
  · rw [hn]
    exact iff_of_true rfl hrange
  · rw [hd, hread]
    simpa [isFinite] using Decimal.isFinite_rounded_iff d
  · rw [hread]
    refine iff_of_true ?_ nofun
    cases h : infer token with
    | float x => simp [h, isFloat] at hfloat
    | bool b => rfl
    | int n => rfl
    | text s => rfl

theorem infer_ne_nan (token : String) : infer token ≠ .float .nan := by
  rcases infer_cases token with ⟨n, hn, -⟩ | ⟨d, hd, -⟩ | ⟨hfloat, -⟩
  · rw [hn]
    nofun
  · rw [hd]
    exact fun h => d.rounded_ne_nan (Arg.float.inj h)
  · intro h
    rw [h] at hfloat
    cases hfloat

end Arg

namespace Bracket

open Binary64

/-- The texts of the stretches without quotes. -/
def Stretch.bareTexts (ss : List Stretch) : List (List Char) := (ss.filter fun s => !s.hasQuote).map Stretch.text

/-- The elements of a list that stand without quotes, as they are written. -/
def bareTokens (raw : String) : List (List Char) :=
  match inside? (Text.trim raw.toList) with
  | some inside => Stretch.bareTexts (elementStretches inside)
  | none => []

/-- Whether no element without quotes spells a decimal from the end of the range on. -/
def InRange (raw : String) : Prop := ∀ token ∈ bareTokens raw, ∀ d ∈ Decimal.read? token, d.InRange

instance (raw : String) : Decidable (InRange raw) :=
  inferInstanceAs (Decidable (∀ token ∈ bareTokens raw, ∀ d ∈ Decimal.read? token, d.InRange))

theorem Stretch.mem_map_toArg (ss : List Stretch) :
    (∀ a ∈ ss.map (Stretch.toArg .inferred),
      a.isText = true ∨ ∃ token ∈ bareTexts ss, a = Arg.infer (String.ofList token)) ∧
    ∀ token ∈ bareTexts ss, Arg.infer (String.ofList token) ∈ ss.map (Stretch.toArg .inferred) := by
  constructor
  · intro a ha
    obtain ⟨s, hs, rfl⟩ := List.mem_map.mp ha
    cases hquote : s.hasQuote with
    | true => exact .inl (by simp [toArg, hquote, Arg.isText])
    | false =>
      have htoken : s.text ∈ bareTexts ss := List.mem_map_of_mem (List.mem_filter.mpr ⟨hs, by simp [hquote]⟩)
      exact .inr ⟨s.text, htoken, by simp [toArg, hquote]⟩
  · intro token htoken
    obtain ⟨s, hs, rfl⟩ := List.mem_map.mp htoken
    obtain ⟨hs, hquote⟩ := List.mem_filter.mp hs
    exact List.mem_map.mpr ⟨s, hs, by simp [toArg, (Bool.not_eq_true' _).mp hquote]⟩

/-- Each argument of an accepted text is inferred from a bare token or is a text, and each bare token is inferred. -/
theorem mem_of_parse_inferred {raw : String} {args : List Arg} (h : parse .inferred raw = .ok args) :
    (∀ a ∈ args, a.isText = true ∨ ∃ token ∈ bareTokens raw, a = Arg.infer (String.ofList token)) ∧
    ∀ token ∈ bareTokens raw, Arg.infer (String.ofList token) ∈ args := by
  unfold parse at h
  unfold bareTokens
  dsimp only at h
  cases hin : inside? (Text.trim raw.toList) with
  | none =>
    -- a sole argument is a text
    rw [hin] at h
    dsimp only at h
    split at h
    · cases h
    · cases h
      simp [Arg.isText]
  | some inside =>
    rw [hin] at h
    simp only [pieces?_eq_elementStretches] at h
    by_cases hescape : Place.bare.after inside = .escape
    · rw [if_pos hescape] at h
      cases h
    · rw [if_neg hescape] at h
      have hargs : args = (elementStretches inside).map (Stretch.toArg .inferred) := by
        cases h
        rw [List.map_map]
        rfl
      rw [hargs]
      exact Stretch.mem_map_toArg (elementStretches inside)

/-- The numbers of an accepted text are finite exactly where its decimals are in range. -/
theorem forall_isFinite_iff {raw : String} {args : List Arg} (h : parse .inferred raw = .ok args) :
    (∀ a ∈ args, a.isFinite = true) ↔ InRange raw := by
  obtain ⟨hargs, htokens⟩ := mem_of_parse_inferred h
  constructor
  · intro hfinite token htoken
    simpa using (Arg.isFinite_infer_iff _).mp (hfinite _ (htokens token htoken))
  · intro hrange a ha
    rcases hargs a ha with htext | ⟨token, htoken, rfl⟩
    · exact Arg.isFinite_of_isText htext
    · exact (Arg.isFinite_infer_iff _).mpr (by simpa using hrange token htoken)

theorem isFinite_asText (a : Arg) : (asText a).isFinite = true := by
  cases a <;> rfl

/-- What an argument is after it was written and inferred again: an infinity turns into its word. -/
def reread (a : Arg) : Arg := if a.isFinite then a else asText a

theorem isFinite_reread (a : Arg) : (reread a).isFinite = true := by
  unfold reread
  split
  · assumption
  · exact isFinite_asText a

theorem reread_eq_iff (a : Arg) : reread a = a ↔ a.isFinite = true := by
  unfold reread
  split
  · rename_i h
    exact iff_of_true rfl h
  · rename_i h
    exact iff_of_false (fun he => h (isFinite_of_asText_eq he)) h

theorem toArg_inferred_piece_eq (a : Arg) : (piece a).toArg .inferred = reread a := by
  unfold reread
  split
  · rename_i h
    exact toArg_inferred_piece h
  · rename_i h
    exact toArg_inferred_piece_of_not_finite (by simpa using h)

/-- Writing an accepted text in bracket notation and inferring it again. No number is undefined. The numbers are all
finite, and the second reading gives the same arguments, exactly where every decimal without quotes lies in front of the
end of the range. Beyond it an infinity turns into a text, and from the second reading on nothing changes any more. -/
theorem parse_inferred_stable_iff {raw : String} {args : List Arg} (h : parse .inferred raw = .ok args) :
    (∀ a ∈ args, a ≠ .float .nan) ∧
    ((∀ a ∈ args, a.isFinite = true) ↔ InRange raw) ∧
    (parse .inferred (render args) = .ok args ↔ InRange raw) ∧
    parse .inferred (render args) = .ok (args.map reread) ∧
    parse .inferred (render (args.map reread)) = .ok (args.map reread) := by
  have hsecond : parse .inferred (render args) = .ok (args.map reread) := by
    rw [parse_render]
    exact congrArg _ (List.map_congr_left fun a _ => toArg_inferred_piece_eq a)
  have hstable : args.map reread = args ↔ ∀ a ∈ args, a.isFinite = true := by
    conv => lhs; rhs; rw [← List.map_id args]
    rw [List.map_inj_left]
    exact forall₂_congr fun a _ => reread_eq_iff a
  refine ⟨fun a ha => ?_, forall_isFinite_iff h, ?_, hsecond, ?_⟩
  · rcases (mem_of_parse_inferred h).1 a ha with htext | ⟨token, -, rfl⟩
    · rintro rfl
      cases htext
    · exact Arg.infer_ne_nan _
  · rw [hsecond, Except.ok.injEq, hstable]
    exact forall_isFinite_iff h
  · refine parse_inferred_render fun a ha => ?_
    obtain ⟨b, -, rfl⟩ := List.mem_map.mp ha
    exact isFinite_reread b

/-- Of the two decimals of 17 digits next to the end of the range, the lower one stays and the upper one does not. -/
theorem parse_inferred_stable_iff_at_range_end :
    let lower := [Arg.float (Decimal.rounded ⟨false, 17976931348623158, 292⟩), .text "1e999", .int (-7)]
    let upper := [Arg.float (.infinite false), .text "1e999", .int (-7)]
    (parse .inferred "[1.7976931348623158e308,'1e999',-7]" = .ok lower ∧
      parse .inferred (render lower) = .ok lower) ∧
    parse .inferred "[1.7976931348623159e308,'1e999',-7]" = .ok upper ∧
      parse .inferred (render upper) ≠ .ok upper := by
  intro lower upper
  have hlower : parse .inferred "[1.7976931348623158e308,'1e999',-7]" = .ok lower := by decide +kernel
  have hupper : parse .inferred "[1.7976931348623159e308,'1e999',-7]" = .ok upper := by decide +kernel
  exact ⟨⟨hlower, (parse_inferred_stable_iff hlower).2.2.1.mpr (by decide +kernel)⟩, hupper,
    fun h => absurd ((parse_inferred_stable_iff hupper).2.2.1.mp h) (by decide +kernel)⟩

/-- An infinity is inferred from a decimal that is itself finite, and it comes back as a text. -/
theorem not_stable_of_large_decimal :
    parse .inferred "[1e999]" = .ok [.float (.infinite false)] ∧
    (Arg.float (.infinite false)).isFinite = false ∧
    render [.float (.infinite false)] = "[inf]" ∧
    parse .inferred "[inf]" = .ok [.text "inf"] := by
  decide +kernel

end Bracket
end QueryGate
