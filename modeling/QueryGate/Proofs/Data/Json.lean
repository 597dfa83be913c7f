import QueryGate.Binary64.Layout
import QueryGate.Data.Json
import QueryGate.Proofs.Binary64.Literal

/-! JSON texts of data, and their reading. -/
namespace QueryGate
namespace Json

def hexDigit (n : Nat) : Char := if n < 10 then Char.ofNat ('0'.toNat + n) else Char.ofNat ('a'.toNat + (n - 10))

/-- A character inside a string. Quotes, backslashes and control characters are escaped. -/
def escaped (c : Char) : List Char :=
  if c = '"' then ['\\', '"']
  else if c = '\\' then ['\\', '\\']
  else if c = '\x08' then ['\\', 'b']
  else if c = '\x0c' then ['\\', 'f']
  else if c = '\n' then ['\\', 'n']
  else if c = '\r' then ['\\', 'r']
  else if c = '\t' then ['\\', 't']
  else if c.toNat < 0x20 then ['\\', 'u', '0', '0', hexDigit (c.toNat / 16), hexDigit (c.toNat % 16)]
  else [c]

def stringText (s : String) : List Char := '"' :: s.toList.flatMap escaped ++ ['"']

section Text

variable (floatText : Binary64 → List Char)

mutual

/-- The compact text of data, with the digits of a binary64 number left to `floatText`. -/
def text : Data → List Char
  | .null => ['n', 'u', 'l', 'l']
  | .bool b => if b then ['t', 'r', 'u', 'e'] else ['f', 'a', 'l', 's', 'e']
  | .int i => Binary64.integerText i
  | .float x => floatText x
  | .text s => stringText s
  | .list items => '[' :: itemsText items ++ [']']
  | .map entries => '\x7b' :: entriesText entries ++ ['\x7d']

def itemsText : List Data → List Char
  | [] => []
  | [d] => text d
  | d :: rest => text d ++ ',' :: itemsText rest

def entriesText : List (Data × Data) → List Char
  | [] => []
  | [(key, value)] => text key ++ ':' :: text value
  | (key, value) :: rest => text key ++ ':' :: text value ++ ',' :: entriesText rest

end

end Text

section Numbers

/-- What may stand behind a value that is part of another: its end, or the end of an item. -/
def Delimited (rest : List Char) : Prop := ∀ c ∈ rest.head?, c = ',' ∨ c = ']' ∨ c = '\x7d'

variable {cs rest : List Char} {negative : Bool} {s : Significand} {d : Data}

theorem Delimited.cons {c : Char} (h : Delimited (c :: rest)) : c = ',' ∨ c = ']' ∨ c = '\x7d' := h c rfl

theorem Delimited.isDigit_head (h : Delimited rest) : ∀ c ∈ rest.head?, c.isDigit = false := by
  intro c hc
  rcases h c hc with rfl | rfl | rfl <;> rfl

theorem span_append (h : Delimited rest) :
    (cs ++ rest).span Char.isDigit = ((cs.span Char.isDigit).1, (cs.span Char.isDigit).2 ++ rest) := by
  have hdigits : ∀ c ∈ cs.takeWhile Char.isDigit, c.isDigit = true := List.all_eq_true.mp List.all_takeWhile
  have hhead : ∀ c ∈ (cs.dropWhile Char.isDigit ++ rest).head?, c.isDigit = false := by
    intro c hc
    have hnot := List.head?_dropWhile_not Char.isDigit cs
    cases hd : cs.dropWhile Char.isDigit with
    | nil =>
      rw [hd] at hc
      exact h.isDigit_head c hc
    | cons e es =>
      rw [hd] at hc hnot
      cases hc
      exact hnot
  have hspan := Binary64.span_digits hdigits hhead
  rw [← List.append_assoc, List.takeWhile_append_dropWhile] at hspan
  rw [hspan, List.span_eq_takeWhile_dropWhile]

theorem exponentSign_append (h : Delimited rest) :
    exponentSign (cs ++ rest) = ((exponentSign cs).1, (exponentSign cs).2 ++ rest) := by
  cases cs with
  | nil =>
    cases rest with
    | nil => rfl
    | cons c rest => rcases h.cons with rfl | rfl | rfl <;> rfl
  | cons c cs =>
    unfold exponentSign
    split <;> simp_all

theorem exponent?_append (h : exponent? negative s cs = some (d, [])) (hrest : Delimited rest) :
    exponent? negative s (cs ++ rest) = some (d, rest) := by
  cases cs with
  | nil =>
    obtain ⟨x, hx, hd⟩ := Option.map_eq_some_iff.mp h
    cases hd
    cases rest with
    | nil => exact h
    | cons c rest =>
      have hc : ¬(c = 'e' ∨ c = 'E') := by rcases hrest.cons with rfl | rfl | rfl <;> decide
      rw [List.nil_append, exponent?, if_neg hc, hx]
      rfl
  | cons c cs =>
    rw [exponent?] at h
    split at h
    · rename_i hc
      dsimp only at h
      split at h
      · cases h
      · rename_i hdigits
        obtain ⟨x, hx, hd⟩ := Option.map_eq_some_iff.mp h
        rw [Prod.mk.injEq] at hd
        rw [List.cons_append, exponent?, if_pos hc]
        simp only [exponentSign_append hrest, span_append hrest, hdigits, Bool.false_eq_true, if_false, hx,
          Option.map_some, hd, List.nil_append]
    · obtain ⟨x, -, hd⟩ := Option.map_eq_some_iff.mp h
      cases hd

theorem afterWhole?_append (h : afterWhole? negative s cs = some (d, [])) (hrest : Delimited rest) :
    afterWhole? negative s (cs ++ rest) = some (d, rest) := by
  cases cs with
  | nil =>
    obtain ⟨e, he, hd⟩ := Option.map_eq_some_iff.mp h
    cases hd
    cases rest with
    | nil => exact h
    | cons c rest =>
      have hpoint : c ≠ '.' := by rcases hrest.cons with rfl | rfl | rfl <;> decide
      have hexponent : ¬(c = 'e' ∨ c = 'E') := by rcases hrest.cons with rfl | rfl | rfl <;> decide
      rw [List.nil_append, afterWhole?, if_neg hpoint, if_neg hexponent, he]
      rfl
  | cons c cs =>
    rw [afterWhole?] at h
    rw [List.cons_append, afterWhole?]
    split at h
    · rename_i hc
      dsimp only at h
      split at h
      · cases h
      · rename_i hdigits
        rw [if_pos hc]
        simp only [span_append hrest, hdigits, Bool.false_eq_true, if_false]
        exact exponent?_append h hrest
    · rename_i hpoint
      rw [if_neg hpoint]
      split at h
      · rename_i hc
        rw [if_pos hc]
        exact exponent?_append h hrest
      · obtain ⟨e, -, hd⟩ := Option.map_eq_some_iff.mp h
        cases hd

theorem magnitude?_append (h : magnitude? negative cs = some (d, [])) (hrest : Delimited rest) :
    magnitude? negative (cs ++ rest) = some (d, rest) := by
  unfold magnitude? at h ⊢
  dsimp only at h ⊢
  rw [span_append hrest]
  dsimp only
  split at h
  · cases h
  · rename_i c more hdigits
    rw [hdigits] at h ⊢
    split at h
    · cases h
    · rename_i hzero
      rw [if_neg hzero]
      exact afterWhole?_append h hrest

/-- A number starts with its sign or a digit. -/
theorem exists_eq_cons_of_number? (h : number? cs = some (d, [])) :
    ∃ c more, cs = c :: more ∧ (c = '-' ∨ c.isDigit = true) := by
  cases cs with
  | nil => cases h
  | cons c more =>
    refine ⟨c, more, rfl, ?_⟩
    by_cases hsign : c = '-'
    · exact .inl hsign
    · by_contra hc
      have hdigit : c.isDigit = false := by simpa [hsign] using hc
      have hnil : ∀ e ∈ ([] : List Char), e.isDigit = true := by simp
      have hhead : ∀ e ∈ (c :: more).head?, e.isDigit = false := by simpa using hdigit
      have hspan : (c :: more).span Char.isDigit = ([], c :: more) := Binary64.span_digits hnil hhead
      unfold number? at h
      split at h
      · rename_i heq
        cases heq
        exact hsign rfl
      · rw [magnitude?, hspan] at h
        cases h

/-- A text that is read as a number to its end is read so in front of any delimiter. -/
theorem number?_append (h : number? cs = some (d, [])) (hrest : Delimited rest) :
    number? (cs ++ rest) = some (d, rest) := by
  obtain ⟨c, more, rfl, -⟩ := exists_eq_cons_of_number? h
  unfold number? at h
  split at h
  · rename_i heq
    cases heq
    exact magnitude?_append h hrest
  · rename_i hsign
    have hcons : number? (c :: more ++ rest) = magnitude? false (c :: more ++ rest) := by
      rw [List.cons_append]
      unfold number?
      split
      · rename_i heq
        cases heq
        exact absurd rfl (hsign more)
      · rfl
    rw [hcons]
    exact magnitude?_append h hrest

/-- The binary64 number that a text is read as to its end. -/
def float? (cs : List Char) : Option Binary64 :=
  match number? cs with
  | some (.float x, []) => some x
  | _ => none

theorem number?_of_float? {x : Binary64} (h : float? cs = some x) : number? cs = some (.float x, []) := by
  unfold float? at h
  split at h
  · cases h
    assumption
  · cases h

end Numbers

section Integers

theorem foldl_addWhole {ds : List Char} {acc : Nat} (h : Nat.ofDigitChars 10 ds acc ≤ maxSignificand) :
    ds.foldl (fun s c => Significand.addWhole s (Text.digitValue c)) ⟨acc, 0, true⟩ =
      ⟨Nat.ofDigitChars 10 ds acc, 0, true⟩ := by
  induction ds generalizing acc with
  | nil => rfl
  | cons c ds ih =>
    rw [Nat.ofDigitChars_cons] at h ⊢
    have hle : 10 * acc + Text.digitValue c ≤ maxSignificand := Nat.le_trans (Text.le_ofDigitChars ds _) h
    rw [List.foldl_cons, Significand.addWhole, if_pos ⟨rfl, hle⟩]
    exact ih h

/-- The digits of a positive number do not start with a zero. -/
theorem head?_toDigits_ne_zero {n : Nat} (h : 0 < n) : (Nat.toDigits 10 n).head? ≠ some '0' := by
  induction n using Nat.strongRecOn with
  | ind n ih =>
    rcases Nat.lt_or_ge n 10 with hn | hn
    · have hsmall : ∀ n < 10, 0 < n → (Nat.toDigits 10 n).head? ≠ some '0' := by decide
      exact hsmall n hn h
    · rw [Nat.toDigits_of_base_le (by decide) hn, List.head?_append]
      have hrest := ih (n / 10) (by omega) (by omega)
      obtain ⟨c, rest, hc, -⟩ := Text.exists_toDigits_eq_cons (n / 10)
      rw [hc] at hrest ⊢
      exact hrest

theorem magnitude?_toDigits (negative : Bool) {n : Nat} (h : n ≤ maxSignificand) :
    magnitude? negative (Nat.toDigits 10 n) = (whole? negative ⟨n, 0, true⟩).map fun d => (d, []) := by
  have hnil : ∀ c ∈ ([] : List Char).head?, c.isDigit = false := by simp
  have hspan := Binary64.span_digits (Text.digits_toDigits n) hnil
  have hvalue : Nat.ofDigitChars 10 (Nat.toDigits 10 n) 0 = n := Nat.ofDigitChars_ten_toDigits
  have hle : Nat.ofDigitChars 10 (Nat.toDigits 10 n) 0 ≤ maxSignificand := by rwa [hvalue]
  have hfold := foldl_addWhole hle
  obtain ⟨c, more, hds, -⟩ := Text.exists_toDigits_eq_cons n
  have hzero : ¬(c = '0' ∧ ¬more.isEmpty) := by
    rintro ⟨rfl, hmore⟩
    rcases Nat.eq_zero_or_pos n with rfl | hn
    · cases hds
      exact hmore rfl
    · exact head?_toDigits_ne_zero hn (by rw [hds]; rfl)
  rw [List.append_nil] at hspan
  rw [hvalue] at hfold
  unfold magnitude?
  rw [hspan, hds]
  dsimp only
  rw [if_neg hzero, ← hds, hfold]
  rfl

/-- Whole numbers of 64 bits, with or without sign, stay whole. -/
theorem number?_integerText {i : Int} (hlow : Int64.minValue.toInt ≤ i) (hhigh : i < UInt64.size) :
    number? (Binary64.integerText i) = some (.int i, []) := by
  have hmin : Int64.minValue.toInt = -9223372036854775808 := rfl
  have hsize : UInt64.size = 18446744073709551616 := rfl
  have hle : i.natAbs ≤ maxSignificand := by
    unfold maxSignificand
    omega
  rcases Text.integerText_cases i with ⟨hi, ht⟩ | ⟨hi, ht⟩
  · obtain ⟨c, more, hds, hc⟩ := Text.exists_toDigits_eq_cons i.natAbs
    have hnumber : number? (Nat.toDigits 10 i.natAbs) = magnitude? false (Nat.toDigits 10 i.natAbs) := by
      rw [hds]
      unfold number?
      split
      · rename_i heq
        cases heq
        cases hc
      · rfl
    rw [ht, hnumber, magnitude?_toDigits false hle]
    simp [whole?, Int.natAbs_of_nonneg hi]
  · have habs : -(i.natAbs : Int) = i := by omega
    have hfits : Data.int64? i = some (Int64.ofInt i) := by
      have hmax : Int64.maxValue.toInt = 9223372036854775807 := rfl
      rw [Data.int64?, if_pos (by omega)]
    have hnumber : number? ('-' :: Nat.toDigits 10 i.natAbs) = magnitude? true (Nat.toDigits 10 i.natAbs) := rfl
    have hwhole : whole? true ⟨i.natAbs, 0, true⟩ = some (.int i) := by
      unfold whole?
      dsimp only
      rw [if_pos rfl, if_neg (by decide), habs, hfits, if_pos ⟨by omega, rfl⟩]
    rw [ht, hnumber, magnitude?_toDigits true hle, hwhole]
    rfl

end Integers

section Strings

theorem hexValue?_hexDigit : ∀ n < 16, Text.hexValue? (hexDigit n) = some n := by decide

theorem codeUnit?_hexDigits {n : Nat} (h : n < 256) (rest : List Char) :
    codeUnit? ('0' :: '0' :: hexDigit (n / 16) :: hexDigit (n % 16) :: rest) = some (n, rest) := by
  have hzero : Text.hexValue? '0' = some 0 := rfl
  have hhigh := hexValue?_hexDigit (n / 16) (by omega)
  have hlow := hexValue?_hexDigit (n % 16) (by omega)
  have hn : 16 * (n / 16) + n % 16 = n := Nat.div_add_mod n 16
  simp [codeUnit?, Text.hexNumber?, hzero, hhigh, hlow, hn]

/-- An escape is read as the character that it stands for. -/
theorem stringFrom?_escape (fuel : Nat) (acc : List Char) {d : Char} (esc : List Char) {rest : List Char}
    (h : escape? (esc ++ rest) = some (d, rest)) :
    stringFrom? (fuel + 1) acc ('\\' :: esc ++ rest) = stringFrom? fuel (d :: acc) rest := by
  simp [stringFrom?, h]

theorem stringFrom?_escaped (fuel : Nat) (acc : List Char) (c : Char) (rest : List Char) :
    stringFrom? (fuel + 1) acc (escaped c ++ rest) = stringFrom? fuel (c :: acc) rest := by
  unfold escaped
  split_ifs with hq hb hbs hff hn hr ht hcontrol
  · subst hq
    exact stringFrom?_escape fuel acc ['"'] rfl
  · subst hb
    exact stringFrom?_escape fuel acc ['\\'] rfl
  · subst hbs
    exact stringFrom?_escape fuel acc ['b'] rfl
  · subst hff
    exact stringFrom?_escape fuel acc ['f'] rfl
  · subst hn
    exact stringFrom?_escape fuel acc ['n'] rfl
  · subst hr
    exact stringFrom?_escape fuel acc ['r'] rfl
  · subst ht
    exact stringFrom?_escape fuel acc ['t'] rfl
  · refine stringFrom?_escape fuel acc ['u', '0', '0', hexDigit (c.toNat / 16), hexDigit (c.toNat % 16)] ?_
    have hunit := codeUnit?_hexDigits (n := c.toNat) (by omega) rest
    have hlow : c.toNat < 0xD800 := by omega
    simp [escape?, unicodeEscape?, hunit, hlow]
  · simp [stringFrom?, hq, hb, hcontrol]

/-- A string is read back, whatever characters it holds. -/
theorem stringFrom?_flatMap_escaped {fuel : Nat} {cs : List Char} (h : cs.length < fuel) (acc rest : List Char) :
    stringFrom? fuel acc (cs.flatMap escaped ++ '"' :: rest) = some (String.ofList (acc.reverse ++ cs), rest) := by
  induction cs generalizing fuel acc with
  | nil =>
    obtain ⟨fuel, rfl⟩ : ∃ k, fuel = k + 1 := ⟨fuel - 1, by omega⟩
    simp [stringFrom?]
  | cons c cs ih =>
    obtain ⟨fuel, rfl⟩ : ∃ k, fuel = k + 1 := ⟨fuel - 1, by omega⟩
    rw [List.flatMap_cons, List.append_assoc, stringFrom?_escaped, ih (by simpa using h)]
    simp

theorem length_le_flatMap_escaped (cs : List Char) : cs.length ≤ (cs.flatMap escaped).length := by
  induction cs with
  | nil => simp
  | cons c cs ih =>
    have hc : 0 < (escaped c).length := by
      unfold escaped
      split_ifs <;> simp
    rw [List.flatMap_cons, List.length_append, List.length_cons]
    omega

theorem stringText_append (s : String) (rest : List Char) :
    stringText s ++ rest = '"' :: (s.toList.flatMap escaped ++ '"' :: rest) := by
  simp [stringText]

theorem stringFrom?_stringText (s : String) (rest : List Char) :
    stringFrom? ((s.toList.flatMap escaped ++ '"' :: rest).length + 1) [] (s.toList.flatMap escaped ++ '"' :: rest) =
      some (s, rest) := by
  have hlength := length_le_flatMap_escaped s.toList
  rw [stringFrom?_flatMap_escaped (by rw [List.length_append]; omega), List.reverse_nil, List.nil_append,
    String.ofList_toList]

end Strings

section Values

variable {floatText : Binary64 → List Char}

/-- Data that a JSON text can hold: the keys of a map are texts, a whole number fits 64 bits with or without sign, and a
binary64 number has a text that is read as it. -/
inductive IsJson (floatText : Binary64 → List Char) : Data → Prop
  | null : IsJson floatText .null
  | bool (b : Bool) : IsJson floatText (.bool b)
  | int {i : Int} (low : Int64.minValue.toInt ≤ i) (high : i < UInt64.size) : IsJson floatText (.int i)
  | float {x : Binary64} (read : float? (floatText x) = some x) : IsJson floatText (.float x)
  | text (s : String) : IsJson floatText (.text s)
  | list {items : List Data} (members : ∀ d ∈ items, IsJson floatText d) : IsJson floatText (.list items)
  | map {entries : List (Data × Data)} (keys : ∀ e ∈ entries, ∃ s, e.1 = .text s)
    (values : ∀ e ∈ entries, IsJson floatText e.2) : IsJson floatText (.map entries)

/-- A text is read as a value in front of any delimiter, with more fuel than it has characters. -/
def ReadsAs (cs : List Char) (d : Data) : Prop :=
  ∀ (fuel : Nat) (rest : List Char), cs.length < fuel → Delimited rest → value? fuel (cs ++ rest) = some (d, rest)

theorem skipSpace_cons {c : Char} (h : isSpace c = false) (rest : List Char) : skipSpace (c :: rest) = c :: rest := by
  simp [skipSpace, h]

/-- No other kind of value starts as a number does. -/
theorem ne_of_number_head {c : Char} (h : c = '-' ∨ c.isDigit = true) :
    isSpace c = false ∧ ∀ e ∈ ['"', '[', ']', '\x7b', 't', 'f', 'n'], c ≠ e := by
  have hc : 45 ≤ c.toNat ∧ c.toNat ≤ 57 := by
    rcases h with rfl | h
    · decide
    · have := Text.bounds_of_isDigit h
      omega
  have hne : ∀ e : Char, e.toNat < 45 ∨ 57 < e.toNat → c ≠ e := by
    rintro e he rfl
    omega
  refine ⟨?_, fun e he => hne e ?_⟩
  · simp [isSpace, hne ' ' (by decide), hne '\n' (by decide), hne '\t' (by decide), hne '\r' (by decide)]
  · simp only [List.mem_cons, List.not_mem_nil, or_false] at he
    rcases he with rfl | rfl | rfl | rfl | rfl | rfl | rfl <;> decide

/-- A value starts with a character that is neither space nor the end of a list. -/
theorem exists_text_eq_cons {d : Data} (h : IsJson floatText d) :
    ∃ c rest, text floatText d = c :: rest ∧ isSpace c = false ∧ c ≠ ']' := by
  have hnumber : ∀ {cs : List Char} {d : Data}, number? cs = some (d, []) →
      ∃ c rest, cs = c :: rest ∧ isSpace c = false ∧ c ≠ ']' := by
    intro cs d h
    obtain ⟨c, more, rfl, hc⟩ := exists_eq_cons_of_number? h
    exact ⟨c, more, rfl, (ne_of_number_head hc).1, (ne_of_number_head hc).2 ']' (by decide)⟩
  cases h with
  | null => exact ⟨'n', _, rfl, by decide⟩
  | bool b => cases b <;> exact ⟨_, _, rfl, by decide⟩
  | int low high => exact hnumber (number?_integerText low high)
  | float read => exact hnumber (number?_of_float? read)
  | text s => exact ⟨'"', _, rfl, by decide⟩
  | list members => exact ⟨'[', _, rfl, by decide⟩
  | map keys values => exact ⟨'\x7b', _, rfl, by decide⟩

theorem readsAs_of_number? {cs : List Char} {d : Data} (h : number? cs = some (d, [])) : ReadsAs cs d := by
  intro fuel rest hfuel hrest
  obtain ⟨fuel, rfl⟩ : ∃ k, fuel = k + 1 := ⟨fuel - 1, by omega⟩
  have hread := number?_append h hrest
  obtain ⟨c, more, rfl, hc⟩ := exists_eq_cons_of_number? h
  obtain ⟨hspace, hne⟩ := ne_of_number_head hc
  rw [List.cons_append, value?, skipSpace_cons hspace]
  simpa [hne] using hread

theorem readsAs_stringText (s : String) : ReadsAs (stringText s) (.text s) := by
  intro fuel rest hfuel hrest
  obtain ⟨fuel, rfl⟩ : ∃ k, fuel = k + 1 := ⟨fuel - 1, by omega⟩
  rw [stringText_append, value?, skipSpace_cons (by decide)]
  dsimp only
  rw [if_pos rfl, stringFrom?_stringText, Option.map_some]

theorem items?_itemsText {items : List Data} (hne : items ≠ []) (h : ∀ d ∈ items, ReadsAs (text floatText d) d)
    {fuel : Nat} (hfuel : (itemsText floatText items).length + 1 < fuel) (acc : List Data) (rest : List Char) :
    items? fuel acc (itemsText floatText items ++ ']' :: rest) = some (.list (acc.reverse ++ items), rest) := by
  have hend : isSpace ']' = false := rfl
  have hcomma : isSpace ',' = false := rfl
  induction items generalizing fuel acc with
  | nil => exact absurd rfl hne
  | cons d items ih =>
    obtain ⟨fuel, rfl⟩ : ∃ k, fuel = k + 1 := ⟨fuel - 1, by omega⟩
    have hd := h d List.mem_cons_self
    cases items with
    | nil =>
      have ht : itemsText floatText [d] = text floatText d := rfl
      rw [ht] at hfuel ⊢
      rw [items?, hd _ _ (by omega) (by simp [Delimited])]
      simp [skipSpace_cons hend]
    | cons e items =>
      have ht : itemsText floatText (d :: e :: items) = text floatText d ++ ',' :: itemsText floatText (e :: items) := rfl
      rw [ht, List.length_append, List.length_cons] at hfuel
      have hmore : (itemsText floatText (e :: items)).length + 1 < fuel := by omega
      have hrest := ih (by simp) (fun x hx => h x (List.mem_cons_of_mem d hx)) hmore (d :: acc)
      rw [ht, List.append_assoc, items?, hd _ _ (by omega) (by simp [Delimited])]
      simp [skipSpace_cons hcomma, hrest]

/-- A member in front of others, with a text as key. -/
theorem members?_of_comma {fuel : Nat} {cs rest : List Char} {value : Data}
    (h : value? fuel cs = some (value, ',' :: rest)) (acc : List (Data × Data)) (s : String) :
    members? (fuel + 1) acc (stringText s ++ ':' :: cs) = members? fuel ((.text s, value) :: acc) rest := by
  have hquote : isSpace '"' = false := rfl
  have hcolon : isSpace ':' = false := rfl
  have hcomma : isSpace ',' = false := rfl
  rw [stringText_append, members?, skipSpace_cons hquote]
  simp only [stringFrom?_stringText, skipSpace_cons hcolon, h, skipSpace_cons hcomma]

/-- The last member. -/
theorem members?_of_end {fuel : Nat} {cs rest : List Char} {value : Data}
    (h : value? fuel cs = some (value, '\x7d' :: rest)) (acc : List (Data × Data)) (s : String) :
    members? (fuel + 1) acc (stringText s ++ ':' :: cs) = some (.map (acc.reverse ++ [(.text s, value)]), rest) := by
  have hquote : isSpace '"' = false := rfl
  have hcolon : isSpace ':' = false := rfl
  have hend : isSpace '\x7d' = false := rfl
  rw [stringText_append, members?, skipSpace_cons hquote]
  simp only [stringFrom?_stringText, skipSpace_cons hcolon, h, skipSpace_cons hend, List.reverse_cons]

theorem members?_entriesText {entries : List (Data × Data)} (hne : entries ≠ [])
    (hkeys : ∀ e ∈ entries, ∃ s, e.1 = .text s) (h : ∀ e ∈ entries, ReadsAs (text floatText e.2) e.2)
    {fuel : Nat} (hfuel : (entriesText floatText entries).length + 1 < fuel) (acc : List (Data × Data))
    (rest : List Char) :
    members? fuel acc (entriesText floatText entries ++ '\x7d' :: rest) = some (.map (acc.reverse ++ entries), rest) := by
  induction entries generalizing fuel acc with
  | nil => exact absurd rfl hne
  | cons entry entries ih =>
    obtain ⟨fuel, rfl⟩ : ∃ k, fuel = k + 1 := ⟨fuel - 1, by omega⟩
    obtain ⟨s, hs⟩ := hkeys entry List.mem_cons_self
    have hvalue : ReadsAs (text floatText entry.2) entry.2 := h entry List.mem_cons_self
    obtain ⟨key, value⟩ := entry
    obtain rfl : key = .text s := hs
    cases entries with
    | nil =>
      have ht : entriesText floatText [(.text s, value)] = stringText s ++ ':' :: text floatText value := rfl
      rw [ht, List.length_append, List.length_cons] at hfuel
      have hread : value? fuel (text floatText value ++ '\x7d' :: rest) = some (value, '\x7d' :: rest) :=
        hvalue fuel _ (by dsimp only; omega) (by simp [Delimited])
      rw [ht, List.append_assoc, List.cons_append, members?_of_end hread]
    | cons e entries =>
      have ht : entriesText floatText ((.text s, value) :: e :: entries) =
          stringText s ++ ':' :: (text floatText value ++ ',' :: entriesText floatText (e :: entries)) := by
        simp [entriesText, text]
      rw [ht, List.length_append, List.length_cons, List.length_append, List.length_cons] at hfuel
      have hread : value? fuel (text floatText value ++ ',' :: (entriesText floatText (e :: entries) ++ '\x7d' :: rest)) =
          some (value, ',' :: (entriesText floatText (e :: entries) ++ '\x7d' :: rest)) :=
        hvalue fuel _ (by dsimp only; omega) (by simp [Delimited])
      have hmore : (entriesText floatText (e :: entries)).length + 1 < fuel := by omega
      have hrest := ih (by simp) (fun x hx => hkeys x (List.mem_cons_of_mem _ hx))
        (fun x hx => h x (List.mem_cons_of_mem _ hx)) hmore ((.text s, value) :: acc)
      rw [ht, List.append_assoc, List.cons_append, List.append_assoc, List.cons_append, members?_of_comma hread, hrest]
      simp

theorem value?_list {c : Char} (hspace : isSpace c = false) (hend : c ≠ ']') (fuel : Nat) (rest : List Char) :
    value? (fuel + 1) ('[' :: c :: rest) = items? fuel [] (c :: rest) := by
  have hopen : isSpace '[' = false := rfl
  simp [value?, skipSpace_cons hopen, skipSpace_cons hspace, hend]

theorem value?_map (fuel : Nat) (rest : List Char) :
    value? (fuel + 1) ('\x7b' :: '"' :: rest) = members? fuel [] ('"' :: rest) := by
  have hopen : isSpace '\x7b' = false := rfl
  have hquote : isSpace '"' = false := rfl
  simp [value?, skipSpace_cons hopen, skipSpace_cons hquote]

theorem itemsText_cons (floatText : Binary64 → List Char) (d : Data) (items : List Data) :
    ∃ rest, itemsText floatText (d :: items) = text floatText d ++ rest := by
  cases items with
  | nil => exact ⟨[], by simp [itemsText]⟩
  | cons e items => exact ⟨_, rfl⟩

theorem entriesText_cons (floatText : Binary64 → List Char) (s : String) (value : Data)
    (entries : List (Data × Data)) :
    ∃ rest, entriesText floatText ((.text s, value) :: entries) = '"' :: rest := by
  cases entries with
  | nil => exact ⟨_, rfl⟩
  | cons e entries => exact ⟨_, rfl⟩

/-- Data that a JSON text can hold is read back from its text, by induction on the data. -/
theorem readsAs_text {d : Data} (h : IsJson floatText d) : ReadsAs (text floatText d) d := by
  induction h with
  | null =>
    intro fuel rest hfuel hrest
    obtain ⟨fuel, rfl⟩ : ∃ k, fuel = k + 1 := ⟨fuel - 1, by omega⟩
    rfl
  | bool b =>
    intro fuel rest hfuel hrest
    obtain ⟨fuel, rfl⟩ : ∃ k, fuel = k + 1 := ⟨fuel - 1, by omega⟩
    cases b <;> rfl
  | int low high => exact readsAs_of_number? (number?_integerText low high)
  | float read => exact readsAs_of_number? (number?_of_float? read)
  | text s => exact readsAs_stringText s
  | @list items members ih =>
    intro fuel rest hfuel hrest
    obtain ⟨fuel, rfl⟩ : ∃ k, fuel = k + 1 := ⟨fuel - 1, by omega⟩
    cases items with
    | nil => rfl
    | cons d items =>
      obtain ⟨c, more, hd, hspace, hend⟩ := exists_text_eq_cons (members d List.mem_cons_self)
      obtain ⟨others, hitems⟩ := itemsText_cons floatText d items
      have ht : text floatText (.list (d :: items)) = '[' :: itemsText floatText (d :: items) ++ [']'] := rfl
      rw [ht, List.length_append, List.length_cons, List.length_singleton] at hfuel
      have hmore : (itemsText floatText (d :: items)).length + 1 < fuel := by omega
      have hread := items?_itemsText (List.cons_ne_nil d items) ih hmore [] rest
      rw [ht, List.append_assoc, List.singleton_append, List.cons_append]
      rw [hitems, hd] at hread ⊢
      exact (value?_list hspace hend fuel _).trans hread
  | @map entries keys values ih =>
    intro fuel rest hfuel hrest
    obtain ⟨fuel, rfl⟩ : ∃ k, fuel = k + 1 := ⟨fuel - 1, by omega⟩
    cases entries with
    | nil => rfl
    | cons e entries =>
      obtain ⟨s, hs⟩ := keys e List.mem_cons_self
      obtain ⟨others, hentries⟩ := entriesText_cons floatText s e.2 entries
      have ht : text floatText (.map (e :: entries)) = '\x7b' :: entriesText floatText (e :: entries) ++ ['\x7d'] := rfl
      rw [ht, List.length_append, List.length_cons, List.length_singleton] at hfuel
      have hmore : (entriesText floatText (e :: entries)).length + 1 < fuel := by omega
      have hread := members?_entriesText (List.cons_ne_nil e entries) keys ih hmore [] rest
      rw [ht, List.append_assoc, List.singleton_append, List.cons_append]
      rw [← hs] at hentries
      rw [hentries] at hread ⊢
      exact (value?_map fuel _).trans hread

/-- What is written is read back. -/
theorem read?_text {d : Data} (h : IsJson floatText d) : read? (String.ofList (text floatText d)) = some d := by
  have hread : value? ((text floatText d).length + 1) (text floatText d ++ []) = some (d, []) :=
    readsAs_text h _ _ (Nat.lt_succ_self _) (by simp [Delimited])
  rw [List.append_nil] at hread
  unfold read?
  simp [hread, skipSpace]

end Values

end Json
end QueryGate
