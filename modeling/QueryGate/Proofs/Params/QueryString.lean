import Mathlib.Data.List.Forall2
import QueryGate.Params.QueryString
import QueryGate.Proofs.OrderedMap
import QueryGate.Proofs.Text.Utf8

/-! Query strings, written and read back. In how many ways a text may be written, its bytes are read from each of them,
and no delimiter stands in any. -/
namespace QueryGate
namespace QueryString

def IsUnreserved (c : Char) : Prop := c.isAlphanum = true ∨ c ∈ ['-', '_', '.', '~']

instance (c : Char) : Decidable (IsUnreserved c) := inferInstanceAs (Decidable (_ ∨ _))

/-- The digit of a number below 16, in either case. -/
def IsHexDigit (n : Nat) (c : Char) : Prop := c = n.digitChar ∨ c = n.digitChar.toUpper

instance (n : Nat) (c : Char) : Decidable (IsHexDigit n c) := inferInstanceAs (Decidable (_ ∨ _))

/-- The ways to write a byte. One that could stand for itself may be escaped all the same. -/
inductive WritesByte : UInt8 → List Char → Prop
  | plain {c : Char} (h : IsUnreserved c) : WritesByte (UInt8.ofNat c.toNat) [c]
  | plus : WritesByte (UInt8.ofNat ' '.toNat) ['+']
  | percent {b : UInt8} {high low : Char} (hh : IsHexDigit (b.toNat / 16) high) (hl : IsHexDigit (b.toNat % 16) low) :
      WritesByte b ['%', high, low]

inductive Writes : List UInt8 → List Char → Prop
  | nil : Writes [] []
  | cons {b : UInt8} {bytes : List UInt8} {cs rest : List Char} (h : WritesByte b cs) (hs : Writes bytes rest) :
      Writes (b :: bytes) (cs ++ rest)

/-- Whether the second text is a way to write the first. -/
def Encodes (s t : String) : Prop := Writes s.toUTF8.data.toList t.toList

def joined (parts : List (String × String)) : String := "&".intercalate (parts.map fun e => e.1 ++ "=" ++ e.2)

/-- The query strings for a list of pairs. -/
def Spells (query : String) (pairs : List (String × String)) : Prop :=
  ∃ parts, List.Forall₂ (fun p e => Encodes p.1 e.1 ∧ Encodes p.2 e.2) pairs parts ∧
    (query = joined parts ∨ query = "?" ++ joined parts)

theorem IsUnreserved.toNat_lt {c : Char} (h : IsUnreserved c) : c.toNat < 0x80 := by
  rcases h with h | h
  · have h : ((decide (c.val ≥ 65 ∧ c.val ≤ 90) || (decide (c.val ≥ 97) && decide (c.val ≤ 122))) ||
        (decide (c.val ≥ 48) && decide (c.val ≤ 57))) = true := h
    simp only [Bool.or_eq_true, Bool.and_eq_true, decide_eq_true_eq, ge_iff_le, UInt32.le_iff_toNat_le] at h
    change (_ ∧ c.toNat ≤ 90 ∨ _ ∧ c.toNat ≤ 122) ∨ _ ∧ c.toNat ≤ 57 at h
    omega
  · simp only [List.mem_cons, List.not_mem_nil, or_false] at h
    rcases h with rfl | rfl | rfl | rfl <;> decide

theorem IsHexDigit.hexValue? {n : Nat} (hn : n < 16) {c : Char} (h : IsHexDigit n c) :
    Text.hexValue? c = some n ∧ c.isAlphanum = true := by
  have hall : ∀ n < 16, (Text.hexValue? n.digitChar = some n ∧ n.digitChar.isAlphanum = true) ∧
      Text.hexValue? n.digitChar.toUpper = some n ∧ n.digitChar.toUpper.isAlphanum = true := by decide
  rcases h with rfl | rfl
  · exact (hall n hn).1
  · exact (hall n hn).2

theorem hexByte?_of_digits {b : UInt8} {high low : Char} (hh : IsHexDigit (b.toNat / 16) high)
    (hl : IsHexDigit (b.toNat % 16) low) :
    hexByte? high low = some b ∧ high.isAlphanum = true ∧ low.isAlphanum = true := by
  have hb : b.toNat < 256 := b.toNat_lt
  obtain ⟨hhigh, hhigh'⟩ := hh.hexValue? (by omega)
  obtain ⟨hlow, hlow'⟩ := hl.hexValue? (by omega)
  have hsum : 16 * (b.toNat / 16) + b.toNat % 16 = b.toNat := Nat.div_add_mod ..
  refine ⟨?_, hhigh', hlow'⟩
  simp only [hexByte?, hhigh, hlow, Option.bind_eq_bind, Option.bind_some, hsum, UInt8.ofNat_toNat]

theorem ne_of_isUnreserved {c d : Char} (h : IsUnreserved c) (hd : ¬IsUnreserved d) : c ≠ d := by
  rintro rfl
  exact hd h

theorem plusToSpace_of_ne {c : Char} (h : c ≠ '+') : plusToSpace c = c := if_neg h

theorem percentBytes_cons_of_ne {c : Char} (h : c ≠ '%') (rest : List Char) :
    percentBytes (c :: rest) = Text.encodeChar c ++ percentBytes rest := by
  rw [percentBytes.eq_def]
  simp only [h, if_false]

theorem encodeChar_of_lt {c : Char} (h : c.toNat < 0x80) : Text.encodeChar c = [UInt8.ofNat c.toNat] := if_pos h

/-- A byte is read from what was written for it, whatever follows. -/
theorem percentBytes_of_writesByte {b : UInt8} {cs : List Char} (h : WritesByte b cs) (rest : List Char) :
    percentBytes (cs.map plusToSpace ++ rest) = b :: percentBytes rest := by
  cases h with
  | @plain c h =>
    have hplus : c ≠ '+' := ne_of_isUnreserved h (by decide)
    have hpercent : c ≠ '%' := ne_of_isUnreserved h (by decide)
    rw [List.map_singleton, plusToSpace_of_ne hplus, List.singleton_append, percentBytes_cons_of_ne hpercent,
      encodeChar_of_lt h.toNat_lt]
    rfl
  | plus => exact percentBytes_cons_of_ne (by decide) rest
  | @percent b high low hh hl =>
    obtain ⟨hbyte, hhigh, hlow⟩ := hexByte?_of_digits hh hl
    have hplus : ∀ c : Char, c.isAlphanum = true → plusToSpace c = c :=
      fun c h => plusToSpace_of_ne (ne_of_isUnreserved (.inl h) (by decide))
    simp only [List.map_cons, List.map_nil, hplus high hhigh, hplus low hlow, List.cons_append, List.nil_append]
    rw [show plusToSpace '%' = '%' from rfl, percentBytes.eq_def]
    simp only [if_true, hbyte]

theorem percentBytes_of_writes {bytes : List UInt8} {cs : List Char} (h : Writes bytes cs) :
    percentBytes (cs.map plusToSpace) = bytes := by
  induction h with
  | nil => rfl
  | cons h hs ih => rw [List.map_append, percentBytes_of_writesByte h, ih]

theorem decodeComponent_of_percentBytes {cs : List Char} {s : String}
    (h : percentBytes (cs.map plusToSpace) = s.toUTF8.data.toList) : decodeComponent cs = s.toList := by
  unfold decodeComponent
  dsimp only
  rw [h, ← Text.encodeUtf8_toList, Text.decodeUtf8?_encodeUtf8, Option.getD_some]

theorem decodeComponent_of_encodes {s t : String} (h : Encodes s t) : decodeComponent t.toList = s.toList :=
  decodeComponent_of_percentBytes (percentBytes_of_writes h)

/-- Whatever a text holds, it is written without delimiters. -/
theorem mem_of_writes {bytes : List UInt8} {cs : List Char} (h : Writes bytes cs) :
    ∀ c ∈ cs, IsUnreserved c ∨ c = '+' ∨ c = '%' := by
  induction h with
  | nil => simp
  | @cons b bytes cs rest h hs ih =>
    intro c hc
    rcases List.mem_append.mp hc with hc | hc
    · cases h with
      | plain h =>
        obtain rfl := List.mem_singleton.mp hc
        exact .inl h
      | plus => exact .inr (.inl (List.mem_singleton.mp hc))
      | percent hh hl =>
        obtain ⟨-, hhigh, hlow⟩ := hexByte?_of_digits hh hl
        simp only [List.mem_cons, List.not_mem_nil, or_false] at hc
        rcases hc with rfl | rfl | rfl
        · exact .inr (.inr rfl)
        · exact .inl (.inl hhigh)
        · exact .inl (.inl hlow)
    · exact ih c hc

theorem not_mem_of_writes {bytes : List UInt8} {cs : List Char} (h : Writes bytes cs) {c : Char}
    (hc : ¬(IsUnreserved c ∨ c = '+' ∨ c = '%')) : c ∉ cs := fun hmem => hc (mem_of_writes h c hmem)

theorem splitAll_eq_splitOn (sep : Char) (cs : List Char) : splitAll sep cs = cs.splitOn sep := by
  induction cs with
  | nil => rfl
  | cons c rest ih =>
    rw [List.splitOn_cons_eq_if_modifyHead, splitAll, ih]
    by_cases h : c = sep
    · simp [h]
    · have hne : (c == sep) = false := by simp [h]
      rw [if_neg h, hne]
      cases hrest : rest.splitOn sep with
      | nil => exact absurd hrest (List.splitOn_ne_nil sep rest)
      | cons part parts => rfl

theorem splitFirst_of_not_mem {sep : Char} {key : List Char} (h : sep ∉ key) (value : List Char) :
    splitFirst sep (key ++ sep :: value) = (key, value) := by
  have hkey : ∀ c ∈ key, decide (c ≠ sep) = true := by
    intro c hc
    have hne : c ≠ sep := fun e => h (e ▸ hc)
    simpa using hne
  simp only [splitFirst, List.takeWhile_append_of_pos hkey, List.dropWhile_append_of_pos hkey]
  simp

/-- The characters of a pair as it is written. -/
def written (e : String × String) : List Char := e.1.toList ++ '=' :: e.2.toList

theorem toList_joined (parts : List (String × String)) :
    (joined parts).toList = ['&'].intercalate (parts.map written) := by
  rw [joined, String.toList_intercalate, List.map_map]
  congr 1
  refine List.map_congr_left fun e _ => ?_
  simp [written]

theorem decodePair_written {p e : String × String} (h : Encodes p.1 e.1 ∧ Encodes p.2 e.2) :
    decodePair (written e) = p := by
  have hkey : '=' ∉ e.1.toList := not_mem_of_writes h.1 (by decide)
  unfold decodePair written
  rw [splitFirst_of_not_mem hkey]
  dsimp only
  rw [decodeComponent_of_encodes h.1, decodeComponent_of_encodes h.2, String.ofList_toList, String.ofList_toList]

theorem not_mem_written {p e : String × String} (h : Encodes p.1 e.1 ∧ Encodes p.2 e.2) {c : Char} (hc : c ≠ '=')
    (hmark : ¬(IsUnreserved c ∨ c = '+' ∨ c = '%')) : c ∉ written e := by
  unfold written
  rw [List.mem_append, List.mem_cons, not_or, not_or]
  exact ⟨not_mem_of_writes h.1 hmark, hc, not_mem_of_writes h.2 hmark⟩

theorem written_ne_nil (e : String × String) : written e ≠ [] := by simp [written]

theorem dropMark_append {cs : List Char} (hne : cs ≠ []) (h : '?' ∉ cs) (rest : List Char) :
    dropMark (cs ++ rest) = cs ++ rest := by
  cases cs with
  | nil => exact absurd rfl hne
  | cons c cs =>
    have hc : c ≠ '?' := fun e => h (e ▸ List.mem_cons_self)
    unfold dropMark
    split
    · rename_i heq
      exact absurd (List.cons.inj heq).1 hc
    · rfl

section Pairs

variable {pairs parts : List (String × String)}
  (h : List.Forall₂ (fun p e => Encodes p.1 e.1 ∧ Encodes p.2 e.2) pairs parts)
include h

theorem forall_not_mem_written {c : Char} (hc : c ≠ '=') (hmark : ¬(IsUnreserved c ∨ c = '+' ∨ c = '%')) :
    ∀ cs ∈ parts.map written, c ∉ cs := by
  induction h with
  | nil => simp
  | cons h hs ih => simpa using ⟨not_mem_written h hc hmark, by simpa using ih⟩

theorem map_decodePair_written : (parts.map written).map decodePair = pairs := by
  induction h with
  | nil => rfl
  | cons h hs ih => rw [List.map_cons, List.map_cons, decodePair_written h, ih]

/-- No question mark comes from a pair. -/
theorem dropMark_joined : dropMark (joined parts).toList = (joined parts).toList := by
  have hnot := forall_not_mem_written h (c := '?') (by decide) (by decide)
  rw [toList_joined]
  cases parts with
  | nil => rfl
  | cons e parts =>
    have hmark : '?' ∉ written e := hnot _ List.mem_cons_self
    rw [List.map_cons]
    cases hparts : parts.map written with
    | nil =>
      rw [List.intercalate_singleton, ← List.append_nil (written e)]
      exact dropMark_append (written_ne_nil e) hmark []
    | cons cs rest =>
      rw [List.intercalate_cons_cons, List.append_assoc]
      exact dropMark_append (written_ne_nil e) hmark _

theorem map_decodePair_splitAll :
    ((splitAll '&' (joined parts).toList).filter fun part => !part.isEmpty).map decodePair = pairs := by
  have hnot := forall_not_mem_written h (c := '&') (by decide) (by decide)
  have hkept : (parts.map written).filter (fun part => !part.isEmpty) = parts.map written := by
    refine List.filter_eq_self.mpr fun cs hcs => ?_
    obtain ⟨e, -, rfl⟩ := List.mem_map.mp hcs
    simpa using written_ne_nil e
  rw [toList_joined, splitAll_eq_splitOn]
  by_cases hempty : parts.map written = []
  · rw [← map_decodePair_written h, hempty]
    rfl
  · rw [List.splitOn_intercalate '&' hnot hempty, hkept, map_decodePair_written h]

end Pairs

theorem pairs_of_spells {query : String} {pairs : List (String × String)} (h : Spells query pairs) :
    QueryString.pairs query = pairs := by
  obtain ⟨parts, hparts, hquery⟩ := h
  have hdrop : dropMark query.toList = (joined parts).toList := by
    rcases hquery with rfl | rfl
    · exact dropMark_joined hparts
    · rw [String.toList_append]
      rfl
  rw [QueryString.pairs, hdrop, map_decodePair_splitAll hparts]

end QueryString

/-- Of pairs with one name the last one counts. -/
theorem RawParams.get?_ofPairs (pairs : List (String × String)) (key : String) :
    (ofPairs pairs).get? key = (pairs.reverse.lookup key).map .text := by
  rw [ofPairs, OrderedMap.get?_ofList, ← List.map_reverse]
  exact lookup_map_snd (fun _ => RawValue.text) pairs.reverse key

open QueryString in
/-- Reading undoes writing. Whatever characters the names and the values hold, and in whatever way they are written, a
query string gives the parameters that its pairs give: each name once, where it came first, with the value that came
last. -/
theorem RawParams.ofQuery_of_spells {query : String} {pairs : List (String × String)} (h : Spells query pairs) :
    ofQuery query = ofPairs pairs ∧ (ofQuery query).keys = (pairs.map Prod.fst).eraseDups ∧
      ∀ key, (ofQuery query).get? key = (pairs.reverse.lookup key).map .text := by
  have hquery : ofQuery query = ofPairs pairs := congrArg ofPairs (pairs_of_spells h)
  refine ⟨hquery, ?_, fun key => ?_⟩
  · rw [hquery, ofPairs, OrderedMap.keys_ofList, List.map_map]
    rfl
  · rw [hquery, get?_ofPairs]

open QueryString in
/-- A name that comes twice, a sign of three bytes in digits of both cases, a delimiter, and a pair of empty texts. -/
theorem RawParams.ofQuery_of_four_pairs :
    let query := "?a=+%7e&%E2%82%aC=%3d&a=&="
    let pairs := [("a", " ~"), ("€", "="), ("a", ""), ("", "")]
    Spells query pairs ∧ (ofQuery query).keys = ["a", "€", ""] ∧ (ofQuery query).get? "a" = some (.text "") ∧
      (ofQuery query).get? "€" = some (.text "=") := by
  intro query pairs
  have hempty : Encodes "" "" := .nil
  have hname : Encodes "a" "a" := .cons (.plain (c := 'a') (by decide)) .nil
  have hvalue : Encodes " ~" "+%7e" := .cons .plus (.cons (.percent (by decide) (by decide)) .nil)
  have hsign : Encodes "€" "%E2%82%aC" := .cons (.percent (by decide) (by decide))
    (.cons (.percent (by decide) (by decide)) (.cons (.percent (by decide) (by decide)) .nil))
  have hdelimiter : Encodes "=" "%3d" := .cons (.percent (by decide) (by decide)) .nil
  have hspells : Spells query pairs :=
    ⟨[("a", "+%7e"), ("%E2%82%aC", "%3d"), ("a", ""), ("", "")], .cons ⟨hname, hvalue⟩ (.cons ⟨hsign, hdelimiter⟩
      (.cons ⟨hname, hempty⟩ (.cons ⟨hempty, hempty⟩ .nil))), .inr (by decide)⟩
  obtain ⟨-, hkeys, hget⟩ := ofQuery_of_spells hspells
  refine ⟨hspells, ?_, ?_, ?_⟩
  · rw [hkeys]
    rfl
  · rw [hget]
    rfl
  · rw [hget]
    rfl

end QueryGate
