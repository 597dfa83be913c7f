import QueryGate.Text.Utf8

/-! The bytes of a text, read back. Each character is read from its own bytes, whatever follows them, and from no others. -/
namespace QueryGate
namespace Text

theorem toNat_lt (c : Char) : c.toNat < 0x110000 := by
  have hvalid : c.toNat < 0xD800 ∨ 0xDFFF < c.toNat ∧ c.toNat < 0x110000 := c.valid
  omega

theorem scalar?_toNat {c : Char} {least : Nat} (h : least ≤ c.toNat) : scalar? least c.toNat = some c := by
  have hvalid : c.toNat < 0xD800 ∨ 0xDFFF < c.toNat ∧ c.toNat < 0x110000 := c.valid
  rw [scalar?, if_pos ⟨h, hvalid⟩, Char.ofNat_toNat]

theorem continuation?_ofNat {x : Nat} (h : x < 64) : continuation? (UInt8.ofNat (0x80 + x)) = some x := by
  have hx : (UInt8.ofNat (0x80 + x)).toNat = 0x80 + x := UInt8.toNat_ofNat_of_lt' (by simp [UInt8.size]; omega)
  rw [continuation?, hx, if_pos (by omega), Nat.add_sub_cancel_left]

theorem decodeUtf8?_encodeChar_append (c : Char) (bytes : List UInt8) :
    decodeUtf8? (encodeChar c ++ bytes) = (decodeUtf8? bytes).map (c :: ·) := by
  have hlead : ∀ n, n < 0x100 → (UInt8.ofNat n).toNat = n := fun n h => UInt8.toNat_ofNat_of_lt' h
  have hlast : ∀ n, continuation? (UInt8.ofNat (0x80 + n % 64)) = some (n % 64) :=
    fun n => continuation?_ofNat (Nat.mod_lt n (by decide))
  have hrange := toNat_lt c
  unfold encodeChar
  by_cases h1 : c.toNat < 0x80
  · rw [if_pos h1, List.singleton_append, decodeUtf8?.eq_def]
    simp only [hlead c.toNat (by omega), h1, if_true, Char.ofNat_toNat]
  rw [if_neg h1]
  by_cases h2 : c.toNat < 0x800
  · have hn := hlead (0xC0 + c.toNat / 64) (by omega)
    have hjoin : (0xC0 + c.toNat / 64 - 0xC0) * 64 + c.toNat % 64 = c.toNat := by omega
    rw [if_pos h2]
    simp only [List.cons_append, List.nil_append, decodeUtf8?, hn, hlast, Option.bind_some, hjoin,
      scalar?_toNat (Nat.le_of_not_lt h1)]
    rw [if_neg (by omega), if_neg (by omega), if_pos (by omega)]
  rw [if_neg h2]
  by_cases h3 : c.toNat < 0x10000
  · have hn := hlead (0xE0 + c.toNat / 4096) (by omega)
    have hjoin : ((0xE0 + c.toNat / 4096 - 0xE0) * 64 + c.toNat / 64 % 64) * 64 + c.toNat % 64 = c.toNat := by omega
    rw [if_pos h3]
    simp only [List.cons_append, List.nil_append, decodeUtf8?, hn, hlast, Option.bind_some, hjoin,
      scalar?_toNat (Nat.le_of_not_lt h2)]
    rw [if_neg (by omega), if_neg (by omega), if_neg (by omega), if_pos (by omega)]
  · have hn := hlead (0xF0 + c.toNat / 262144) (by omega)
    have hjoin : (((0xF0 + c.toNat / 262144 - 0xF0) * 64 + c.toNat / 4096 % 64) * 64 + c.toNat / 64 % 64) * 64 +
        c.toNat % 64 = c.toNat := by omega
    rw [if_neg h3]
    simp only [List.cons_append, List.nil_append, decodeUtf8?, hn, hlast, Option.bind_some, hjoin,
      scalar?_toNat (Nat.le_of_not_lt h3)]
    rw [if_neg (by omega), if_neg (by omega), if_neg (by omega), if_neg (by omega), if_pos (by omega)]

theorem decodeUtf8?_encodeUtf8 (cs : List Char) : decodeUtf8? (encodeUtf8 cs) = some cs := by
  induction cs with
  | nil => rfl
  | cons c rest ih =>
    rw [encodeUtf8, List.flatMap_cons, ← encodeUtf8, decodeUtf8?_encodeChar_append, ih, Option.map_some]

/-! ### Bytes that are no text -/

theorem toNat_of_scalar? {c : Char} {least n : Nat} (h : scalar? least n = some c) : c.toNat = n ∧ least ≤ n := by
  unfold scalar? at h
  split at h
  · rename_i hn
    have hvalid : n.isValidChar := hn.2
    rw [← Option.some.inj h, Char.ofNat, dif_pos hvalid]
    exact ⟨rfl, hn.1⟩
  · cases h

theorem toNat_of_continuation? {b : UInt8} {x : Nat} (h : continuation? b = some x) : b.toNat = 0x80 + x ∧ x < 64 := by
  unfold continuation? at h
  split at h
  · have hx := Option.some.inj h
    omega
  · cases h

theorem ofNat_eq_of_toNat {b : UInt8} {n : Nat} (h : n = b.toNat) : UInt8.ofNat n = b := by
  rw [h, UInt8.ofNat_toNat]

theorem exists_encodeChar_of_scalar? {least n : Nat} {bytes : List UInt8} {cs : List Char} (lead : List UInt8)
    (h : ((scalar? least n).bind fun c => (decodeUtf8? bytes).map (c :: ·)) = some cs)
    (hlead : ∀ c : Char, c.toNat = n → least ≤ n → encodeChar c = lead) :
    ∃ c cs' rest, cs = c :: cs' ∧ lead ++ bytes = encodeChar c ++ rest ∧ decodeUtf8? rest = some cs' := by
  obtain ⟨c, hscalar, h⟩ := Option.bind_eq_some_iff.mp h
  obtain ⟨cs', hrest, rfl⟩ := Option.map_eq_some_iff.mp h
  obtain ⟨hc, hleast⟩ := toNat_of_scalar? hscalar
  exact ⟨c, cs', bytes, rfl, by rw [hlead c hc hleast], hrest⟩

/-- What is read first is the first character, from its own bytes. -/
theorem exists_encodeChar_of_decodeUtf8? {b₀ : UInt8} {bytes : List UInt8} {cs : List Char}
    (h : decodeUtf8? (b₀ :: bytes) = some cs) :
    ∃ c cs' rest, cs = c :: cs' ∧ b₀ :: bytes = encodeChar c ++ rest ∧ decodeUtf8? rest = some cs' := by
  have hbyte := b₀.toNat_lt
  rw [decodeUtf8?.eq_def] at h
  dsimp only at h
  by_cases h1 : b₀.toNat < 0x80
  · have hscalar : scalar? 0 b₀.toNat = some (Char.ofNat b₀.toNat) := if_pos ⟨Nat.zero_le _, .inl (by omega)⟩
    have hc := (toNat_of_scalar? hscalar).1
    rw [if_pos h1] at h
    obtain ⟨cs', hrest, rfl⟩ := Option.map_eq_some_iff.mp h
    refine ⟨_, cs', bytes, rfl, ?_, hrest⟩
    rw [encodeChar, hc, if_pos h1, UInt8.ofNat_toNat]
    rfl
  rw [if_neg h1] at h
  by_cases hlead : b₀.toNat < 0xC0
  · rw [if_pos hlead] at h
    cases h
  rw [if_neg hlead] at h
  cases bytes with
  | nil => cases h
  | cons b₁ bytes =>
  obtain ⟨x₁, hx₁, h⟩ := Option.bind_eq_some_iff.mp h
  have hb₁ := toNat_of_continuation? hx₁
  by_cases h2 : b₀.toNat < 0xE0
  · rw [if_pos h2] at h
    refine exists_encodeChar_of_scalar? [b₀, b₁] h fun c hc hleast => ?_
    rw [encodeChar, if_neg (by omega), if_pos (by omega), ofNat_eq_of_toNat (b := b₀) (by omega),
      ofNat_eq_of_toNat (b := b₁) (by omega)]
  rw [if_neg h2] at h
  cases bytes with
  | nil => cases h
  | cons b₂ bytes =>
  obtain ⟨x₂, hx₂, h⟩ := Option.bind_eq_some_iff.mp h
  have hb₂ := toNat_of_continuation? hx₂
  by_cases h3 : b₀.toNat < 0xF0
  · rw [if_pos h3] at h
    refine exists_encodeChar_of_scalar? [b₀, b₁, b₂] h fun c hc hleast => ?_
    rw [encodeChar, if_neg (by omega), if_neg (by omega), if_pos (by omega), ofNat_eq_of_toNat (b := b₀) (by omega),
      ofNat_eq_of_toNat (b := b₁) (by omega), ofNat_eq_of_toNat (b := b₂) (by omega)]
  rw [if_neg h3] at h
  cases bytes with
  | nil => cases h
  | cons b₃ bytes =>
  obtain ⟨x₃, hx₃, h⟩ := Option.bind_eq_some_iff.mp h
  have hb₃ := toNat_of_continuation? hx₃
  by_cases h4 : b₀.toNat < 0xF8
  · rw [if_pos h4] at h
    refine exists_encodeChar_of_scalar? [b₀, b₁, b₂, b₃] h fun c hc hleast => ?_
    rw [encodeChar, if_neg (by omega), if_neg (by omega), if_neg (by omega), ofNat_eq_of_toNat (b := b₀) (by omega),
      ofNat_eq_of_toNat (b := b₁) (by omega), ofNat_eq_of_toNat (b := b₂) (by omega),
      ofNat_eq_of_toNat (b := b₃) (by omega)]
  · rw [if_neg h4] at h
    cases h

/-- The bytes of texts are read, and no others. -/
theorem decodeUtf8?_eq_some_iff {bytes : List UInt8} {cs : List Char} :
    decodeUtf8? bytes = some cs ↔ encodeUtf8 cs = bytes := by
  constructor
  · intro h
    induction cs generalizing bytes with
    | nil =>
      cases bytes with
      | nil => rfl
      | cons b bytes =>
        obtain ⟨c, cs', rest, hcs, -⟩ := exists_encodeChar_of_decodeUtf8? h
        cases hcs
    | cons c cs ih =>
      cases bytes with
      | nil => cases h
      | cons b bytes =>
        obtain ⟨d, cs', rest, hcs, hbytes, hrest⟩ := exists_encodeChar_of_decodeUtf8? h
        cases hcs
        rw [hbytes, ← ih hrest, encodeUtf8, List.flatMap_cons, ← encodeUtf8]
  · rintro rfl
    exact decodeUtf8?_encodeUtf8 cs

/-! ### Strings -/

/-- The bytes are those that a string is made of. -/
theorem encodeChar_eq (c : Char) : encodeChar c = String.utf8EncodeChar c := by
  have hrange := toNat_lt c
  unfold encodeChar String.utf8EncodeChar
  change _ = if c.toNat ≤ 0x7F then [UInt8.ofNat c.toNat] else if c.toNat ≤ 0x7FF then
    [UInt8.ofNat (c.toNat / 64 % 32 + 0xC0), UInt8.ofNat (c.toNat % 64 + 0x80)] else if c.toNat ≤ 0xFFFF then
    [UInt8.ofNat (c.toNat / 4096 % 16 + 0xE0), UInt8.ofNat (c.toNat / 64 % 64 + 0x80), UInt8.ofNat (c.toNat % 64 + 0x80)]
    else [UInt8.ofNat (c.toNat / 262144 % 8 + 0xF0), UInt8.ofNat (c.toNat / 4096 % 64 + 0x80),
      UInt8.ofNat (c.toNat / 64 % 64 + 0x80), UInt8.ofNat (c.toNat % 64 + 0x80)]
  by_cases h1 : c.toNat < 0x80
  · rw [if_pos h1, if_pos (show c.toNat ≤ 0x7F by omega)]
  rw [if_neg h1, if_neg (show ¬c.toNat ≤ 0x7F by omega)]
  by_cases h2 : c.toNat < 0x800
  · rw [if_pos h2, if_pos (show c.toNat ≤ 0x7FF by omega), Nat.mod_eq_of_lt (show c.toNat / 64 < 32 by omega)]
    simp only [Nat.add_comm]
  rw [if_neg h2, if_neg (show ¬c.toNat ≤ 0x7FF by omega)]
  by_cases h3 : c.toNat < 0x10000
  · rw [if_pos h3, if_pos (show c.toNat ≤ 0xFFFF by omega), Nat.mod_eq_of_lt (show c.toNat / 4096 < 16 by omega)]
    simp only [Nat.add_comm]
  · rw [if_neg h3, if_neg (show ¬c.toNat ≤ 0xFFFF by omega), Nat.mod_eq_of_lt (show c.toNat / 262144 < 8 by omega)]
    simp only [Nat.add_comm]

theorem encodeUtf8_toList (s : String) : encodeUtf8 s.toList = s.toUTF8.data.toList := by
  have hbytes : s.toUTF8 = (s.toList.flatMap String.utf8EncodeChar).toByteArray := String.utf8Encode_toList.symm
  rw [hbytes, List.toList_data_toByteArray, encodeUtf8, funext encodeChar_eq]

end Text
end QueryGate
