/-! UTF-8: the bytes of a character, and the strict reading of a byte sequence, which refuses overlong forms,
surrogates and code points beyond the last. -/
namespace QueryGate
namespace Text

def encodeChar (c : Char) : List UInt8 :=
  let n := c.toNat
  if n < 0x80 then [UInt8.ofNat n]
  else if n < 0x800 then [UInt8.ofNat (0xC0 + n / 64), UInt8.ofNat (0x80 + n % 64)]
  else if n < 0x10000 then
    [UInt8.ofNat (0xE0 + n / 4096), UInt8.ofNat (0x80 + n / 64 % 64), UInt8.ofNat (0x80 + n % 64)]
  else
    [UInt8.ofNat (0xF0 + n / 262144), UInt8.ofNat (0x80 + n / 4096 % 64),
     UInt8.ofNat (0x80 + n / 64 % 64), UInt8.ofNat (0x80 + n % 64)]

def encodeUtf8 (cs : List Char) : List UInt8 := cs.flatMap encodeChar

/-- The six low bits of a byte that continues a character. -/
def continuation? (b : UInt8) : Option Nat :=
  if 0x80 ≤ b.toNat ∧ b.toNat < 0xC0 then some (b.toNat - 0x80) else none

/-- The character with code point `n`, which must be a scalar value no less than `least`. -/
def scalar? (least n : Nat) : Option Char :=
  if least ≤ n ∧ (n < 0xD800 ∨ 0xDFFF < n ∧ n < 0x110000) then some (Char.ofNat n) else none

def decodeUtf8? : List UInt8 → Option (List Char)
  | [] => some []
  | b₀ :: rest =>
    let n := b₀.toNat
    if n < 0x80 then (decodeUtf8? rest).map (Char.ofNat n :: ·)
    else if n < 0xC0 then none
    else
      match rest with
      | [] => none
      | b₁ :: rest =>
        (continuation? b₁).bind fun x₁ =>
        if n < 0xE0 then
          (scalar? 0x80 ((n - 0xC0) * 64 + x₁)).bind fun c => (decodeUtf8? rest).map (c :: ·)
        else
          match rest with
          | [] => none
          | b₂ :: rest =>
            (continuation? b₂).bind fun x₂ =>
            if n < 0xF0 then
              (scalar? 0x800 (((n - 0xE0) * 64 + x₁) * 64 + x₂)).bind fun c =>
                (decodeUtf8? rest).map (c :: ·)
            else
              match rest with
              | [] => none
              | b₃ :: rest =>
                (continuation? b₃).bind fun x₃ =>
                if n < 0xF8 then
                  (scalar? 0x10000 ((((n - 0xF0) * 64 + x₁) * 64 + x₂) * 64 + x₃)).bind fun c =>
                    (decodeUtf8? rest).map (c :: ·)
                else none

end Text
end QueryGate
