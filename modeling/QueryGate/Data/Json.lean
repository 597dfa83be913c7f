import QueryGate.Binary64.Scale
import QueryGate.Data.Basic
import QueryGate.Text.Hex

/-! JSON texts read as data. A whole number that fits 64 bits, with or without sign, stays whole; every other
number is scaled from as many leading digits as fit 64 bits. -/
namespace QueryGate
namespace Json

/-- What a reader found, and the text behind it. -/
abbrev Found (α : Type) := Option (α × List Char)

def isSpace (c : Char) : Bool := c == ' ' || c == '\n' || c == '\t' || c == '\r'

def skipSpace (cs : List Char) : List Char := cs.dropWhile isSpace

def word? (value : Data) : List Char → List Char → Found Data
  | [], rest => some (value, rest)
  | w :: ws, c :: rest => if c = w then word? value ws rest else none
  | _ :: _, [] => none

def maxSignificand : Nat := UInt64.size - 1

/-- A significand with a power of ten, and whether every digit so far went into it. -/
structure Significand where
  value : Nat
  power : Int
  exact : Bool

namespace Significand

/-- A digit before the point that no longer fits only raises the power, as do all after it. -/
def addWhole (s : Significand) (digit : Nat) : Significand :=
  if s.exact ∧ 10 * s.value + digit ≤ maxSignificand then { s with value := 10 * s.value + digit }
  else { s with power := s.power + 1, exact := false }

/-- A digit behind the point that no longer fits is dropped, as are all after it. -/
def addFraction : Significand → List Char → Significand
  | s, [] => s
  | s, c :: rest =>
    if 10 * s.value + Text.digitValue c ≤ maxSignificand then
      addFraction { s with value := 10 * s.value + Text.digitValue c, power := s.power - 1 } rest
    else s

end Significand

def maxExponent : Nat := UInt32.size / 2 - 1

/-- The number with an exponent of the given digits. Too large an exponent gives zero where that is the limit. -/
def scaled? (negative : Bool) (s : Significand) (negativeExponent : Bool) (digits : List Char) :
    Option Binary64 :=
  let exponent := Binary64.digitsValue digits
  if maxExponent < exponent then
    if s.value ≠ 0 ∧ negativeExponent = false then none else some (.zero negative)
  else Binary64.ofScaled? negative s.value (s.power + if negativeExponent then -(exponent : Int) else exponent)

def exponentSign : List Char → Bool × List Char
  | '+' :: rest => (false, rest)
  | '-' :: rest => (true, rest)
  | cs => (false, cs)

/-- An exponent behind a significand, or the significand alone. -/
def exponent? (negative : Bool) (s : Significand) : List Char → Found Data
  | [] => (Binary64.ofScaled? negative s.value s.power).map fun x => (.float x, [])
  | c :: rest =>
    if c = 'e' ∨ c = 'E' then
      let (negativeExponent, rest) := exponentSign rest
      let (digits, rest) := rest.span Char.isDigit
      if digits.isEmpty then none
      else (scaled? negative s negativeExponent digits).map fun x => (.float x, rest)
    else (Binary64.ofScaled? negative s.value s.power).map fun x => (.float x, c :: rest)

/-- A whole number; minus zero is no whole number, nor is one below the 64-bit range. -/
def whole? (negative : Bool) (s : Significand) : Option Data :=
  if s.exact then
    if negative = false then some (.int s.value)
    else if s.value ≠ 0 ∧ (Data.int64? (-s.value)).isSome then some (.int (-s.value))
    else (Binary64.ofScaled? true s.value 0).map .float
  else (Binary64.ofScaled? negative s.value s.power).map .float

/-- What follows the digits before the point. -/
def afterWhole? (negative : Bool) (s : Significand) : List Char → Found Data
  | [] => (whole? negative s).map fun d => (d, [])
  | c :: rest =>
    if c = '.' then
      let (digits, rest) := rest.span Char.isDigit
      if digits.isEmpty then none else exponent? negative (s.addFraction digits) rest
    else if c = 'e' ∨ c = 'E' then exponent? negative s (c :: rest)
    else (whole? negative s).map fun d => (d, c :: rest)

/-- A number without its sign; only zero itself starts with a zero. -/
def magnitude? (negative : Bool) (cs : List Char) : Found Data :=
  let (digits, rest) := cs.span Char.isDigit
  match digits with
  | [] => none
  | d :: more =>
    if d = '0' ∧ ¬ more.isEmpty then none
    else
      let s := digits.foldl (fun s c => Significand.addWhole s (Text.digitValue c)) ⟨0, 0, true⟩
      afterWhole? negative s rest

def number? : List Char → Found Data
  | '-' :: rest => magnitude? true rest
  | cs => magnitude? false cs

/-- The code unit of four hexadecimal digits. -/
def codeUnit? : List Char → Option (Nat × List Char)
  | a :: b :: c :: d :: rest => (Text.hexNumber? [a, b, c, d]).map fun n => (n, rest)
  | _ => none

/-- The character behind `\u`; a high surrogate needs the escape of a low one after it. -/
def unicodeEscape? (cs : List Char) : Option (Char × List Char) := do
  let (n, rest) ← codeUnit? cs
  if n < 0xD800 ∨ 0xDFFF < n then some (Char.ofNat n, rest)
  else if 0xDC00 ≤ n then none
  else
    match rest with
    | '\\' :: 'u' :: rest => do
      let (m, rest) ← codeUnit? rest
      if 0xDC00 ≤ m ∧ m ≤ 0xDFFF then
        some (Char.ofNat (0x10000 + (n - 0xD800) * 0x400 + (m - 0xDC00)), rest)
      else none
    | _ => none

def escape? : List Char → Found Char
  | '"' :: rest => some ('"', rest)
  | '\\' :: rest => some ('\\', rest)
  | '/' :: rest => some ('/', rest)
  | 'b' :: rest => some ('\x08', rest)
  | 'f' :: rest => some ('\x0c', rest)
  | 'n' :: rest => some ('\n', rest)
  | 'r' :: rest => some ('\r', rest)
  | 't' :: rest => some ('\t', rest)
  | 'u' :: rest => unicodeEscape? rest
  | _ => none

/-- The inside of a string up to its closing quote; `fuel` bounds the characters read. -/
def stringFrom? : Nat → List Char → List Char → Found String
  | 0, _, _ => none
  | _ + 1, _, [] => none
  | fuel + 1, acc, c :: rest =>
    if c = '"' then some (String.ofList acc.reverse, rest)
    else if c = '\\' then
      match escape? rest with
      | some (d, rest) => stringFrom? fuel (d :: acc) rest
      | none => none
    else if c.toNat < 0x20 then none
    else stringFrom? fuel (c :: acc) rest

mutual

/-- A value in front of a text; `fuel` bounds the number of values and separators read. -/
def value? : Nat → List Char → Found Data
  | 0, _ => none
  | fuel + 1, cs =>
    match skipSpace cs with
    | [] => none
    | c :: rest =>
      if c = '"' then
        (stringFrom? (rest.length + 1) [] rest).map fun found => (.text found.1, found.2)
      else if c = '[' then
        match skipSpace rest with
        | ']' :: rest => some (.list [], rest)
        | rest => items? fuel [] rest
      else if c = '\x7b' then
        match skipSpace rest with
        | '\x7d' :: rest => some (.map [], rest)
        | rest => members? fuel [] rest
      else if c = 't' then word? (.bool true) ['r', 'u', 'e'] rest
      else if c = 'f' then word? (.bool false) ['a', 'l', 's', 'e'] rest
      else if c = 'n' then word? .null ['u', 'l', 'l'] rest
      else number? (c :: rest)

/-- The items of an array behind those in `acc`, up to the closing bracket. -/
def items? : Nat → List Data → List Char → Found Data
  | 0, _, _ => none
  | fuel + 1, acc, cs =>
    match value? fuel cs with
    | none => none
    | some (item, rest) =>
      match skipSpace rest with
      | ',' :: rest => items? fuel (item :: acc) rest
      | ']' :: rest => some (.list (item :: acc).reverse, rest)
      | _ => none

/-- The members of an object behind those in `acc`, up to the closing brace. -/
def members? : Nat → List (Data × Data) → List Char → Found Data
  | 0, _, _ => none
  | fuel + 1, acc, cs =>
    match skipSpace cs with
    | '"' :: rest =>
      match stringFrom? (rest.length + 1) [] rest with
      | none => none
      | some (key, rest) =>
        match skipSpace rest with
        | ':' :: rest =>
          match value? fuel rest with
          | none => none
          | some (value, rest) =>
            match skipSpace rest with
            | ',' :: rest => members? fuel ((.text key, value) :: acc) rest
            | '\x7d' :: rest => some (.map ((.text key, value) :: acc).reverse, rest)
            | _ => none
        | _ => none
    | _ => none

end

/-- A whole text that holds one value and nothing else but space. -/
def read? (text : String) : Option Data :=
  let cs := text.toList
  match value? (cs.length + 1) cs with
  | some (value, rest) => if (skipSpace rest).isEmpty then some value else none
  | none => none

end Json
end QueryGate
