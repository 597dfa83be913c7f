/-! UTF-8 of ranges of characters: each range is cut into spans, which are products of ranges of bytes. -/
namespace QueryGate
namespace Regex

/-- A range for each byte of the characters of one length. -/
abbrev ByteSpan := List (Nat × Nat)

namespace ByteSpan

/-- Bytes that continue a character. -/
def continuation : Nat × Nat := (0x80, 0xBF)

/-- The spans of the numbers from `lo` to `hi`, written with one byte counted from `lead` and then six bits in each of
`more` bytes. What is in front of the first full row of the lead byte comes first, and what is behind the last one
comes last. -/
def ofDigits (lead : Nat) : Nat → Nat → Nat → List ByteSpan
  | 0, lo, hi => [[(lead + lo, lead + hi)]]
  | more + 1, lo, hi =>
    let row := Nat.pow 64 (more + 1)
    let within (top low high : Nat) : List ByteSpan :=
      (ofDigits 0x80 more low high).map ((lead + top, lead + top) :: ·)
    if lo / row = hi / row then within (lo / row) (lo % row) (hi % row)
    else
      let first := if lo % row = 0 then lo / row else lo / row + 1
      let stop := if hi % row = row - 1 then hi / row + 1 else hi / row
      (if lo % row = 0 then [] else within (lo / row) (lo % row) (row - 1)) ++
        (if first < stop then [(lead + first, lead + (stop - 1)) :: List.replicate (more + 1) continuation]
          else []) ++
        if hi % row = row - 1 then [] else within (hi / row) 0 (hi % row)

/-- First and last character of a given length, the number of bytes behind the first one, and from where that one is
counted. The surrogates between are no characters. -/
def lengths : List (Nat × Nat × Nat × Nat) :=
  [(0, 0x7F, 0, 0), (0x80, 0x7FF, 1, 0xC0), (0x800, 0xD7FF, 2, 0xE0), (0xE000, 0xFFFF, 2, 0xE0),
   (0x10000, 0x10FFFF, 3, 0xF0)]

/-- The spans of the characters from `lo` to `hi`, in increasing order. -/
def ofRange (lo hi : Nat) : List ByteSpan :=
  lengths.flatMap fun (least, most, more, lead) =>
    if max lo least ≤ min hi most then ofDigits lead more (max lo least) (min hi most) else []

def ofRanges (ranges : List (Nat × Nat)) : List ByteSpan := ranges.flatMap fun r => ofRange r.1 r.2

/-- The bytes of a character. -/
def bytesOf (n : Nat) : List Nat := (ofRange n n).flatMap fun span => span.map Prod.fst

/-- Spans in a row with one first range, as that range with what stands behind it in each. -/
def byHead : List ByteSpan → List ((Nat × Nat) × List ByteSpan)
  | [] => []
  | [] :: spans => byHead spans
  | (r :: tail) :: spans =>
    match byHead spans with
    | (head, tails) :: more => if r = head then (head, tail :: tails) :: more else (r, [tail]) :: (head, tails) :: more
    | [] => [(r, [tail])]

end ByteSpan
end Regex
end QueryGate
