import QueryGate.Params.Basic
import QueryGate.Text.Hex
import QueryGate.Text.Utf8

/-! Query strings: pairs between ampersands, the name before the first equals sign, and both sides
percent-decoded with a plus sign read as a space. -/
namespace QueryGate
namespace QueryString

/-- The byte that two hexadecimal digits spell. -/
def hexByte? (high low : Char) : Option UInt8 := do
  let h ← Text.hexValue? high
  let l ← Text.hexValue? low
  some (UInt8.ofNat (16 * h + l))

/-- The bytes of a text in which each percent sign before two hexadecimal digits gives one byte. Any other
percent sign stands for itself. -/
def percentBytes : List Char → List UInt8
  | [] => []
  | c :: rest =>
    if c = '%' then
      match rest with
      | high :: low :: rest' =>
        match hexByte? high low with
        | some b => b :: percentBytes rest'
        | none => Text.encodeChar c ++ percentBytes (high :: low :: rest')
      | [d] => Text.encodeChar c ++ Text.encodeChar d
      | [] => Text.encodeChar c
    else Text.encodeChar c ++ percentBytes rest

def plusToSpace (c : Char) : Char := if c = '+' then ' ' else c

/-- Decodes one side of a pair. If its bytes are no text, the side with its plus signs replaced is kept. -/
def decodeComponent (cs : List Char) : List Char :=
  let spaced := cs.map plusToSpace
  (Text.decodeUtf8? (percentBytes spaced)).getD spaced

/-- Cuts a text at every occurrence of a character. -/
def splitAll (sep : Char) : List Char → List (List Char)
  | [] => [[]]
  | c :: rest =>
    if c = sep then [] :: splitAll sep rest
    else
      match splitAll sep rest with
      | [] => [[c]]
      | part :: parts => (c :: part) :: parts

/-- Cuts a text at the first occurrence of a character; without one the second part is empty. -/
def splitFirst (sep : Char) (cs : List Char) : List Char × List Char :=
  (cs.takeWhile (· ≠ sep), (cs.dropWhile (· ≠ sep)).drop 1)

def decodePair (cs : List Char) : String × String :=
  let (key, value) := splitFirst '=' cs
  (String.ofList (decodeComponent key), String.ofList (decodeComponent value))

/-- One question mark in front is not part of the query. -/
def dropMark : List Char → List Char
  | '?' :: rest => rest
  | cs => cs

def pairs (query : String) : List (String × String) :=
  ((splitAll '&' (dropMark query.toList)).filter fun part => !part.isEmpty).map decodePair

end QueryString

def RawParams.ofQuery (query : String) : RawParams := .ofPairs (QueryString.pairs query)

end QueryGate
