import QueryGate.Text.Hex
import QueryGate.Text.Utf8
import QueryGate.Yaml.Cursor

/-! Anchors, tags and directives. A tag is a handle, which stands for the front part of its name, and the rest. -/
namespace QueryGate
namespace Yaml

/-- The rest may hold any bytes, because these can be escaped. -/
structure Tag where
  handle : List Char
  rest : List UInt8

open Scan

/-- The name of an anchor behind its indicator. -/
def readAnchor : Scan (List Char) := do
  next
  let name ← readWhile isNameChar
  let c ← peek
  require (!name.isEmpty && (isWordEnd c || c.any fun d => "?:,]\x7d%@\x60".toList.contains d))
  return name

/-- Characters of the name of a tag; inside angle brackets a few more stand for themselves. -/
def isTagChar (verbatim : Bool) (c : Char) : Bool :=
  isNameChar c || ";/?:@&=+$.!~*'()".toList.contains c || (verbatim && (c == ',' || c == '[' || c == ']'))

def readEscapedByte : Scan UInt8 := do
  require (← at? '%')
  match (← peekAt 1).bind Text.hexValue?, (← peekAt 2).bind Text.hexValue? with
  | some high, some low =>
    next
    next
    next
    return UInt8.ofNat (16 * high + low)
  | _, _ => fail

/-- Bytes that continue a character. -/
def readContinuation : Nat → Scan (List UInt8)
  | 0 => return []
  | n + 1 => do
    let b ← readEscapedByte
    require (Text.continuation? b).isSome
    return b :: (← readContinuation n)

/-- The number of bytes of a character, by the first of them. -/
def byteCount? (b : UInt8) : Option Nat :=
  if b < 0x80 then some 1
  else if 0xC0 ≤ b ∧ b < 0xE0 then some 2
  else if 0xE0 ≤ b ∧ b < 0xF0 then some 3
  else if 0xF0 ≤ b ∧ b < 0xF8 then some 4
  else none

/-- The bytes of a character, each as a percent sign and two digits. -/
def readEscapedChar : Scan (List UInt8) := do
  let b ← readEscapedByte
  match byteCount? b with
  | some n => return b :: (← readContinuation (n - 1))
  | none => fail

def readTagText (verbatim : Bool) : Nat → List UInt8 → Scan (List UInt8)
  | 0, acc => return acc
  | fuel + 1, acc => do
    match ← peek with
    | some c =>
      if c == '%' then
        let bytes ← readEscapedChar
        readTagText verbatim fuel (acc ++ bytes)
      else if isTagChar verbatim c then
        next
        readTagText verbatim fuel (acc ++ Text.encodeChar c)
      else return acc
    | none => return acc

/-- A part of the name of a tag that is not empty, unless something stood in front of it. A zero byte ends it. -/
def readTagName (verbatim : Bool) (front : List Char) : Scan (List UInt8) := do
  let text ← readTagText verbatim (← remaining) []
  require !(front.isEmpty && text.isEmpty)
  return (Text.encodeUtf8 (front.drop 1) ++ text).takeWhile (· ≠ 0)

/-- An exclamation mark, letters, and perhaps another exclamation mark. -/
def readHandle : Scan (List Char) := do
  require (← at? '!')
  next
  let name ← readWhile isNameChar
  if ← at? '!' then
    next
    return '!' :: name ++ ['!']
  else return '!' :: name

def isHandle (cs : List Char) : Bool := decide (2 ≤ cs.length) && cs.getLast? == some '!'

def readTagBody : Scan Tag := do
  if (← peekAt 1) == some '<' then
    next
    next
    let name ← readTagName true []
    require (← at? '>')
    next
    return ⟨[], name⟩
  else
    let handle ← readHandle
    if isHandle handle then return ⟨handle, ← readTagName false []⟩
    else
      let name ← readTagName false handle
      return if name.isEmpty then ⟨[], Text.encodeChar '!'⟩ else ⟨['!'], name⟩

/-- A tag; behind it a word ends, or inside brackets an item does. -/
def readTag (inFlow : Bool) : Scan Tag := do
  let tag ← readTagBody
  let c ← peek
  require (isWordEnd c || (inFlow && c == some ','))
  return tag

inductive Directive
  | version (major minor : Nat)
  | tag (handle : List Char) (front : List UInt8)

def readVersionNumber : Scan Nat := do
  let digits ← readWhile Char.isDigit
  require (!digits.isEmpty && decide (digits.length ≤ 9))
  return Nat.ofDigitChars 10 digits 0

def readVersion : Scan Directive := do
  skipWhile isSpacing
  let major ← readVersionNumber
  require (← at? '.')
  next
  return .version major (← readVersionNumber)

def readTagDirective : Scan Directive := do
  skipWhile isSpacing
  let handle ← readHandle
  require (isHandle handle || handle == ['!'])
  require ((← peek).any isSpacing)
  skipWhile isSpacing
  let front ← readTagName true []
  require (isWordEnd (← peek))
  return .tag handle front

/-- A directive with its line. -/
def readDirective : Scan Directive := do
  next
  let name ← readWhile isNameChar
  require (!name.isEmpty && isWordEnd (← peek))
  let d ←
    if name = "YAML".toList then readVersion
    else if name = "TAG".toList then readTagDirective
    else fail
  finishLine
  return d

end Yaml
end QueryGate
