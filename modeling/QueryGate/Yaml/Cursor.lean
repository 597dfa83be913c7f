/-! Places in a document, and the readers that move through it. -/
namespace QueryGate
namespace Yaml

/-- The text behind a place, the characters and lines in front of it, and those of its own line. -/
structure Cursor where
  rest : List Char
  index : Nat
  line : Nat
  column : Nat

/-- A reader that moves a place forward, or finds a fault. -/
abbrev Scan := StateT Cursor Option

/-- Tabs, line ends and what is no control character, surrogate or noncharacter at the end of the first plane. -/
def isAllowed (c : Char) : Bool :=
  let n := c.toNat
  n == 0x9 || n == 0xA || n == 0xD || n == 0x85 || decide (0x20 ≤ n ∧ n ≤ 0x7E) ||
    decide (0xA0 ≤ n ∧ n ≤ 0xFFFD) || decide (0x10000 ≤ n)

def isBreak (c : Char) : Bool :=
  c == '\n' || c == '\r' || c == '\u0085' || c == '\u2028' || c == '\u2029'

def isSpacing (c : Char) : Bool := c == ' ' || c == '\t'

/-- Whether a line ends here. -/
def isLineEnd : Option Char → Bool
  | some c => isBreak c
  | none => true

/-- Whether no word goes on here. -/
def isWordEnd : Option Char → Bool
  | some c => isSpacing c || isBreak c
  | none => true

/-- Letters of anchors, tag handles and directive names. -/
def isNameChar (c : Char) : Bool := c.isAlphanum || c == '_' || c == '-'

namespace Scan

def fail {α : Type} : Scan α := fun _ => none

def require (b : Bool) : Scan Unit := if b then pure () else fail

def peekAt (n : Nat) : Scan (Option Char) := fun c => some (c.rest[n]?, c)

def peek : Scan (Option Char) := peekAt 0

def column : Scan Nat := fun c => some (c.column, c)

/-- A bound on the number of characters to read. -/
def remaining : Scan Nat := fun c => some (c.rest.length + 1, c)

/-- Goes past one character of a line. -/
def next : Scan Unit := fun c =>
  some ((), { c with rest := c.rest.tail, index := c.index + 1, column := c.column + 1 })

/-- Goes past the characters of a line that satisfy a test. -/
def readWhile (test : Char → Bool) : Scan (List Char) := fun c =>
  let taken := c.rest.takeWhile test
  some (taken, { c with
    rest := c.rest.drop taken.length, index := c.index + taken.length, column := c.column + taken.length })

def skipWhile (test : Char → Bool) : Scan Unit := do
  let _ ← readWhile test

/-- Goes past a line break, if one stands here. Most read as a line feed; the two separators stay what they are. -/
def readBreak : Scan (List Char) := fun c =>
  let after (n : Nat) (text : List Char) :=
    some (text, { c with rest := c.rest.drop n, index := c.index + n, line := c.line + 1, column := 0 })
  match c.rest with
  | '\r' :: '\n' :: _ => after 2 ['\n']
  | d :: _ =>
    if d == '\u2028' || d == '\u2029' then after 1 [d]
    else if isBreak d then after 1 ['\n']
    else some ([], c)
  | [] => some ([], c)

/-- Whether a given character stands here. -/
def at? (c : Char) : Scan Bool := do return (← peek) == some c

/-- Whether a marker of a document's start or end stands at the beginning of this line. -/
def atMarker (mark : Char) : Scan Bool := fun c =>
  let found := c.column == 0 && c.rest.take 3 == [mark, mark, mark] && isWordEnd c.rest[3]?
  some (found, c)

def atDocumentMarker : Scan Bool := do return (← atMarker '-') || (← atMarker '.')

/-- Goes past spacing and a comment to the end of the line, where nothing else may stand. -/
def finishLine : Scan Unit := do
  skipWhile isSpacing
  if ← at? '#' then skipWhile fun c => !isBreak c
  require (isLineEnd (← peek))
  let _ ← readBreak

end Scan
end Yaml
end QueryGate
