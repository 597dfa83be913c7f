import QueryGate.Text.Hex
import QueryGate.Yaml.Cursor

/-! Scalars that are written in quotes or plainly. Where such a scalar goes on over line breaks, these are folded. -/
namespace QueryGate
namespace Yaml

/-- What stands between two words of a scalar: spacing within a line, or line breaks. -/
structure Gap where
  broken : Bool
  spacing : List Char
  first : List Char
  more : List Char

namespace Gap

def none : Gap := ⟨false, [], [], []⟩

/-- A single line break folds to a space, and of several the first is dropped. -/
def text (g : Gap) : List Char :=
  if g.broken then
    if g.first = ['\n'] then (if g.more.isEmpty then [' '] else g.more) else g.first ++ g.more
  else g.spacing

end Gap

open Scan

/-- The gap behind a word. In front of a column no tab may stand on a line of its own. `fuel` bounds the number of
characters. -/
def readGap (least : Nat) : Nat → Gap → Scan Gap
  | 0, g => return g
  | fuel + 1, g => do
    match ← peek with
    | none => return g
    | some c =>
      if isSpacing c then
        require !(g.broken && c == '\t' && decide ((← column) < least))
        next
        readGap least fuel (if g.broken then g else { g with spacing := g.spacing ++ [c] })
      else if isBreak c then
        let b ← readBreak
        readGap least fuel
          (if g.broken then { g with more := g.more ++ b } else { g with broken := true, spacing := [], first := b })
      else return g

/-- What an escape of one letter stands for. -/
def escaped? : Char → Option Char
  | '0' => some '\x00'
  | 'a' => some '\x07'
  | 'b' => some '\x08'
  | 't' => some '\t'
  | '\t' => some '\t'
  | 'n' => some '\n'
  | 'v' => some '\x0b'
  | 'f' => some '\x0c'
  | 'r' => some '\r'
  | 'e' => some '\x1b'
  | ' ' => some ' '
  | '"' => some '"'
  | '/' => some '/'
  | '\\' => some '\\'
  | 'N' => some '\u0085'
  | '_' => some '\u00a0'
  | 'L' => some '\u2028'
  | 'P' => some '\u2029'
  | _ => none

/-- The number of hexadecimal digits behind an escape of a code point. -/
def escapeWidth? : Char → Option Nat
  | 'x' => some 2
  | 'u' => some 4
  | 'U' => some 8
  | _ => none

/-- A code point of a given number of hexadecimal digits. -/
def readCodePoint (width : Nat) : Scan Char := fun c =>
  let digits := c.rest.take width
  match Text.hexNumber? digits with
  | some n =>
    if digits.length = width ∧ (n < 0xD800 ∨ 0xDFFF < n) ∧ n ≤ 0x10FFFF then
      some (Char.ofNat n, { c with rest := c.rest.drop width, index := c.index + width, column := c.column + width })
    else none
  | none => none

/-- An escape, behind its backslash. -/
def readEscape : Scan Char := do
  next
  match ← peek with
  | none => fail
  | some c =>
    next
    match escapeWidth? c with
    | some width => readCodePoint width
    | none =>
      match escaped? c with
      | some d => return d
      | none => fail

/-- The characters of a word in quotes, behind those in `acc`, and whether an escaped line break ends it. -/
def readQuotedWord (quote : Char) : Nat → List Char → Scan (List Char × Bool)
  | 0, acc => return (acc, false)
  | fuel + 1, acc => do
    match ← peek with
    | none => return (acc, false)
    | some c =>
      let after ← peekAt 1
      if isSpacing c || isBreak c then return (acc, false)
      else if quote == '\'' && c == quote && after == some quote then
        next
        next
        readQuotedWord quote fuel (quote :: acc)
      else if c == quote then return (acc, false)
      else if quote == '"' && c == '\\' then
        if after.any isBreak then
          next
          let _ ← readBreak
          return (acc, true)
        else
          let d ← readEscape
          readQuotedWord quote fuel (d :: acc)
      else
        next
        readQuotedWord quote fuel (c :: acc)

/-- The words of a scalar in quotes, up to the closing one. -/
def readQuotedFrom (quote : Char) : Nat → List Char → Scan (List Char)
  | 0, _ => fail
  | fuel + 1, acc => do
    require !(← atDocumentMarker)
    let _ ← require (← peek).isSome
    let (acc, broken) ← readQuotedWord quote (← remaining) acc
    if ← at? quote then
      next
      return acc.reverse
    else
      let gap ← readGap 0 (← remaining) { Gap.none with broken }
      readQuotedFrom quote fuel (gap.text.reverse ++ acc)

def readQuoted (quote : Char) : Scan (List Char) := do
  next
  readQuotedFrom quote (← remaining) []

/-- Brackets, braces and the comma, which end a plain scalar inside brackets. -/
def isFlowIndicator (c : Char) : Bool := c == ',' || c == '[' || c == ']' || c == '\x7b' || c == '\x7d'

/-- The characters of a plain word behind those in `acc`; the gap in front joins them with the first one. -/
def readPlainWord (inFlow : Bool) : Nat → List Char → Gap → Scan (List Char × Gap)
  | 0, acc, g => return (acc, g)
  | fuel + 1, acc, g => do
    match ← peek with
    | none => return (acc, g)
    | some c =>
      let after ← peekAt 1
      if isSpacing c || isBreak c then return (acc, g)
      else
        require !(inFlow && c == ':' && after.any fun d => isFlowIndicator d || d == '?')
        if (c == ':' && isWordEnd after) || (inFlow && isFlowIndicator c) then return (acc, g)
        else
          next
          readPlainWord inFlow fuel (c :: (g.text.reverse ++ acc)) .none

/-- The words of a plain scalar, whose lines begin at a column or behind it. The gap behind the last word is given
too. -/
def readPlainFrom (inFlow : Bool) (least : Nat) : Nat → List Char → Gap → Scan (List Char × Gap)
  | 0, _, _ => fail
  | fuel + 1, acc, g => do
    if (← atDocumentMarker) || (← at? '#') then return (acc.reverse, g)
    else
      let (acc, g) ← readPlainWord inFlow (← remaining) acc g
      match ← peek with
      | none => return (acc.reverse, g)
      | some c =>
        if isSpacing c || isBreak c then
          let g ← readGap least (← remaining) .none
          if !inFlow && decide ((← column) < least) then return (acc.reverse, g)
          else readPlainFrom inFlow least fuel acc g
        else return (acc.reverse, g)

/-- A plain scalar, and whether a line break stands behind it. -/
def readPlain (inFlow : Bool) (least : Nat) : Scan (List Char × Bool) := do
  let (text, gap) ← readPlainFrom inFlow least (← remaining) [] .none
  return (text, gap.broken)

end Yaml
end QueryGate
