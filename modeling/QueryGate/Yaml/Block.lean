import QueryGate.Text.Integer
import QueryGate.Yaml.Cursor

/-! Scalars that are written as indented lines, literally or folded. -/
namespace QueryGate
namespace Yaml

/-- What becomes of the line breaks behind the last line: all are dropped, one is kept, or all are. -/
inductive Chomping
  | strip | clip | keep
  deriving DecidableEq

open Scan

def chomping? : Option Char → Option Chomping
  | some '+' => some .keep
  | some '-' => some .strip
  | _ => none

/-- A digit for the indentation, which is not zero. -/
def readIndentDigit : Scan (Option Nat) := do
  match ← peek with
  | some c =>
    if c.isDigit then
      require (c != '0')
      next
      return some (Text.digitValue c)
    else return none
  | none => return none

def readChomping : Scan (Option Chomping) := do
  match chomping? (← peek) with
  | some ch =>
    next
    return some ch
  | none => return none

/-- The indicators behind the one of the style, in either order. -/
def readBlockHeader : Scan (Chomping × Option Nat) := do
  match ← readChomping with
  | some ch => return (ch, ← readIndentDigit)
  | none =>
    match ← readIndentDigit with
    | some n => return ((← readChomping).getD .clip, some n)
    | none => return (.clip, none)

/-- The spaces of an indentation, at most up to a known column, and the column behind them. -/
def readIndent (indent : Option Nat) : Nat → Scan Nat
  | 0 => column
  | fuel + 1 => do
    let col ← column
    if indent.all (col < ·) && (← at? ' ') then
      next
      readIndent indent fuel
    else return col

/-- Empty lines and the indentation of the next one. If it is not known yet, the widest of these lines decides it,
but it is `least` or more. -/
def readBlankLines (indent : Option Nat) (least : Nat) : Nat → Nat → List Char → Scan (Nat × List Char)
  | 0, _, _ => fail
  | fuel + 1, widest, breaks => do
    let col ← readIndent indent (← remaining)
    let widest := max widest col
    require !(indent.all (col < ·) && (← at? '\t'))
    if (← peek).any isBreak then
      let b ← readBreak
      readBlankLines indent least fuel widest (breaks ++ b)
    else return (indent.getD (max widest least), breaks)

/-- The lines behind those in `acc`. `first` is the break of the last line, `more` are those of empty lines behind it;
lines that begin with spacing are never folded. -/
def readBlockLines (folded : Bool) (indent : Nat) :
    Nat → List Char → (first more : List Char) → (spaced : Bool) → Scan (List Char × List Char × List Char)
  | 0, _, _, _, _ => fail
  | fuel + 1, acc, first, more, spaced => do
    let c ← peek
    if (← column) = indent && c.isSome then
      let spacedNow := c.any isSpacing
      let joint :=
        if folded && first == ['\n'] && !spaced && !spacedNow then (if more.isEmpty then [' '] else more)
        else first ++ more
      let line ← readWhile fun d => !isBreak d
      let b ← readBreak
      let (_, breaks) ← readBlankLines (some indent) 1 (← remaining) 0 []
      readBlockLines folded indent fuel (acc ++ joint ++ line) b breaks spacedNow
    else return (acc, first, more)

/-- A block scalar under an indentation; `none` is that of the whole document. -/
def readBlock (folded : Bool) (parent : Option Nat) : Scan (List Char) := do
  next
  let (chomp, increment) ← readBlockHeader
  finishLine
  let least := parent.elim 1 (· + 1)
  let (indent, more) ←
    readBlankLines (increment.map fun n => parent.elim n (· + n)) least (← remaining) 0 []
  let (text, first, more) ← readBlockLines folded indent (← remaining) [] [] more false
  return text ++ (if chomp = .strip then [] else first) ++ (if chomp = .keep then more else [])

end Yaml
end QueryGate
