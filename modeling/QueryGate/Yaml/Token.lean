import QueryGate.Yaml.Block
import QueryGate.Yaml.Flow
import QueryGate.Yaml.Tag

/-! Tokens of a document. Indentation opens and closes collections by tokens of its own, and a key that shows only at
its colon gets its token afterwards. -/
namespace QueryGate
namespace Yaml

inductive Style
  | plain | quoted | literal | folded
  deriving DecidableEq

inductive Token
  | directive (d : Directive)
  | documentStart | documentEnd
  | blockSequence | blockMapping | blockEnd
  | openSequence | closeSequence | openMapping | closeMapping
  | item | comma | key | value
  | aliasOf (name : List Char) | anchor (name : List Char) | tag (t : Tag)
  | scalar (text : List Char) (style : Style)

/-- A place where a key may turn out to stand, with the number of tokens in front of it. A key that is required has
to turn out to be one. -/
structure Candidate where
  required : Bool
  position : Nat
  index : Nat
  line : Nat
  column : Nat

/-- The tokens so far, latest first, and the open indentations, innermost first. `candidate` belongs to the innermost
brackets and `outer` to those around it. -/
structure Lexer where
  cursor : Cursor
  tokens : List Token
  indents : List Nat
  keyAllowed : Bool
  candidate : Option Candidate
  outer : List (Option Candidate)

abbrev Lex := StateT Lexer Option

namespace Lex

def scan {α : Type} (r : Scan α) : Lex α := fun s =>
  (r s.cursor).map fun (a, cursor) => (a, { s with cursor })

def require (b : Bool) : Lex Unit := if b then pure () else fun _ => none

def inFlow : Lex Bool := do return !(← get).outer.isEmpty

def emit (t : Token) : Lex Unit := modify fun s => { s with tokens := t :: s.tokens }

/-- Puts a token behind the first `position` ones. -/
def emitAt (position : Nat) (t : Token) : Lex Unit := modify fun s =>
  let later := s.tokens.length - position
  { s with tokens := s.tokens.take later ++ t :: s.tokens.drop later }

def allowKey (b : Bool) : Lex Unit := modify fun s => { s with keyAllowed := b }

/-- Gives up the candidate of the innermost brackets, unless it has to be a key. -/
def dropCandidate : Lex Unit := do
  require !((← get).candidate.any (·.required))
  modify fun s => { s with candidate := none }

/-- Makes this place a candidate, if a key may stand here. -/
def saveCandidate : Lex Unit := do
  let s ← get
  if s.keyAllowed then
    dropCandidate
    let c := s.cursor
    let required := s.outer.isEmpty && s.indents.head? == some c.column
    modify fun s => { s with candidate := some ⟨required, s.tokens.length, c.index, c.line, c.column⟩ }

/-- A key stands on one line and within 1024 characters of its colon. -/
def isStale (c : Cursor) (k : Candidate) : Bool := decide (k.line < c.line) || decide (k.index + 1024 < c.index)

def dropStale : Lex Unit := do
  let s ← get
  let stale := s.candidate.toList ++ s.outer.filterMap id |>.filter (isStale s.cursor)
  require !(stale.any (·.required))
  let keep (k : Option Candidate) : Option Candidate := k.filter fun k => !isStale s.cursor k
  modify fun s => { s with candidate := keep s.candidate, outer := s.outer.map keep }

/-- Opens a collection at a column that lies behind the innermost indentation. -/
def indentTo (column : Nat) (position : Nat) (t : Token) : Lex Unit := do
  let s ← get
  if s.outer.isEmpty && s.indents.head?.all (· < column) then
    modify fun s => { s with indents := column :: s.indents }
    emitAt position t

/-- Closes the collections whose indentation does not stay. -/
def dedent (stays : Nat → Bool) : Lex Unit := do
  if !(← inFlow) then
    modify fun s =>
      let closed := s.indents.takeWhile fun i => !stays i
      { s with tokens := List.replicate closed.length .blockEnd ++ s.tokens, indents := s.indents.drop closed.length }

/-- Goes past spacing, comments and line breaks. A tab may not stand where a key may. `fuel` bounds the number of
lines. -/
def skipToToken : Nat → Lex Unit
  | 0 => pure ()
  | fuel + 1 => do
    if (← get).cursor.column = 0 && (← scan (Scan.at? '\ufeff')) then scan Scan.next
    let tabs := (← inFlow) || !(← get).keyAllowed
    scan (Scan.skipWhile fun c => c == ' ' || (tabs && c == '\t'))
    if ← scan (Scan.at? '#') then scan (Scan.skipWhile fun c => !isBreak c)
    if (← scan Scan.peek).any isBreak then
      let _ ← scan Scan.readBreak
      if !(← inFlow) then allowKey true
      skipToToken fuel

/-- A token of one character, of which nothing else hangs. -/
def single (t : Token) : Lex Unit := do
  scan Scan.next
  emit t

/-- A scalar, anchor, alias or tag: it may begin a key, but no key begins right behind it. -/
def node (read : Lex Token) : Lex Unit := do
  saveCandidate
  allowKey false
  emit (← read)

def lineStart (read : Lex Token) : Lex Unit := do
  dedent fun _ => false
  dropCandidate
  allowKey false
  emit (← read)

def documentMark (t : Token) : Lex Token := do
  scan (do
    Scan.next
    Scan.next
    Scan.next)
  return t

def openBrackets (t : Token) : Lex Unit := do
  saveCandidate
  modify fun s => { s with candidate := none, outer := s.candidate :: s.outer }
  allowKey true
  single t

def closeBrackets (t : Token) : Lex Unit := do
  dropCandidate
  modify fun s =>
    match s.outer with
    | c :: outer => { s with candidate := c, outer }
    | [] => s
  allowKey false
  single t

def comma : Lex Unit := do
  dropCandidate
  allowKey true
  single .comma

/-- Opens a collection of a given kind at this place, where a key has to be allowed. -/
def openBlock (t : Token) : Lex Unit := do
  let s ← get
  if s.outer.isEmpty then
    require s.keyAllowed
    indentTo s.cursor.column s.tokens.length t

def item : Lex Unit := do
  openBlock .blockSequence
  dropCandidate
  allowKey true
  single .item

def key : Lex Unit := do
  openBlock .blockMapping
  dropCandidate
  allowKey !(← inFlow)
  single .key

def value : Lex Unit := do
  match (← get).candidate with
  | some k =>
    emitAt k.position .key
    indentTo k.column k.position .blockMapping
    modify fun s => { s with candidate := none }
    allowKey false
  | none =>
    openBlock .blockMapping
    allowKey !(← inFlow)
  single .value

def blockScalar (style : Style) : Lex Unit := do
  dropCandidate
  allowKey true
  let text ← scan (readBlock (style = .folded) (← get).indents.head?)
  emit (.scalar text style)

def quotedScalar (quote : Char) : Lex Token := do return .scalar (← scan (readQuoted quote)) .quoted

def plainScalar : Lex Token := do
  let least := (← get).indents.head?.elim 0 (· + 1)
  let (text, broken) ← scan (readPlain (← inFlow) least)
  if broken then allowKey true
  return .scalar text .plain

/-- Indicators with which no plain scalar begins. -/
def isIndicator (c : Char) : Bool := "-?:,[]\x7b\x7d#&*!|>'\"%@\x60".toList.contains c

/-- The token of an indicator or a plain scalar in front of `after`. -/
def tokenAt (c : Char) (after : Option Char) : Lex Unit := do
  let flow ← inFlow
  let name (read : Scan (List Char)) (t : List Char → Token) : Lex Token := do return t (← scan read)
  if c == '[' then openBrackets .openSequence
  else if c == '\x7b' then openBrackets .openMapping
  else if c == ']' then closeBrackets .closeSequence
  else if c == '\x7d' then closeBrackets .closeMapping
  else if c == ',' then comma
  else if c == '-' && isWordEnd after then item
  else if c == '?' && (flow || isWordEnd after) then key
  else if c == ':' && (flow || isWordEnd after) then value
  else if c == '*' then node (name readAnchor .aliasOf)
  else if c == '&' then node (name readAnchor .anchor)
  else if c == '!' then node (do return .tag (← scan (readTag flow)))
  else if c == '|' && !flow then blockScalar .literal
  else if c == '>' && !flow then blockScalar .folded
  else if c == '\'' || c == '"' then node (quotedScalar c)
  else
    let word := !isSpacing c && !isIndicator c
    let dash := c == '-' && !after.any isSpacing
    let mark := !flow && (c == '?' || c == ':') && !isWordEnd after
    require (word || dash || mark)
    node plainScalar

/-- The next token, or the end: `false` when there is none. -/
def nextToken : Lex Bool := do
  skipToToken (← scan Scan.remaining)
  dropStale
  let col := (← get).cursor.column
  dedent (· ≤ col)
  match ← scan Scan.peek with
  | none =>
    dedent fun _ => false
    dropCandidate
    return false
  | some c =>
    if col = 0 && c == '%' then lineStart (do return .directive (← scan readDirective))
    else if ← scan (Scan.atMarker '-') then lineStart (documentMark .documentStart)
    else if ← scan (Scan.atMarker '.') then lineStart (documentMark .documentEnd)
    else tokenAt c (← scan (Scan.peekAt 1))
    return true

/-- All tokens; `fuel` bounds their number. -/
def run : Nat → Lex Unit
  | 0 => fun _ => none
  | fuel + 1 => do if ← nextToken then run fuel

end Lex

/-- One byte order mark in front is not part of a document. -/
def dropMark : List Char → List Char
  | '\ufeff' :: rest => rest
  | cs => cs

/-- The tokens of a text, if it has no fault in its writing. -/
def Token.ofText? (text : String) : Option (List Token) := do
  let cs := dropMark text.toList
  if cs.all isAllowed then
    let ((), s) ← Lex.run (cs.length + 2) ⟨⟨cs, 0, 0, 0⟩, [], [], true, none, []⟩
    some s.tokens.reverse
  else none

end Yaml
end QueryGate
