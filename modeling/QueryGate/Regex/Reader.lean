import QueryGate.Regex.Footprint
import QueryGate.Regex.Property
import QueryGate.Text.Alphanumeric
import QueryGate.Text.Hex
import QueryGate.Text.Integer

/-! Patterns, the written form of regular expressions. A pattern may nest groups, classes and repetitions up to a
limit, and the memory of its search is limited too. -/
namespace QueryGate
namespace Regex

structure Flags where
  caseless : Bool
  multiline : Bool
  dotAll : Bool
  lazySwap : Bool
  unicode : Bool
  paired : Bool
  spaced : Bool
  deriving DecidableEq

def Flags.start : Flags := ⟨false, false, false, false, true, false, false⟩

/-- A set of characters without regard to case, if case is ignored. -/
def Flags.fold (f : Flags) (s : CharSet) : CharSet :=
  if !f.caseless then s else if f.unicode then Regex.caseless s else Regex.asciiCaseless s

def Flags.alphabet (f : Flags) : Alphabet := if f.unicode then .unicode else .ascii

/-- Where a reader stands: the text in front of it, the flags that hold there, and the groups so far with their
names. -/
structure Cursor where
  rest : List Char
  flags : Flags
  names : List (List Char)
  groups : Nat

abbrev Reader := StateT Cursor Option

/-- Blanks and comments, which a pattern may hold when its spacing is free. -/
def dropFree (inComment : Bool) : List Char → List Char
  | [] => []
  | c :: rest =>
    if inComment then dropFree (c ≠ '\n') rest
    else if Text.isBlank c then dropFree false rest
    else if c = '#' then dropFree true rest
    else c :: rest

namespace Reader

def refuse {α : Type} : Reader α := fun _ => none

def require (b : Bool) : Reader Unit := if b then pure () else refuse

def peek? : Reader (Option Char) := do return (← get).rest.head?

/-- The character in front; there has to be one. -/
def current : Reader Char := do
  match ← peek? with
  | some c => return c
  | none => refuse

def flags : Reader Flags := do return (← get).flags

def setFlags (f : Flags) : Reader Unit := modify fun c => { c with flags := f }

def setRest (cs : List Char) : Reader Unit := modify fun c => { c with rest := cs }

def advance : Reader Unit := modify fun c => { c with rest := c.rest.tail }

def skipFree : Reader Unit := modify fun c => if c.flags.spaced then { c with rest := dropFree false c.rest } else c

def step : Reader Unit := do
  advance
  skipFree

/-- Goes past a given text if it stands in front. -/
def accept (word : List Char) : Reader Bool := do
  let cs := (← get).rest
  if word.isPrefixOf cs then
    setRest (cs.drop word.length)
    return true
  else return false

/-- The characters in front that satisfy a test, with free spacing between them; `fuel` bounds their number. -/
def collect (test : Char → Bool) : Nat → List Char → Reader (List Char)
  | 0, acc => return acc.reverse
  | fuel + 1, acc => do
    match ← peek? with
    | some c =>
      if test c then
        step
        collect test fuel (c :: acc)
      else return acc.reverse
    | none => return acc.reverse

def collectAll (test : Char → Bool) : Reader (List Char) := do
  collect test (← get).rest.length []

end Reader

/-- What an escape stands for. A literal written as two hexadecimal digits may be meant as a byte. -/
inductive Atom
  | literal (c : Char) (byte : Bool)
  | set (s : CharSet)
  | look (l : Look)

open Reader

def isMeta (c : Char) : Bool := "\\.+*?()|[]\x7b\x7d^$#&-~".toList.contains c

/-- Characters that stand for themselves behind a backslash. -/
def isEscapable (c : Char) : Bool :=
  isMeta c || (decide (c.toNat ≤ 0x7F) && !c.isAlphanum && c != '<' && c != '>')

def isHexDigit (c : Char) : Bool := (Text.hexValue? c).isSome

/-- The character with a given code point; surrogates and numbers beyond the last one are none. -/
def scalarOf? (n : Nat) : Option Char :=
  if n < 0xD800 ∨ (0xDFFF < n ∧ n ≤ 0x10FFFF) then some (Char.ofNat n) else none

def scalarOfHex (digits : List Char) : Reader Char :=
  match (Text.hexNumber? digits).bind scalarOf? with
  | some c => pure c
  | none => refuse

/-- A fixed number of hexadecimal digits. -/
def readHexDigits : Nat → List Char → Reader (List Char)
  | 0, acc => return acc.reverse
  | n + 1, acc => do
    let c ← current
    require (isHexDigit c)
    step
    readHexDigits n (c :: acc)

/-- A code point behind `x`, `u` or `U`: two, four or eight digits, or any number of them in braces. -/
def readHex (width : Nat) : Reader Atom := do
  step
  if (← current) = '\x7b' then
    step
    let digits ← collectAll isHexDigit
    require ((← current) = '\x7d' && !digits.isEmpty)
    step
    return .literal (← scalarOfHex digits) false
  else
    let digits ← readHexDigits width []
    return .literal (← scalarOfHex digits) (width = 2)

/-- Cuts a text in front of the first occurrence of a word; the second part begins behind it. -/
def cutAt? (word : List Char) : List Char → Option (List Char × List Char)
  | [] => none
  | c :: rest =>
    if word.isPrefixOf (c :: rest) then some ([], (c :: rest).drop word.length)
    else (cutAt? word rest).map fun parts => (c :: parts.1, parts.2)

/-- The property that the text inside braces names, and whether its complement is meant. -/
def propertyOf? (name : List Char) : Option (CharSet × Bool) :=
  match cutAt? ['!', '='] name with
  | some (key, value) => (Property.valued? key value).map fun p => (p, true)
  | none =>
    match cutAt? [':'] name <|> cutAt? ['='] name with
    | some (key, value) => (Property.valued? key value).map fun p => (p, false)
    | none => (Property.named? name).map fun p => (p, false)

/-- Folds a set if case is ignored, and takes the complement after that. Without Unicode a set is one of bytes, of
which no member may lie outside ASCII. -/
def foldAndNegate (negated : Bool) (s : CharSet) : Reader CharSet := do
  let f ← flags
  if f.unicode then
    return CharSet.complementIf negated (f.fold s)
  else
    let folded := CharSet.complementIf negated (f.fold s)
    require folded.isAscii
    return folded

def readProperty (negated : Bool) : Reader Atom := do
  step
  let c ← current
  let found ←
    if c = '\x7b' then do
      step
      let name ← collectAll (· ≠ '\x7d')
      require ((← current) = '\x7d')
      advance
      pure (propertyOf? name)
    else do
      require (c ≠ '\\')
      step
      pure ((Property.named? [c]).map fun p => (p, false))
  require (← flags).unicode
  match found with
  | some (p, flipped) => return .set (← foldAndNegate (negated != flipped) p)
  | none => refuse

/-- One of the classes for digits, blanks and words, or its complement. -/
def readPerl (negated : Bool) (unicode ascii : CharSet) : Reader Atom := do
  advance
  if (← flags).unicode then return .set (CharSet.complementIf negated unicode)
  else
    require !negated
    return .set ascii

def isBoundaryChar (c : Char) : Bool := c.isAlpha || c == '-'

/-- A word boundary, or one of its kinds in braces. Braces that cannot hold a kind are left for a repetition. -/
def readBoundary : Reader Atom := do
  advance
  let a := (← flags).alphabet
  let before := (← get).rest
  if (← peek?) = some '\x7b' then
    step
    if isBoundaryChar (← current) then
      let name ← collectAll isBoundaryChar
      require ((← current) = '\x7d')
      advance
      match String.ofList name with
      | "start" => return .look (.wordStart a)
      | "end" => return .look (.wordEnd a)
      | "start-half" => return .look (.noWordBefore a)
      | "end-half" => return .look (.noWordAfter a)
      | _ => refuse
    else
      setRest before
      return .look (.boundary a)
  else return .look (.boundary a)

def literalEscape? (c : Char) : Option Char :=
  match c with
  | 'a' => some '\x07'
  | 'f' => some '\x0c'
  | 't' => some '\t'
  | 'n' => some '\n'
  | 'r' => some '\r'
  | 'v' => some '\x0b'
  | _ => if isEscapable c then some c else none

def readEscape : Reader Atom := do
  advance
  let a := (← flags).alphabet
  let place (l : Look) : Reader Atom := do
    advance
    return .look l
  match ← current with
  | 'x' => readHex 2
  | 'u' => readHex 4
  | 'U' => readHex 8
  | 'p' => readProperty false
  | 'P' => readProperty true
  | 'd' => readPerl false decimalNumbers asciiDigits
  | 'D' => readPerl true decimalNumbers asciiDigits
  | 's' => readPerl false blankCharacters asciiBlanks
  | 'S' => readPerl true blankCharacters asciiBlanks
  | 'w' => readPerl false wordChars asciiWordChars
  | 'W' => readPerl true wordChars asciiWordChars
  | 'A' => place .textStart
  | 'z' => place .textEnd
  | 'b' => readBoundary
  | 'B' => place (.notBoundary a)
  | '<' => place (.wordStart a)
  | '>' => place (.wordEnd a)
  | c =>
    advance
    match literalEscape? c with
    | some d => return .literal d false
    | none => refuse

/-- A set with the number of levels of nesting inside it. -/
structure Nested where
  set : CharSet
  depth : Nat

/-- The items of a class so far. -/
structure Items where
  set : CharSet
  depth : Nat
  count : Nat

namespace Items

def nothing : Items := ⟨.none, 0, 0⟩

def add (items : Items) (s : CharSet) (depth : Nat) : Items :=
  ⟨items.set ∪ s, max items.depth depth, items.count + 1⟩

/-- Two or more items form a level of their own. -/
def close (items : Items) : Nested := ⟨items.set, if items.count < 2 then items.depth else items.depth + 1⟩

end Items

inductive SetOp
  | intersection | difference | symmetricDifference

def SetOp.apply : SetOp → CharSet → CharSet → CharSet
  | intersection => (· ∩ ·)
  | difference => (· \ ·)
  | symmetricDifference => .apart

/-- The operators that stand in front, each a doubled character. -/
def setOp? : List Char → Option SetOp
  | '&' :: '&' :: _ => some .intersection
  | '-' :: '-' :: _ => some .difference
  | '~' :: '~' :: _ => some .symmetricDifference
  | _ => none

/-- Applies the operator that waits for its right side. Both sides are folded first if case is ignored. -/
def applyPending (pending : Option (SetOp × Nested)) (right : Nested) : Reader Nested := do
  match pending with
  | none => return right
  | some (op, left) =>
    let f ← flags
    return ⟨op.apply (f.fold left.set) (f.fold right.set), max left.depth right.depth + 1⟩

def asciiClasses : List (List String × CharSet) := [
  (["alnum"], ⟨[(0x30, 0x39), (0x41, 0x5A), (0x61, 0x7A)]⟩),
  (["alpha"], ⟨[(0x41, 0x5A), (0x61, 0x7A)]⟩),
  (["ascii"], ⟨[(0x0, 0x7F)]⟩),
  (["blank"], ⟨[(0x9, 0x9), (0x20, 0x20)]⟩),
  (["cntrl"], ⟨[(0x0, 0x1F), (0x7F, 0x7F)]⟩),
  (["digit"], ⟨[(0x30, 0x39)]⟩),
  (["graph"], ⟨[(0x21, 0x7E)]⟩),
  (["lower"], ⟨[(0x61, 0x7A)]⟩),
  (["print"], ⟨[(0x20, 0x7E)]⟩),
  (["punct"], ⟨[(0x21, 0x2F), (0x3A, 0x40), (0x5B, 0x60), (0x7B, 0x7E)]⟩),
  (["space"], ⟨[(0x9, 0xD), (0x20, 0x20)]⟩),
  (["upper"], ⟨[(0x41, 0x5A)]⟩),
  (["word"], ⟨[(0x30, 0x39), (0x41, 0x5A), (0x5F, 0x5F), (0x61, 0x7A)]⟩),
  (["xdigit"], ⟨[(0x30, 0x39), (0x41, 0x46), (0x61, 0x66)]⟩)]

/-- A named class such as `[:alpha:]` in front of a text: its set, whether it is negated, and the rest. -/
def asciiClass? (cs : List Char) : Option (CharSet × Bool × List Char) :=
  match cs with
  | '[' :: ':' :: rest =>
    let negated := rest.head? == some '^'
    let named := if negated then rest.drop 1 else rest
    let (name, behind) := named.span (· ≠ ':')
    match behind, CharSet.find? (String.ofList name) asciiClasses with
    | ':' :: ']' :: rest, some s => some (s, negated, rest)
    | _, _ => none
  | _ => none

/-- One item of a class: an escape, or any character as itself. -/
def readClassAtom : Reader Atom := do
  let c ← current
  if c = '\\' then readEscape
  else
    advance
    return .literal c false

/-- A literal of a class. Without Unicode it has to be ASCII. -/
def classLiteral : Atom → Reader Char
  | .literal c _ => do
    require ((← flags).unicode || decide (c.toNat ≤ 0x7F))
    return c
  | _ => refuse

def classSet : Atom → Reader CharSet
  | .set s => return s
  | a => do return .single (← classLiteral a)

/-- The next character that is no blank, where the first number sign is passed over too. -/
def pastBlanks? (signSeen : Bool) : List Char → Option Char
  | [] => none
  | c :: rest =>
    if Text.isBlank c then pastBlanks? signSeen rest
    else if c = '#' ∧ !signSeen then pastBlanks? true rest
    else some c

/-- The character behind a dash that decides whether the dash makes a range. Where spacing is free, a comment is looked
into for it; if nothing but blanks is left, it is the first of these. -/
def behindDash? : Reader (Option Char) := do
  let cursor ← get
  let rest := cursor.rest.tail
  return if cursor.flags.spaced then pastBlanks? false rest <|> rest.head? else rest.head?

/-- An item or a range of a class. A dash in front of a closing bracket or of another dash makes no range. -/
def readClassRange : Reader CharSet := do
  let first ← readClassAtom
  skipFree
  let c ← current
  let next ← behindDash?
  if c ≠ '-' ∨ next = some ']' ∨ next = some '-' then classSet first
  else
    step
    let last ← readClassAtom
    let lo ← classLiteral first
    let hi ← classLiteral last
    require (decide (lo ≤ hi))
    return .range lo.toNat hi.toNat

/-- Dashes at the start of a class stand for themselves. -/
def leadingDashes : Nat → Items → Reader Items
  | 0, items => return items
  | fuel + 1, items => do
    if (← current) = '-' then
      step
      leadingDashes fuel (items.add (.single '-') 0)
    else return items

/-- Goes past the opening bracket of a class and what is special behind it. -/
def openClass : Reader (Bool × Items) := do
  step
  let negated := (← current) = '^'
  if negated then step
  let items ← leadingDashes ((← get).rest.length + 1) .nothing
  if items.count = 0 ∧ (← current) = ']' then
    step
    let _ ← current
    return (negated, items.add (.single ']') 0)
  else return (negated, items)

/-- The rest of a class behind its opening, with the items so far and the operator that waits for them. `fuel`
bounds the number of items and brackets. -/
def readClass : Nat → Bool → Items → Option (SetOp × Nested) → Reader Nested
  | 0, _, _, _ => refuse
  | fuel + 1, negated, items, pending => do
    skipFree
    let c ← current
    let rest := (← get).rest
    if c = '[' then
      match asciiClass? rest with
      | some (s, inverted, rest) =>
        setRest rest
        readClass fuel negated (items.add (← foldAndNegate inverted s) 0) pending
      | none =>
        let (innerNegated, innerItems) ← openClass
        let inner ← readClass fuel innerNegated innerItems none
        readClass fuel negated (items.add inner.set inner.depth) pending
    else if c = ']' then
      let whole ← applyPending pending items.close
      advance
      return ⟨← foldAndNegate negated whole.set, whole.depth + 1⟩
    else
      match setOp? rest with
      | some op =>
        advance
        advance
        readClass fuel negated .nothing (some (op, ← applyPending pending items.close))
      | none => readClass fuel negated (items.add (← readClassRange) 0) pending

/-- A part of a pattern with its levels of nesting. Only what sets flags cannot be repeated. -/
structure Part where
  regex : Regex
  depth : Nat
  repeatable : Bool

namespace Part

/-- Parts in a row, given in reverse. -/
def sequence : List Part → Part
  | [] => ⟨.empty, 0, true⟩
  | [p] => p
  | ps => ⟨Regex.sequence (ps.reverse.map regex), (ps.map depth).foldl max 0 + 1, true⟩

/-- Alternatives, given in reverse. -/
def choice : List Part → Part
  | [] => ⟨.empty, 0, true⟩
  | [p] => p
  | ps => ⟨Regex.choice (ps.reverse.map regex), (ps.map depth).foldl max 0 + 1, true⟩

end Part

/-- The expression for one character. Without Unicode only ASCII letters have two cases, and no byte outside ASCII
can be meant. -/
def literalRegex (c : Char) (byte : Bool) : Reader Regex := do
  let f ← flags
  require (f.unicode || !byte || decide (c.toNat ≤ 0x7F))
  return .chars (f.fold (.single c))

def dotRegex : Reader Regex := do
  let f ← flags
  require f.unicode
  let feed := CharSet.single '\n'
  let excluded := if f.dotAll then .none else if f.paired then feed ∪ .single '\r' else feed
  return .chars excluded.compl

def caret (f : Flags) : Look :=
  if !f.multiline then .textStart else if f.paired then .pairedLineStart else .lineStart

def dollar (f : Flags) : Look :=
  if !f.multiline then .textEnd else if f.paired then .pairedLineEnd else .lineEnd

/-- Whatever is no operator, group or class. -/
def readPrimitive : Reader Part := do
  let c ← current
  let f ← flags
  let leaf (r : Regex) : Part := ⟨r, 0, true⟩
  if c = '\\' then
    match ← readEscape with
    | .literal d byte => return leaf (← literalRegex d byte)
    | .set s => return leaf (.chars s)
    | .look l => return leaf (.look l)
  else
    advance
    if c = '.' then return leaf (← dotRegex)
    else if c = '^' then return leaf (.look (caret f))
    else if c = '$' then return leaf (.look (dollar f))
    else return leaf (← literalRegex c false)

/-- Blanks around the number of a repetition are allowed. -/
def skipBlanks : Reader Unit := modify fun c => { c with rest := c.rest.dropWhile Text.isBlank }

/-- A decimal number below 2³². -/
def readCount : Reader Nat := do
  skipBlanks
  let digits ← collectAll Char.isDigit
  skipBlanks
  skipFree
  match Text.readNatural (UInt32.size - 1) digits with
  | .ok n => return n
  | .error _ => refuse

/-- A question mark behind a repetition makes it lazy, unless flags turn that around. -/
def readLazy : Reader Bool := do
  let marked ← accept ['?']
  return marked != (← flags).lazySwap

/-- The bounds in braces. -/
def readBounds : Reader (Nat × Option Nat) := do
  step
  let least ← readCount
  let c ← current
  if c = ',' then
    step
    if (← current) = '\x7d' then
      step
      return (least, none)
    else
      let most ← readCount
      require ((← current) = '\x7d' && decide (least ≤ most))
      step
      return (least, some most)
  else
    require (c = '\x7d')
    step
    return (least, some least)

/-- The repetition operator in front, applied to the last of the parts in reverse. -/
def readRepetition (c : Char) (parts : List Part) : Reader (List Part) := do
  match parts with
  | [] => refuse
  | p :: ps =>
    require p.repeatable
    let (least, most) ←
      if c = '\x7b' then readBounds
      else do
        advance
        pure (if c = '?' then (0, some 1) else if c = '*' then (0, none) else (1, none))
    let isLazy ← readLazy
    return ⟨p.regex.repeated least most isLazy, p.depth + 1, true⟩ :: ps

/-- The flag of a letter, switched on or off. -/
def Flags.set? (f : Flags) (on : Bool) : Char → Option Flags
  | 'i' => some { f with caseless := on }
  | 'm' => some { f with multiline := on }
  | 's' => some { f with dotAll := on }
  | 'U' => some { f with lazySwap := on }
  | 'u' => some { f with unicode := on }
  | 'R' => some { f with paired := on }
  | 'x' => some { f with spaced := on }
  | _ => none

/-- The flags that a text of letters sets. No letter stands twice, and one dash divides those switched off, of
which there is at least one. -/
def Flags.apply? (f : Flags) (on : Bool) (seen : List Char) : List Char → Option Flags
  | [] => if on ∨ seen.head? ≠ some '-' then some f else none
  | c :: rest =>
    if seen.contains c then none
    else if c = '-' then f.apply? false (c :: seen) rest
    else (f.set? on c).bind fun g => g.apply? on (c :: seen) rest

/-- Characters of a group name; it does not begin with a digit. -/
def isNameChar (first : Bool) (c : Char) : Bool :=
  c == '_' || Text.isAlphabetic c ||
    (!first && (c == '.' || c == '[' || c == ']' || Text.isAlphanumeric c))

/-- A group name up to the closing angle bracket. No two groups have the same one. -/
def readGroupName : Reader Unit := do
  let cursor ← get
  let (name, behind) := cursor.rest.span (· ≠ '>')
  match name, behind with
  | c :: cs, _ :: rest =>
    require (isNameChar true c && cs.all (isNameChar false) && !cursor.names.contains name)
    set { cursor with rest := rest, names := name :: cursor.names }
  | _, _ => refuse

def lookaround : List (List Char) := [['?', '='], ['?', '!'], ['?', '<', '='], ['?', '<', '!']]

/-- What stands behind an opening parenthesis. -/
inductive Opening
  | numbered (number : Nat)
  | plain
  | flags

/-- Counts one more group. -/
def countGroup : Reader Opening := do
  let number := (← get).groups + 1
  modify fun c => { c with groups := number }
  return .numbered number

def readGroupStart : Reader Opening := do
  step
  let cs := (← get).rest
  require !(lookaround.any fun word => word.isPrefixOf cs)
  if ← accept ['?', 'P', '<'] then
    readGroupName
    countGroup
  else if ← accept ['?', '<'] then
    readGroupName
    countGroup
  else if ← accept ['?'] then
    let cursor ← get
    let (letters, behind) := cursor.rest.span fun c => c ≠ ':' && c ≠ ')'
    match behind, cursor.flags.apply? true [] letters with
    | c :: rest, some f =>
      require (c = ':' || !letters.isEmpty)
      set { cursor with rest := rest, flags := f }
      return if c = ':' then .plain else .flags
    | _, _ => refuse
  else countGroup

/-- Alternatives up to a closing parenthesis or the end, with the alternatives and the parts of the current one
so far, both in reverse. `fuel` bounds the number of parts. -/
def readParts : Nat → List Part → List Part → Reader Part
  | 0, _, _ => refuse
  | fuel + 1, branches, parts => do
    skipFree
    match ← peek? with
    | none => return Part.choice (Part.sequence parts :: branches)
    | some c =>
      if c = ')' then return Part.choice (Part.sequence parts :: branches)
      else if c = '|' then
        advance
        readParts fuel (Part.sequence parts :: branches) []
      else if c = '(' then
        let outer ← flags
        let opening ← readGroupStart
        match opening with
        | .flags => readParts fuel branches (⟨.empty, 0, false⟩ :: parts)
        | _ =>
          let inner ← readParts fuel [] []
          require ((← current) = ')')
          setFlags outer
          advance
          let regex := match opening with
            | .numbered number => .group number inner.regex
            | _ => inner.regex
          readParts fuel branches (⟨regex, inner.depth + 1, true⟩ :: parts)
      else if c = '[' then
        let (negated, items) ← openClass
        let s ← readClass fuel negated items none
        readParts fuel branches (⟨.chars s.set, s.depth, true⟩ :: parts)
      else if c = '?' ∨ c = '*' ∨ c = '+' ∨ c = '\x7b' then
        readParts fuel branches (← readRepetition c parts)
      else readParts fuel branches ((← readPrimitive) :: parts)

def maxDepth : Nat := 250

/-- The expression that a pattern stands for. -/
def read? (pattern : String) : Option Regex :=
  let cs := pattern.toList
  match (readParts (cs.length + 2) [] []).run ⟨cs, .start, [], 0⟩ with
  | some (p, cursor) =>
    if cursor.rest.isEmpty && decide (p.depth ≤ maxDepth) && p.regex.fits then some p.regex
    else none
  | none => none

end Regex
end QueryGate
