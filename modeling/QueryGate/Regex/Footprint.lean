import Std.Data.HashMap
import QueryGate.Regex.ByteSpan
import QueryGate.Regex.Normal

/-! The memory that the automata of an expression take. One reads a text forward and keeps where groups begin and end,
the other reads it backward. Both consist of states for bytes, and sets of characters are shared as far as a table
of bounded size remembers the states that there are. -/
namespace QueryGate
namespace Regex

/-- The way in which an automaton reads. -/
inductive Way
  | forward | backward
  deriving DecidableEq

/-- The states so far, and the bytes of the links between them that do not fit into a state. -/
structure Footprint where
  states : Nat
  links : Nat
  deriving DecidableEq

namespace Footprint

def stateBytes : Nat := 32

/-- The size of a link for one range of bytes, and of a link for none. -/
def rangeBytes : Nat := 8

def branchBytes : Nat := 4

def bytes (f : Footprint) : Nat := stateBytes * f.states + f.links

def limit : Nat := 10 * 1024 * 1024

def fits (f : Footprint) : Bool := decide (f.bytes ≤ limit)

def addStates (f : Footprint) (count : Nat) : Footprint := { f with states := f.states + count }

/-- A state with a link for each of `count` ranges. -/
def addRanges (f : Footprint) (count : Nat) : Footprint := ⟨f.states + 1, f.links + rangeBytes * count⟩

def addBranches (f : Footprint) (count : Nat) : Footprint := { f with links := f.links + branchBytes * count }

/-- Where a number is put in a table of a given size, from the numbers that make up its key. -/
def slot (size : Nat) (key : List Nat) : Nat :=
  (key.foldl (fun h n => (h ^^^ n.toUInt64) * 1099511628211) (14695981039346656037 : UInt64)).toNat % size

/-- The states for sets of characters that a table remembers, each at its slot with its key. -/
abbrev Memo := Std.HashMap Nat (List Nat × Nat)

/-- The state with a given key, and whether it has to be made. -/
def stateOf (memo : Memo) (place fresh : Nat) (key : List Nat) : Nat × Bool :=
  match memo[place]? with
  | some (known, state) => if known = key then (state, false) else (fresh, true)
  | none => (fresh, true)

/-- The state that reads one of several spans of at most `depth` bytes and goes on to `target`. -/
def spanState (target : Nat) : Nat → List ByteSpan → Footprint × Memo → Nat × Footprint × Memo
  | 0, _, made => (target, made)
  | depth + 1, spans, made =>
    if spans.all List.isEmpty then (target, made)
    else
      let (key, footprint, memo) := (ByteSpan.byHead spans).foldl
        (fun (key, made) (head, tails) =>
          let (next, made) := spanState target depth tails made
          (key ++ [head.1, head.2, next], made))
        (([] : List Nat), made)
      let place := slot 10000 key
      match stateOf memo place footprint.states key with
      | (state, true) =>
        (state, footprint.addRanges (key.length / 3), memo.insert place (key, state))
      | (state, false) => (state, footprint, memo)

/-- The states that read one span backward to `finish`, one for each byte. -/
def spanBackward (finish : Nat) (span : ByteSpan) (made : Footprint × Memo) : Footprint × Memo :=
  (span.foldl
    (fun (behind, footprint, memo) r =>
      let key := [behind, r.1, r.2]
      let place := slot 1000 key
      match stateOf memo place footprint.states key with
      | (state, true) => (state, footprint.addStates 1, memo.insert place (key, state))
      | (state, false) => (state, footprint, memo))
    (finish, made)).2

/-- A set of characters. -/
def addSet (way : Way) (s : CharSet) (f : Footprint) : Footprint :=
  if s.isSingleton then f.addStates (s.points.flatMap ByteSpan.bytesOf).length
  else if s.isAscii then (f.addStates 1).addRanges s.ranges.length
  else
    let spans := ByteSpan.ofRanges s.ranges
    match way with
    | .forward => (spanState f.states 4 spans (f.addStates 1, ∅)).2.1
    | .backward =>
      ((spans.foldl (fun made span => spanBackward (f.states + 1) span made) (f.addStates 2, ∅)).1).addBranches
        spans.length

/-- The words of a list up to each word that is empty, and the number of these. An empty word after another one
counts only where some other word stands in the list before it. -/
def segments : List (List Nat) → List (List Nat) → List (List (List Nat)) → Nat → List (List (List Nat)) × Nat
  | [], current, done, ends => (current.reverse :: done, ends)
  | [] :: words, current, done, ends =>
    if ends ≠ 0 ∧ (current :: done).all List.isEmpty then segments words current done ends
    else segments words [] (current.reverse :: done) (ends + 1)
  | word :: words, current, done, ends => segments words (word :: current) done ends

/-- What stands behind a first byte in those words that begin with it. -/
def tailsOf (b : Nat) (words : List (List Nat)) : List (List Nat) :=
  words.filterMap fun word =>
    match word with
    | c :: tail => if c = b then some tail else none
    | [] => none

/-- A tree for several words of at most `depth` bytes. A node has one state for each segment of its words, and one
that branches to these and to the end. -/
def addTree : Nat → List (List Nat) → Footprint → Footprint
  | 0, _, f => f
  | depth + 1, words, f =>
    let (parts, ends) := segments words [] [] 0
    let parts := parts.filter (!·.isEmpty)
    let grown := parts.foldl
      (fun f part =>
        let heads := (part.filterMap List.head?).eraseDups
        let f := heads.foldl
          (fun f b =>
            let tails := tailsOf b part
            if tails.all List.isEmpty then f else addTree depth tails f)
          f
        if heads.length = 1 then f.addStates 1 else f.addRanges heads.length)
      f
    (grown.addStates 1).addBranches (parts.length + ends)

/-- A choice between texts. -/
def addWords (way : Way) (words : List (List Nat)) (f : Footprint) : Footprint :=
  let read := match way with
    | .forward => words
    | .backward => words.map List.reverse
  addTree ((read.map List.length).foldl max 0 + 1) read (f.addStates 1)

/-- Repeats a step as long as the result fits. -/
def times (step : Footprint → Footprint) : Nat → Footprint → Footprint
  | 0, f => f
  | n + 1, f => if f.fits then times step n (step f) else f

end Footprint

/-- The least number of characters in a match, if every part of the expression can match. -/
def leastLength? : Regex → Option Nat
  | empty => some 0
  | chars s => if s.ranges.isEmpty then none else some 1
  | look _ => some 0
  | cat a b => a.leastLength?.bind fun m => b.leastLength?.map (m + ·)
  | alt a b => a.leastLength?.bind fun m => b.leastLength?.map (min m)
  | rep a least _ _ => a.leastLength?.map (· * least)
  | group _ a => a.leastLength?

/-- Whether a match can begin only where a text does, or for the other way end only where a text does. -/
def isAnchored (way : Way) : Regex → Bool
  | look l =>
    match way with
    | .forward => l = .textStart
    | .backward => l = .textEnd
  | cat a b =>
    match way with
    | .forward => a.isAnchored way || (a.isSilent && b.isAnchored way)
    | .backward => b.isAnchored way || (b.isSilent && a.isAnchored way)
  | alt a b => a.isAnchored way && b.isAnchored way
  | rep a least _ _ => least != 0 && a.isAnchored way
  | group _ a => a.isAnchored way
  | _ => false

/-- Whether the automaton of an expression ends in a state that branches. Such a state takes one more branch for the
way out. -/
def endsOpen (way : Way) : Regex → Bool
  | cat a b =>
    match way with
    | .forward => b.endsOpen way
    | .backward => a.endsOpen way
  | rep a 0 none _ => a.leastLength?.any (· != 0)
  | rep _ _ none _ => true
  | rep a least (some most) _ => least == most && a.endsOpen way
  | group _ a =>
    match way with
    | .forward => false
    | .backward => a.endsOpen way
  | _ => false

/-- The bytes of the text that an expression stands for, if it is a word. -/
def wordBytes (r : Regex) : List Nat :=
  r.factors.flatMap fun s => (s.set?.getD .none).points.flatMap ByteSpan.bytesOf

namespace Footprint

/-- Which part an expression is: a whole one, the second alternative, behind which the state stands that branches to
the alternatives and the one where they meet, or another alternative. -/
inductive Rank
  | whole | second | other

def Rank.close (rank : Rank) (isOpen : Bool) (f : Footprint) : Footprint :=
  match rank with
  | whole => f
  | second => (f.addStates 2).addBranches (1 + isOpen.toNat)
  | other => f.addBranches (1 + isOpen.toNat)

/-- Adds the states of an expression. -/
def grow (way : Way) : Regex → Rank → Footprint → Footprint
  | empty, rank, f => rank.close false (f.addStates 1)
  | chars s, rank, f => rank.close false (f.addSet way s)
  | look _, rank, f => rank.close false (f.addStates 1)
  | cat a b, rank, f =>
    match way with
    | .forward =>
      rank.close (b.endsOpen way) (grow way b .whole ((grow way a .whole f).addBranches (a.endsOpen way).toNat))
    | .backward =>
      rank.close (a.endsOpen way) (grow way a .whole ((grow way b .whole f).addBranches (b.endsOpen way).toNat))
  | alt a b, .whole, f =>
    if (alt a b).branches.all isWord then f.addWords way ((alt a b).branches.map wordBytes)
    else grow way b .second (grow way a .other f)
  | alt a b, rank, f => grow way b .other (grow way a rank f)
  | rep a least most isLazy, rank, f =>
    let exit := (a.endsOpen way).toNat
    let round (f : Footprint) : Footprint := (grow way a .whole f).addBranches exit
    let optional (f : Footprint) : Footprint := (round (f.addStates 1)).addBranches 2
    rank.close ((rep a least most isLazy).endsOpen way) <|
      match least, most with
      | 0, none =>
        if a.leastLength?.any (· != 0) then (round (f.addStates 1)).addBranches 1
        else ((round f).addStates 3).addBranches 4
      | _, none => ((times round least f).addStates 1).addBranches 1
      | 0, some 1 => (optional f).addStates 1
      | 0, some most => times optional most (f.addStates 2)
      | least, some most =>
        if least = most then grow way a .whole (times round (least - 1) f)
        else times optional (most - least) ((times round least f).addStates 1)
  | group _ a, rank, f =>
    match way with
    | .forward =>
      rank.close false ((grow way a .whole (f.addStates 1)).addBranches (a.endsOpen way).toNat |>.addStates 1)
    | .backward => rank.close (a.endsOpen way) (grow way a .whole f)

/-- The whole automaton. Unless it is anchored it begins with a loop over any byte; and forward, the whole match is a
group. -/
def ofRegex (way : Way) (r : Regex) : Footprint :=
  let start : Footprint := if r.isAnchored way then ⟨1, 0⟩ else ⟨3, rangeBytes + 2 * branchBytes⟩
  let marks := match way with
    | .forward => 1
    | .backward => 0
  ((grow way r .whole (start.addStates marks)).addStates (marks + 1)).addBranches (r.endsOpen way).toNat

end Footprint

/-- Whether both automata of an expression fit into the memory for them. -/
def fits (r : Regex) : Bool := (Footprint.ofRegex .forward r).fits && (Footprint.ofRegex .backward r).fits

end Regex
end QueryGate
