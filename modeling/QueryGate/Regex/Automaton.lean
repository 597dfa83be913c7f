import QueryGate.Regex.Basic

/-! The automaton of a regular expression. A search runs through a text once and carries along the states that it can
be in, each of them once. -/
namespace QueryGate
namespace Regex

/-- A state reads a character of a set, checks an assertion, or leaves a choice; in the last kind a match ends. -/
inductive State
  | read (s : CharSet) (next : Nat)
  | check (l : Look) (next : Nat)
  | fork (one other : Nat)
  | accept

structure Automaton where
  states : Array State
  start : Nat

namespace Automaton

/-- Puts the states of an expression in front of a state. The states are given with the one where a match goes on,
and returned with the one where it begins. -/
def add : Regex → Nat × Array State → Nat × Array State
  | empty, made => made
  | chars s, (next, states) => (states.size, states.push (.read s next))
  | look l, (next, states) => (states.size, states.push (.check l next))
  | cat a b, made => add a (add b made)
  | alt a b, (next, states) =>
    let (one, states) := add a (next, states)
    let (other, states) := add b (next, states)
    (states.size, states.push (.fork one other))
  | rep a least none _, (next, states) =>
    let loop := states.size
    let (one, states) := add a (loop, states.push (.fork next next))
    Nat.repeat (add a) least (loop, states.setIfInBounds loop (.fork one next))
  | rep a least (some most) _, (next, states) =>
    let optional (made : Nat × Array State) : Nat × Array State :=
      let (one, states) := add a made
      (states.size, states.push (.fork one next))
    Nat.repeat (add a) least (Nat.repeat optional (most - least) (next, states))
  | group _ a, made => add a made

def ofRegex (r : Regex) : Automaton :=
  let (start, states) := add r (0, #[.accept])
  ⟨states, start⟩

/-- What a search has reached at a place: for each state the last place where it was, what it may read and where that
leads, and whether a match ends. -/
structure Reached where
  seen : Array Nat
  reads : List (CharSet × Nat)
  accepts : Bool

/-- Follows the states that wait until each of them reads a character or ends a match. No state is followed twice at
one place; `fuel` bounds how many wait. -/
def follow (states : Array State) (place : Nat) (before after : Option Char) :
    Nat → List Nat → Array Nat → List (CharSet × Nat) → Reached
  | 0, _, seen, reads => ⟨seen, reads, false⟩
  | _ + 1, [], seen, reads => ⟨seen, reads, false⟩
  | fuel + 1, state :: waiting, seen, reads =>
    if seen[state]? = some place then follow states place before after fuel waiting seen reads
    else
      let seen := seen.setIfInBounds state place
      match states[state]? with
      | some (.read s next) => follow states place before after fuel waiting seen ((s, next) :: reads)
      | some (.check l next) =>
        follow states place before after fuel (if l.holds before after then next :: waiting else waiting) seen reads
      | some (.fork one other) => follow states place before after fuel (one :: other :: waiting) seen reads
      | some .accept => ⟨seen, reads, true⟩
      | none => follow states place before after fuel waiting seen reads

/-- All that can be reached at a place from given states. Each state is followed once and lets two more wait. -/
def reach (m : Automaton) (place : Nat) (before after : Option Char) (active : List Nat) (seen : Array Nat) : Reached :=
  follow m.states place before after (active.length + 2 * m.states.size + 1) active seen []

/-- Whether a match ends in the text behind `before`, if it starts there or is under way in one of the active states. -/
def searchFrom (m : Automaton) (place : Nat) (before : Option Char) (active : List Nat) (seen : Array Nat) :
    List Char → Bool
  | [] => (m.reach place before none (m.start :: active) seen).accepts
  | c :: rest =>
    let ⟨seen, reads, accepts⟩ := m.reach place before (some c) (m.start :: active) seen
    let active := reads.filterMap fun (s, next) => if s.has c.toNat then some next else none
    accepts || searchFrom m (place + 1) (some c) active seen rest

def search (m : Automaton) (text : String) : Bool :=
  m.searchFrom 1 none [] (Array.replicate m.states.size 0) text.toList

end Automaton

/-- Whether an expression matches some part of a text. -/
def isMatch (r : Regex) (text : String) : Bool := (Automaton.ofRegex r).search text

end Regex
end QueryGate
