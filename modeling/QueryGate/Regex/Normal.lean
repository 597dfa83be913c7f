import QueryGate.Regex.Basic

/-! The normal form of regular expressions. Sequences and alternatives are flat, alternatives of characters are sets,
and what alternatives begin with in common stands in front of them. Each function builds an expression in normal form
from parts in normal form. -/
namespace QueryGate
namespace Regex

/-- Whether an expression matches no text but the empty one. -/
def isSilent : Regex → Bool
  | empty => true
  | chars _ => false
  | look _ => true
  | cat a b => a.isSilent && b.isSilent
  | alt a b => a.isSilent && b.isSilent
  | rep a _ _ _ => a.isSilent
  | group _ a => a.isSilent

/-- The repetition of an expression. One round of a silent expression does as much as any number of them. -/
def repeated (a : Regex) (least : Nat) (most : Option Nat) (isLazy : Bool) : Regex :=
  let fewest := if a.isSilent then min least 1 else least
  let limit := if a.isSilent then some (min (most.getD 1) 1) else most
  if fewest = 0 ∧ limit = some 0 then empty
  else if fewest = 1 ∧ limit = some 1 then a
  else rep a fewest limit isLazy

/-- The parts of a sequence. -/
def factors : Regex → List Regex
  | empty => []
  | cat a b => a.factors ++ b.factors
  | r => [r]

def ofFactors : List Regex → Regex
  | [] => empty
  | [r] => r
  | r :: rest => cat r (ofFactors rest)

def sequence (parts : List Regex) : Regex := ofFactors (parts.flatMap factors)

/-- The parts between which there is a choice. -/
def branches : Regex → List Regex
  | alt a b => a.branches ++ b.branches
  | r => [r]

def ofBranches : List Regex → Regex
  | [] => chars .none
  | [r] => r
  | r :: rest => alt r (ofBranches rest)

def set? : Regex → Option CharSet
  | chars s => some s
  | _ => none

/-- Whether an expression stands for one character. -/
def isSingle : Regex → Bool
  | chars s => s.isSingleton
  | _ => false

/-- Whether an expression stands for a text of one or more characters. -/
def isWord (r : Regex) : Bool := !r.factors.isEmpty && r.factors.all isSingle

/-- The parts of a sequence, where single characters in a row are one part. -/
def pieces : List Regex → List (List Regex)
  | [] => []
  | r :: rest =>
    match pieces rest with
    | (s :: word) :: more => if r.isSingle && s.isSingle then (r :: s :: word) :: more else [r] :: (s :: word) :: more
    | more => [r] :: more

/-- What two lists begin with in common. -/
def commonFront {α : Type} [DecidableEq α] : List α → List α → List α
  | a :: as, b :: bs => if a = b then a :: commonFront as bs else []
  | _, _ => []

/-- What several sequences, each of two or more pieces, begin with in common. -/
def sharedFront : List (List (List Regex)) → List (List Regex)
  | first :: second :: rest =>
    if (first :: second :: rest).all fun parts => decide (2 ≤ parts.length) then
      (second :: rest).foldl commonFront first
    else []
  | _ => []

/-- A choice between parts, as one set if all are single characters or all are other sets. -/
def choiceOf (parts : List Regex) : Regex :=
  match parts.mapM set? with
  | some sets =>
    if parts.all isSingle || parts.all (!·.isSingle) then chars (sets.foldl (· ∪ ·) .none) else ofBranches parts
  | none => ofBranches parts

def choice (parts : List Regex) : Regex :=
  let parts := parts.flatMap branches
  let split := parts.map fun r => pieces r.factors
  match sharedFront split with
  | [] => choiceOf parts
  | front =>
    let remainders := split.map fun r => ofFactors (r.drop front.length).flatten
    sequence (front.flatten ++ [choiceOf (remainders.flatMap branches)])

end Regex
end QueryGate
