import QueryGate.Text.Ranges

/-! Sets of characters, with the usual operations. No operation leaves ranges that touch, and none ends a range at a
surrogate. -/
namespace QueryGate
namespace Regex

open Text (Ranges)

structure CharSet where
  ranges : Ranges
  deriving DecidableEq

namespace CharSet

def has (s : CharSet) (n : Nat) : Bool := s.ranges.has n

def none : CharSet := ⟨[]⟩

def range (lo hi : Nat) : CharSet := ⟨[(lo, hi)]⟩

def all : CharSet := range 0 Ranges.last

def single (c : Char) : CharSet := range c.toNat c.toNat

@[simp] theorem single_has (c : Char) (n : Nat) : (single c).has n = decide (n = c.toNat) := by
  simp only [single, range, has, Ranges.has, Bool.or_false]
  split <;> simp only [Bool.false_eq, decide_eq_false_iff_not, decide_eq_decide] <;> omega

def compl (s : CharSet) : CharSet := ⟨s.ranges.gaps⟩

def union (s t : CharSet) : CharSet := ⟨(s.ranges.merge t.ranges).join⟩

instance : Union CharSet := ⟨union⟩

instance : SDiff CharSet := ⟨fun s t => (s.compl ∪ t).compl⟩

instance : Inter CharSet := ⟨fun s t => s \ t.compl⟩

/-- The characters in exactly one of two sets. -/
def apart (s t : CharSet) : CharSet := (s \ t) ∪ (t \ s)

/-- The set of the code points in a list. -/
def ofPoints (points : List Nat) : CharSet :=
  ⟨Ranges.join ((points.mergeSort (· ≤ ·)).map fun n => (n, n))⟩

def points (s : CharSet) : List Nat :=
  s.ranges.flatMap fun r => (List.range (r.2 + 1 - r.1)).map (r.1 + ·)

/-- The entry of a table under a name. -/
def find? (name : String) (table : List (List String × CharSet)) : Option CharSet :=
  (table.find? fun row => row.1.contains name).map Prod.snd

def complementIf (negated : Bool) (s : CharSet) : CharSet := if negated then s.compl else s

/-- Whether every member is an ASCII character. -/
def isAscii (s : CharSet) : Bool := s.ranges.all fun r => decide (r.2 ≤ 0x7F)

/-- Whether the set has exactly one member. -/
def isSingleton (s : CharSet) : Bool :=
  match s.ranges with
  | [(lo, hi)] => lo == hi
  | _ => false

end CharSet
end Regex
end QueryGate
