/-! Sets of characters given by closed ranges of code points in increasing order. Apart from the test of membership
there are two operations, union and complement; both leave no two ranges that touch. -/
namespace QueryGate
namespace Text

/-- Closed ranges in increasing order, so a search may stop at the first range that starts later. -/
abbrev Ranges := List (Nat × Nat)

namespace Ranges

def has : Ranges → Nat → Bool
  | [], _ => false
  | (lo, hi) :: rest, n => if n < lo then false else decide (n ≤ hi) || has rest n

@[simp] theorem has_nil (n : Nat) : has [] n = false := rfl

theorem has_of_mem_head {lo hi n : Nat} (rest : Ranges) (h₁ : lo ≤ n) (h₂ : n ≤ hi) :
    has ((lo, hi) :: rest) n = true := by
  simp [has, Nat.not_lt.2 h₁, h₂]

theorem has_cons_of_lt {lo hi n : Nat} (rest : Ranges) (h₁ : lo < n) (h₂ : hi < n) :
    has ((lo, hi) :: rest) n = has rest n := by
  simp [has, Nat.not_lt.2 (Nat.le_of_lt h₁), Nat.not_le.2 h₂]

/-- Puts the first range of a list, whose own rest is merged by `mergeRest`, into another list. -/
def mergeHead (r : Nat × Nat) (rest : Ranges) (mergeRest : Ranges → Ranges) : Ranges → Ranges
  | [] => r :: rest
  | q :: others =>
    if r.1 ≤ q.1 then r :: mergeRest (q :: others) else q :: mergeHead r rest mergeRest others

/-- The ranges of both lists, ordered by where they begin. -/
def merge : Ranges → Ranges → Ranges
  | [], others => others
  | r :: rest, others => mergeHead r rest (merge rest) others

/-- Unites a range with the ranges behind it that overlap it or follow at once. -/
def joinFrom (lo hi : Nat) : Ranges → Ranges
  | [] => [(lo, hi)]
  | (lo', hi') :: rest =>
    if lo' ≤ hi + 1 then joinFrom lo (max hi hi') rest else (lo, hi) :: joinFrom lo' hi' rest

def join : Ranges → Ranges
  | [] => []
  | (lo, hi) :: rest => joinFrom lo hi rest

/-- The last code point. -/
def last : Nat := 0x10FFFF

def isSurrogate (n : Nat) : Bool := decide (0xD800 ≤ n ∧ n ≤ 0xDFFF)

/-- A range without surrogates at its ends, which no character has for its code point. -/
def trimmed (lo hi : Nat) : Ranges :=
  let lo := if isSurrogate lo then 0xE000 else lo
  let hi := if isSurrogate hi then 0xD7FF else hi
  if lo ≤ hi then [(lo, hi)] else []

/-- What lies between the ranges from `next` on. -/
def gapsFrom (next : Nat) : Ranges → Ranges
  | [] => trimmed next last
  | (lo, hi) :: rest =>
    if next < lo then trimmed next (lo - 1) ++ gapsFrom (hi + 1) rest else gapsFrom (max next (hi + 1)) rest

def gaps (rs : Ranges) : Ranges := gapsFrom 0 rs

end Ranges
end Text
end QueryGate
