import QueryGate.Bracket.Basic

/-! Settings of a gate: which parameters ask for a page, and what is taken when they do not. -/
namespace QueryGate

structure Settings where
  pageParam : String := "page"
  perPageParam : String := "perPage"
  defaultPage : UInt64 := 1
  defaultPerPage : UInt64 := 20
  minPerPage : UInt64 := 1
  maxPerPage : UInt64 := 100
  defaultMaxCalls : UInt32 := 10
  inferScalars : Bool := false
  deriving DecidableEq

namespace Settings

def scalars (s : Settings) : Bracket.Scalars := if s.inferScalars then .inferred else .verbatim

def isPaging (s : Settings) (key : String) : Bool := key == s.pageParam || key == s.perPageParam

/-- Only whole numbers above one are taken. -/
def page (s : Settings) (submitted : Option Arg) : UInt64 :=
  match submitted.bind Arg.integer? with
  | some n => if 1 < n.toInt then UInt64.ofNat n.toInt.toNat else s.defaultPage
  | none => s.defaultPage

/-- A number outside the bounds gives the default and not the nearest bound. -/
def perPage (s : Settings) (submitted : Option Arg) : UInt64 :=
  match submitted.bind Arg.integer? with
  | some n =>
    if 0 ≤ n.toInt ∧ s.minPerPage ≤ UInt64.ofNat n.toInt.toNat ∧ UInt64.ofNat n.toInt.toNat ≤ s.maxPerPage then
      UInt64.ofNat n.toInt.toNat
    else s.defaultPerPage
  | none => s.defaultPerPage

end Settings
end QueryGate
