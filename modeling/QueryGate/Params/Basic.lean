import QueryGate.Bracket.Basic
import QueryGate.OrderedMap

/-! Request parameters in the order of the request, before and after their values are parsed. A value that
does not parse keeps its place, and the other values do not depend on it. -/
namespace QueryGate

/-- A value as submitted: a list that is structured already, a text in bracket notation, or one scalar. -/
inductive RawValue
  | list (args : List Arg)
  | text (s : String)
  | scalar (a : Arg)
  deriving DecidableEq

abbrev RawParams := OrderedMap RawValue

abbrev Parsed := Except Bracket.Malformed (List Arg)

abbrev Params := OrderedMap Parsed

namespace RawValue

def parse (scalars : Bracket.Scalars) : RawValue → Parsed
  | list args => .ok args
  | text s => Bracket.parse scalars s
  | scalar (.text s) => Bracket.parse scalars s
  | scalar a => .ok [a]

end RawValue

namespace RawParams

def ofPairs (pairs : List (String × String)) : RawParams :=
  .ofList (pairs.map fun p => (p.1, .text p.2))

def parse (scalars : Bracket.Scalars) (raw : RawParams) : Params :=
  raw.mapValues (·.parse scalars)

end RawParams

namespace Params

/-- The arguments under a name, if its value is well-formed. -/
def args? (ps : Params) (key : String) : Option (List Arg) :=
  match ps.get? key with
  | some (.ok args) => some args
  | _ => none

def first? (ps : Params) (key : String) : Option Arg := (ps.args? key).bind List.head?

def wellFormed (ps : Params) : List (String × List Arg) :=
  ps.entries.filterMap fun e =>
    match e.2 with
    | .ok args => some (e.1, args)
    | .error _ => none

/-- The number of well-formed parameters. -/
def count (ps : Params) : Nat := ps.wellFormed.length

def malformed (ps : Params) : List (String × Bracket.Malformed) :=
  ps.entries.filterMap fun e =>
    match e.2 with
    | .ok _ => none
    | .error m => some (e.1, m)

end Params
end QueryGate
