import QueryGate.Arg

/-! Structured data: the trees that a JSON text, a configuration document or a row is read into. The keys of a
map are data too and keep their order and repetitions. -/
namespace QueryGate

inductive Data
  | null
  | bool (b : Bool)
  | int (i : Int)
  | float (x : Binary64)
  | text (s : String)
  | list (items : List Data)
  | map (entries : List (Data × Data))
  deriving Inhabited

namespace Data

/-- A whole number of 64 bits, if it lies in their range. -/
def int64? (i : Int) : Option Int64 :=
  if Int64.minValue.toInt ≤ i ∧ i ≤ Int64.maxValue.toInt then some (Int64.ofInt i) else none

/-- A number as it stands; a whole number beyond 64 bits with sign is rounded to binary64. -/
def number? : Data → Option Number
  | int i =>
    match int64? i with
    | some n => some (.whole n)
    | none => some (.real (.ofInt i))
  | float x => some (.real x)
  | _ => none

def arg? : Data → Option Arg
  | bool b => some (.bool b)
  | int i =>
    match int64? i with
    | some n => some (.int n)
    | none => some (.float (.ofInt i))
  | float x => some (.float x)
  | text s => some (.text s)
  | _ => none

def args? : Data → Option (List Arg)
  | list items => items.mapM arg?
  | _ => none

def text? : Data → Option String
  | text s => some s
  | _ => none

/-- The value of the last entry with a given text as key. -/
def field? (entries : List (Data × Data)) (name : String) : Option Data :=
  entries.foldl (fun found e => if e.1.text? = some name then some e.2 else found) none

/-- Data holds finite numbers only; nothing stands for any other. -/
def ofFloat (x : Binary64) : Data := if x.isFinite then float x else null

def ofNumber : Number → Data
  | .whole n => int n.toInt
  | .real x => ofFloat x

def ofArg : Arg → Data
  | .bool b => bool b
  | .int n => int n.toInt
  | .float x => ofFloat x
  | .text s => text s

end Data
end QueryGate
