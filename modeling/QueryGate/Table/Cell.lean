import QueryGate.Data.Basic
import QueryGate.Table.Sorting

/-! Cells: what a column of a row holds. Lists, maps and missing values are all without a value. -/
namespace QueryGate

inductive Cell
  | missing
  | text (s : String)
  | number (n : Number)
  | bool (b : Bool)
  deriving DecidableEq

namespace Cell

def ofData : Data → Cell
  | .text s => text s
  | .bool b => bool b
  | .int i => match Data.number? (.int i) with
    | some n => number n
    | none => missing
  | .float x => number (.real x)
  | _ => missing

def text? : Cell → Option String
  | text s => some s
  | _ => none

def number? : Cell → Option Number
  | number n => some n
  | _ => none

def bool? : Cell → Option Bool
  | bool b => some b
  | _ => none

def isMissing : Cell → Bool
  | missing => true
  | _ => false

/-- The text that a value reads as. -/
def shown? : Cell → Option String
  | missing => none
  | text s => some s
  | number n => some (String.ofList n.text)
  | bool b => some (if b then "true" else "false")

/-- Equality of kind and value, where the undefined number differs from itself. -/
def same : Cell → Cell → Bool
  | missing, missing => true
  | text s, text t => s == t
  | number m, number n => m.same n
  | bool a, bool b => a == b
  | _, _ => false

/-- The order of two cells of one kind: texts by code points, and false before true. A missing value comes behind
every other; values of different kinds have no order. -/
def compare? : Cell → Cell → Option Ordering
  | text s, text t => some (compare s t)
  | number m, number n => m.compare? n
  | bool a, bool b => some (compare a b)
  | missing, missing => some .eq
  | missing, _ => some .gt
  | _, missing => some .lt
  | _, _ => none

end Cell

/-- Rows with named columns, which a sort may fail to put in order. -/
class Row (R : Type) extends Disorder R where
  cell : R → String → Cell

/-- Data with the columns of its keys; what is no map has none. -/
def Data.cell (d : Data) (column : String) : Cell :=
  match d with
  | .map entries => (field? entries column).elim .missing Cell.ofData
  | _ => .missing

instance : Row Data := { Disorder.ofInsertion with cell := Data.cell }

end QueryGate
