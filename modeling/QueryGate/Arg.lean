import QueryGate.Number

/-! Arguments: booleans, whole numbers, binary64 numbers and texts. The kinds never mix; the text `1` and the
number 1 are different arguments, and reading a text as a number is a separate view. -/
namespace QueryGate

inductive Arg
  | bool (b : Bool)
  | int (n : Int64)
  | float (x : Binary64)
  | text (s : String)
  deriving DecidableEq

namespace Arg

def kind : Arg → String
  | bool _ => "bool"
  | int _ => "int"
  | float _ => "float"
  | text _ => "string"

def isBool : Arg → Bool
  | bool _ => true
  | _ => false

def isInt : Arg → Bool
  | int _ => true
  | _ => false

def isFloat : Arg → Bool
  | float _ => true
  | _ => false

def isText : Arg → Bool
  | text _ => true
  | _ => false

def text? : Arg → Option String
  | text s => some s
  | _ => none

def int? : Arg → Option Int64
  | int n => some n
  | _ => none

def bool? : Arg → Option Bool
  | bool b => some b
  | _ => none

/-- The numeric view: numbers, and texts that spell one. -/
def number? : Arg → Option Number
  | bool _ => none
  | int n => some (.whole n)
  | float x => some (.real x)
  | text s => Number.read? s.toList

def isNumeric (a : Arg) : Bool := a.number?.isSome

/-- The whole number of the numeric view. -/
def integer? (a : Arg) : Option Int64 :=
  match a.number? with
  | some (.whole n) => some n
  | _ => none

/-- The text of an argument in a sentence; a text is itself. -/
def toText : Arg → String
  | bool b => if b then "true" else "false"
  | int n => String.ofList (Binary64.integerText n.toInt)
  | float x => String.ofList (x.text .plain)
  | text s => s

/-- Equality of kind and value, where the undefined number differs from itself. -/
def same : Arg → Arg → Bool
  | bool a, bool b => a == b
  | int a, int b => a == b
  | float x, float y => x.equal y
  | text s, text t => s == t
  | _, _ => false

/-- The narrowest argument that a token spells. A number must fill the token, without blanks around it. -/
def infer (token : String) : Arg :=
  if token = "true" then bool true
  else if token = "false" then bool false
  else if Text.trim token.toList = token.toList then
    match Number.read? token.toList with
    | some (.whole n) => int n
    | some (.real x) => float x
    | none => text token
  else text token

end Arg
end QueryGate
