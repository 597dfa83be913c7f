import QueryGate.Data.Basic
import QueryGate.Text.Hex
import QueryGate.Yaml.Token

/-! Scalars as values. A tag of the core schema decides what a scalar is; without a tag a plain one is what it spells
and any other a text. -/
namespace QueryGate
namespace Yaml

/-- The value of a run of digits of a base, at least one. -/
def digitsOf? (base : Nat) (cs : List Char) : Option Nat :=
  if cs.isEmpty then none
  else cs.foldlM (fun n c => do
    let d ← Text.hexValue? c
    if d < base then some (base * n + d) else none) 0

/-- Whether a decimal number has zeros in front that it does not need. -/
def isPadded : List Char → Bool
  | '0' :: d :: rest => (d :: rest).all Char.isDigit
  | _ => false

/-- A number without its sign: in hexadecimal, octal or binary digits, or in decimal ones. -/
def magnitude? : List Char → Option Nat
  | '0' :: 'x' :: rest => digitsOf? 16 rest
  | '0' :: 'o' :: rest => digitsOf? 8 rest
  | '0' :: 'b' :: rest => digitsOf? 2 rest
  | cs => if isPadded cs then none else digitsOf? 10 cs

def dropPlus : List Char → List Char
  | '+' :: rest => rest
  | cs => cs

def isSigned : List Char → Bool
  | '+' :: _ => true
  | '-' :: _ => true
  | _ => false

def dropSign (cs : List Char) : List Char := if isSigned cs then cs.tail else cs

/-- A number that is not negative, of at most a given value. -/
def natural? (limit : Nat) (cs : List Char) : Option Nat := (magnitude? (dropPlus cs)).filter (· ≤ limit)

/-- A whole number that fits into 128 bits. -/
def whole? : List Char → Option Int
  | '-' :: rest => ((magnitude? rest).filter (· ≤ Nat.pow 2 127)).map fun n => -Int.ofNat n
  | cs => (natural? (Nat.pow 2 128 - 1) cs).map Int.ofNat

/-- A whole number as data. One that takes more than 64 bits is at fault. -/
def ofWhole? (i : Int) : Option Data :=
  if Int64.minValue.toInt ≤ i ∧ i < UInt64.size then some (.int i) else none

def bool? (cs : List Char) : Option Bool :=
  if ["true", "True", "TRUE"].contains (String.ofList cs) then some true
  else if ["false", "False", "FALSE"].contains (String.ofList cs) then some false
  else none

def isNull (cs : List Char) : Bool := ["null", "Null", "NULL", "~"].contains (String.ofList cs)

def isInfinity (cs : List Char) : Bool := [".inf", ".Inf", ".INF"].contains (String.ofList cs)

def isUndefined (cs : List Char) : Bool := [".nan", ".NaN", ".NAN"].contains (String.ofList cs)

/-- A number of the binary64 format, or one of the special ones by its own name. -/
def float? (cs : List Char) : Option Binary64 :=
  let unsigned := dropPlus cs
  if isUndefined cs then some .nan
  else if isInfinity unsigned then some (.infinite false)
  else if cs.head? = some '-' && isInfinity cs.tail then some (.infinite true)
  else if unsigned ≠ cs && isSigned unsigned then none
  else (Binary64.read? unsigned).filter Binary64.isFinite

/-- What a plain scalar spells. -/
def untagged? (cs : List Char) : Option Data :=
  if cs.isEmpty || isNull cs then some .null
  else
    match bool? cs, whole? cs, float? cs with
    | some b, _, _ => some (.bool b)
    | _, some i, _ => ofWhole? i
    | _, _, some x => some (if isPadded (dropSign cs) then .text (String.ofList cs) else .float x)
    | _, _, _ => some (.text (String.ofList cs))

/-- The tags that decide what a scalar is. -/
inductive CoreTag
  | bool | int | float | null
  deriving DecidableEq

namespace CoreTag

def name : CoreTag → String
  | bool => "tag:yaml.org,2002:bool"
  | int => "tag:yaml.org,2002:int"
  | float => "tag:yaml.org,2002:float"
  | null => "tag:yaml.org,2002:null"

def ofTag? (tag : List UInt8) : Option CoreTag :=
  [bool, int, float, null].find? fun core => Text.encodeUtf8 core.name.toList = tag

end CoreTag

/-- Whether a tag begins with an exclamation mark, as those of an application do. -/
def isLocal (tag : List UInt8) : Bool := tag.head? == (Text.encodeChar '!').head?

/-- Whether a tag is one of an application; no value has one. Bytes that are no text make none. -/
def isForeign (tag : Option (List UInt8)) : Bool :=
  tag.any fun bytes => isLocal bytes && (Text.decodeUtf8? bytes).isSome

/-- The value of a scalar, unless its tag does not suit it. -/
def scalarValue? (tag : Option (List UInt8)) (style : Style) (cs : List Char) : Option Data :=
  if isForeign tag then none
  else
    match tag, tag.bind CoreTag.ofTag? with
    | _, some .bool => (bool? cs).map .bool
    | _, some .int => (whole? cs).bind ofWhole?
    | _, some .float => (float? cs).map .float
    | _, some .null => if isNull cs then some .null else none
    | _, none => if style = .plain && tag.all isLocal then untagged? cs else some (.text (String.ofList cs))

end Yaml
end QueryGate
