import QueryGate.Yaml.Node
import QueryGate.Yaml.Scalar

/-! Shapes: what a document is expected to hold. Where a shape asks for a text, a scalar gives the one that it is
written with; where it asks for nothing in particular, a scalar is what it spells. -/
namespace QueryGate
namespace Yaml

/-- A word is a natural number of 64 bits. -/
inductive Shape
  | text | bool | word | optionalWord | any
  | record (fields : List (String × Shape))
  | list (item : Shape)

/-- What the aliases of a document lead to, and how often any of them may be followed in total. -/
structure Anchored where
  nodes : List (Nat × Node)
  limit : Nat

namespace Anchored

/-- A number that two anchors have leads to the later one. -/
def ofRoot (root : Node) : Anchored where
  nodes := (root.inOrder.filterMap fun n => n.anchor?.map (·, n)).reverse
  limit := 100 * root.inOrder.foldl (fun marks n => marks + n.markCount) 0

end Anchored

/-- A reader of nodes, which counts the aliases that it follows. -/
abbrev Reading := StateT Nat Option

namespace Reading

def ofOption {α : Type} (a : Option α) : Reading α := fun n => a.map (·, n)

def fail {α : Type} : Reading α := ofOption none

/-- The node itself, behind an alias. -/
def follow (as : Anchored) (node : Node) : Reading Node :=
  match node with
  | .aliasOf number => fun followed => do
    if followed < as.limit then some (← as.nodes.lookup number, followed + 1) else none
  | _ => return node

/-- Whether a scalar may be read as what a core tag names: a plain one may in any case, and one of literal lines if it
has that tag. -/
def suits (core : CoreTag) (label : Label) (style : Style) : Bool :=
  style = .plain || (style = .literal && label.tag.bind CoreTag.ofTag? = some core)

def readWord (label : Label) (style : Style) (cs : List Char) : Reading Data :=
  if suits .int label style then ofOption ((natural? (UInt64.size - 1) cs).map fun n => .int n) else fail

/-- Whether a scalar stands for nothing at all; a tag that says so has to be right. -/
def absent? (label : Label) (style : Style) (cs : List Char) : Option Bool :=
  if style ≠ .plain then some false
  else
    match label.tag, label.tag.bind CoreTag.ofTag? with
    | none, _ => some (cs.isEmpty || isNull cs)
    | _, some .null => if isNull cs then some true else none
    | _, _ => some false

/-- The entries of a record. No field may be given twice, or once if it is among those in `seen`; entries of other
names are not read at all. -/
def readFields (readName : Node → Reading String) (readField : Shape → Node → Reading Data)
    (fields : List (String × Shape)) (seen : List String) : List (Node × Node) → Reading (List (Data × Data))
  | [] => return []
  | (key, value) :: rest => do
    let name ← readName key
    match fields.lookup name with
    | none => readFields readName readField fields seen rest
    | some shape =>
      if seen.contains name then fail
      else
        let d ← readField shape value
        return (.text name, d) :: (← readFields readName readField fields (name :: seen) rest)

/-- A key as data. Minus zero is no whole number there, so that no key with a sign stands for a position. -/
def readKey (as : Anchored) (read : Node → Reading Data) (key : Node) : Reading Data := do
  let node ← follow as key
  match node, ← read node with
  | .scalar _ _ ('-' :: _), .int 0 => return .float (.zero true)
  | _, d => return d

def readEntries (as : Anchored) (read : Node → Reading Data) : List (Node × Node) → Reading (List (Data × Data))
  | [] => return []
  | (key, value) :: rest => do
    let k ← readKey as read key
    let v ← read value
    return (k, v) :: (← readEntries as read rest)

def readText (as : Anchored) (node : Node) : Reading String := do
  match ← follow as node with
  | .scalar _ _ cs => return String.ofList cs
  | _ => fail

def readAny (as : Anchored) : Nat → Node → Reading Data := fun depth node => do
  match ← follow as node, depth with
  | .scalar label style cs, _ => ofOption (scalarValue? label.tag style cs)
  | .sequence label items, depth + 1 =>
    if isForeign label.tag then fail else return .list (← items.mapM (readAny as depth))
  | .mapping label entries, depth + 1 =>
    if isForeign label.tag then fail else return .map (← readEntries as (readAny as depth) entries)
  | _, _ => fail

/-- The data of a node in a shape. A list or record that is left out is empty; `depth` bounds how deep collections
lie in one another. -/
def read (as : Anchored) : Nat → Shape → Node → Reading Data := fun depth shape node => do
  match shape with
  | .any => readAny as depth node
  | .text => return .text (← readText as node)
  | .bool =>
    match ← follow as node with
    | .scalar label style cs => if suits .bool label style then ofOption ((bool? cs).map .bool) else fail
    | _ => fail
  | .word =>
    match ← follow as node with
    | .scalar label style cs => readWord label style cs
    | _ => fail
  | .optionalWord =>
    match ← follow as node with
    | .scalar label style cs =>
      match ← ofOption (absent? label style cs) with
      | true => return .null
      | false => readWord label style cs
    | _ => fail
  | .list item =>
    match ← follow as node, depth with
    | .scalar _ .plain [], _ => return .list []
    | .sequence _ items, depth + 1 => return .list (← items.mapM (read as depth item))
    | _, _ => fail
  | .record fields =>
    match ← follow as node, depth with
    | .scalar _ .plain [], _ => return .map []
    | .mapping _ entries, depth + 1 =>
      return .map (← readFields (readText as) (read as depth) fields [] entries)
    | _, _ => fail

end Reading

/-- The most collections that may lie in one another. -/
def nestingLimit : Nat := 128

/-- The data of a document in a shape. -/
def Shape.read? (shape : Shape) (text : String) : Option Data := do
  let root ← Node.ofText? text
  (Reading.read (.ofRoot root) nestingLimit shape root).run' 0

end Yaml
end QueryGate
