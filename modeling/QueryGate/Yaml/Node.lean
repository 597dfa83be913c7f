import QueryGate.Yaml.Token

/-! Nodes: what the tokens of a document say, before aliases are followed and scalars are read as values. -/
namespace QueryGate
namespace Yaml

/-- What may stand in front of a node: the number of its anchor, and its full tag. -/
structure Label where
  anchor : Option Nat := none
  tag : Option (List UInt8) := none

inductive Node
  | aliasOf (anchor : Nat)
  | scalar (label : Label) (style : Style) (text : List Char)
  | sequence (label : Label) (items : List Node)
  | mapping (label : Label) (entries : List (Node × Node))

namespace Node

/-- A node that is left out. -/
def empty (label : Label) : Node := scalar label .plain []

def anchor? : Node → Option Nat
  | aliasOf _ => none
  | scalar label _ _ => label.anchor
  | sequence label _ => label.anchor
  | mapping label _ => label.anchor

mutual

/-- A node and all nodes within it, in the order in which they begin. -/
def inOrder : Node → List Node
  | aliasOf a => [aliasOf a]
  | scalar l s t => [scalar l s t]
  | sequence l items => sequence l items :: itemsInOrder items
  | mapping l entries => mapping l entries :: entriesInOrder entries

def itemsInOrder : List Node → List Node
  | [] => []
  | n :: rest => inOrder n ++ itemsInOrder rest

def entriesInOrder : List (Node × Node) → List Node
  | [] => []
  | e :: rest => entryInOrder e ++ entriesInOrder rest

def entryInOrder : Node × Node → List Node
  | (key, value) => inOrder key ++ inOrder value

end

/-- The beginnings and ends of nodes; those of a scalar or an alias are one. -/
def markCount : Node → Nat
  | aliasOf _ => 1
  | scalar _ _ _ => 1
  | sequence _ _ => 2
  | mapping _ _ => 2

end Node

/-- The tokens to come, the front parts that tag handles stand for, and the numbers of the anchors so far. -/
structure Feed where
  tokens : List Token
  handles : List (List Char × List UInt8)
  anchors : List (List Char × Nat)

/-- A reader of tokens, which may find a fault. -/
abbrev Build := StateT Feed Option

namespace Build

def fail {α : Type} : Build α := fun _ => none

def peek : Build (Option Token) := fun f => some (f.tokens.head?, f)

def next : Build Unit := modify fun f => { f with tokens := f.tokens.tail }

/-- A bound on the number of members of a collection. -/
def remaining : Build Nat := do return (← get).tokens.length + 1

/-- An anchor has the number of different names in front of it, and a later one of its name takes its place. -/
def placeAnchor (name : List Char) : Build Nat := do
  let known := (← get).anchors
  let number := known.length
  modify fun f => { f with anchors := (name, number) :: known.filter (·.1 ≠ name) }
  return number

def resolveAlias (name : List Char) : Build Node := do
  match (← get).anchors.lookup name with
  | some number => return .aliasOf number
  | none => fail

def resolveTag (t : Tag) : Build (List UInt8) := do
  if t.handle.isEmpty then return t.rest
  else
    match (← get).handles.lookup t.handle with
    | some front => return front ++ t.rest
    | none => fail

def readAnchor? : Build (Option Nat) := do
  match ← peek with
  | some (.anchor name) =>
    next
    return some (← placeAnchor name)
  | _ => return none

def readTag? : Build (Option (List UInt8)) := do
  match ← peek with
  | some (.tag t) =>
    next
    return some (← resolveTag t)
  | _ => return none

/-- An anchor and a tag in either order; both may be left out. -/
def readLabel : Build Label := do
  match ← readAnchor? with
  | some anchor => return ⟨some anchor, ← readTag?⟩
  | none =>
    match ← readTag? with
    | some tag => return ⟨← readAnchor?, some tag⟩
    | none => return {}

/-- Where a node stands: inside brackets there are no block collections, and as a part of a block mapping it may be
a sequence that is not indented. -/
inductive Place
  | block | entry | flow
  deriving DecidableEq

/-- A node, unless one of the tokens that end or separate nodes stands here. -/
def orEmpty (ends : Option Token → Bool) (node : Build Node) : Build Node := do
  if ends (← peek) then return .empty {} else node

def endsItem : Option Token → Bool
  | some .item => true
  | some .blockEnd => true
  | _ => false

def endsLooseItem : Option Token → Bool
  | some .key => true
  | some .value => true
  | t => endsItem t

def endsBlockEntry : Option Token → Bool
  | some .key => true
  | some .value => true
  | some .blockEnd => true
  | _ => false

def endsPairKey : Option Token → Bool
  | some .value => true
  | some .comma => true
  | some .closeSequence => true
  | _ => false

def endsPairValue : Option Token → Bool
  | some .comma => true
  | some .closeSequence => true
  | _ => false

def endsFlowKey : Option Token → Bool
  | some .value => true
  | some .comma => true
  | some .closeMapping => true
  | _ => false

def endsFlowValue : Option Token → Bool
  | some .comma => true
  | some .closeMapping => true
  | _ => false

/-- The items of an indented sequence, up to its end. -/
def readItems (node : Build Node) : Nat → Build (List Node)
  | 0 => fail
  | fuel + 1 => do
    match ← peek with
    | some .item =>
      next
      let n ← orEmpty endsItem node
      return n :: (← readItems node fuel)
    | some .blockEnd =>
      next
      return []
    | _ => fail

/-- The items of a sequence that is not indented; anything else ends it. -/
def readLooseItems (node : Build Node) : Nat → Build (List Node)
  | 0 => fail
  | fuel + 1 => do
    match ← peek with
    | some .item =>
      next
      let n ← orEmpty endsLooseItem node
      return n :: (← readLooseItems node fuel)
    | _ => return []

/-- The value behind its token; without the token it is left out. -/
def readValue (ends : Option Token → Bool) (node : Build Node) : Build Node := do
  match ← peek with
  | some .value =>
    next
    orEmpty ends node
  | _ => return .empty {}

def readBlockEntries (node : Build Node) : Nat → Build (List (Node × Node))
  | 0 => fail
  | fuel + 1 => do
    match ← peek with
    | some .key =>
      next
      let key ← orEmpty endsBlockEntry node
      let value ← readValue endsBlockEntry node
      return (key, value) :: (← readBlockEntries node fuel)
    | some .blockEnd =>
      next
      return []
    | _ => fail

/-- The comma in front of a member that is not the first. -/
def readComma (first : Bool) : Build Unit := do
  if !first then
    match ← peek with
    | some .comma => next
    | _ => fail

/-- A mapping of one entry inside a sequence, behind the token of its key. Where the key is left out, the token that
shows it is passed over. -/
def readPair (node : Build Node) : Build Node := do
  let key ← do
    if endsPairKey (← peek) then
      next
      pure (Node.empty {})
    else node
  let value ← readValue endsPairValue node
  return .mapping {} [(key, value)]

/-- The items between brackets. A comma may stand behind the last one. -/
def readFlowItems (node : Build Node) : Nat → Bool → Build (List Node)
  | 0, _ => fail
  | fuel + 1, first => do
    match ← peek with
    | some .closeSequence =>
      next
      return []
    | _ =>
      readComma first
      match ← peek with
      | some .closeSequence =>
        next
        return []
      | some .key =>
        next
        let pair ← readPair node
        return pair :: (← readFlowItems node fuel false)
      | _ =>
        let n ← node
        return n :: (← readFlowItems node fuel false)

/-- The entries between braces. A node without the token of a key is a key without a value. -/
def readFlowEntries (node : Build Node) : Nat → Bool → Build (List (Node × Node))
  | 0, _ => fail
  | fuel + 1, first => do
    match ← peek with
    | some .closeMapping =>
      next
      return []
    | _ =>
      readComma first
      match ← peek with
      | some .closeMapping =>
        next
        return []
      | some .key =>
        next
        let key ← orEmpty endsFlowKey node
        let value ← readValue endsFlowValue node
        return (key, value) :: (← readFlowEntries node fuel false)
      | _ =>
        let key ← node
        return (key, .empty {}) :: (← readFlowEntries node fuel false)

/-- A node; `depth` bounds how deep its parts lie. -/
def readNode : Nat → Place → Build Node
  | 0, _ => fail
  | depth + 1, place => do
    match ← peek with
    | some (.aliasOf name) =>
      next
      resolveAlias name
    | _ =>
      let label ← readLabel
      match ← peek with
      | some (.scalar text style) =>
        next
        return .scalar label style text
      | some .openSequence =>
        next
        return .sequence label (← readFlowItems (readNode depth .flow) (← remaining) true)
      | some .openMapping =>
        next
        return .mapping label (← readFlowEntries (readNode depth .flow) (← remaining) true)
      | t =>
        match place, t with
        | .entry, some .item => return .sequence label (← readLooseItems (readNode depth .block) (← remaining))
        | .flow, _ => bare label
        | _, some .blockSequence =>
          next
          return .sequence label (← readItems (readNode depth .block) (← remaining))
        | _, some .blockMapping =>
          next
          return .mapping label (← readBlockEntries (readNode depth .entry) (← remaining))
        | _, _ => bare label
where
  /-- A label alone stands for a node that is left out. -/
  bare (label : Label) : Build Node :=
    if label.anchor.isSome || label.tag.isSome then return .empty label else fail

/-- The directives in front of a document: one version at most, and no tag handle twice. -/
def readDirectives (version : Bool) : Nat → Build Unit
  | 0 => fail
  | fuel + 1 => do
    match ← peek with
    | some (.directive (.version major minor)) =>
      if version || major ≠ 1 || (minor ≠ 1 && minor ≠ 2) then fail
      else
        next
        readDirectives true fuel
    | some (.directive (.tag handle front)) =>
      if ((← get).handles.lookup handle).isSome then fail
      else
        next
        modify fun f => { f with handles := f.handles ++ [(handle, front)] }
        readDirectives version fuel
    | _ => return ()

/-- The tag handles that need no directive. -/
def standardHandles : List (List Char × List UInt8) :=
  [(['!'], Text.encodeChar '!'), (['!', '!'], Text.encodeUtf8 "tag:yaml.org,2002:".toList)]

def endsDocument : Option Token → Bool
  | none => true
  | some .documentStart => true
  | some .documentEnd => true
  | some (.directive _) => true
  | _ => false

/-- The root of a document; in a stream without tokens it is left out. Behind directives the start of the document has
to be marked. -/
def readRoot : Build Node := do
  let depth ← remaining
  let directed := (← peek) matches some (.directive _)
  readDirectives false depth
  modify fun f => { f with handles := f.handles ++ standardHandles }
  match ← peek, directed with
  | some .documentStart, _ =>
    next
    orEmpty endsDocument (readNode depth .block)
  | none, false => return .empty {}
  | some _, false => readNode depth .block
  | _, true => fail

def skipDocumentEnds : Build Unit := modify fun f =>
  { f with tokens := f.tokens.dropWhile fun t => t matches .documentEnd }

end Build

/-- The root of the one document that tokens stand for; nothing may follow it. -/
def Node.ofTokens? (tokens : List Token) : Option Node := do
  let (root, f) ← (do
    let root ← Build.readRoot
    Build.skipDocumentEnds
    return root : Build Node).run ⟨tokens, [], []⟩
  if f.tokens.isEmpty then some root else none

def Node.ofText? (text : String) : Option Node := do ofTokens? (← Token.ofText? text)

end Yaml
end QueryGate
