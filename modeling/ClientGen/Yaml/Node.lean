import ClientGen.Yaml.Token

/-!
# Nodes of YAML

The tokens of a text make up at most one document, which is a node: a scalar, a sequence, a mapping
or an alias of a node that an anchor marks. Anchors are numbered in the order in which their names
first occur; an anchor whose name was used before takes the number that the next new name would
get.
-/

namespace ClientGen.Yaml

/-- A node. Tags are given in full. -/
inductive Node where
  | scalar (tag : Option String) (anchor : Option Nat) (style : ScalarStyle) (text : String)
  | sequence (tag : Option String) (anchor : Option Nat) (items : List Node)
  | mapping (tag : Option String) (anchor : Option Nat) (entries : List (Node × Node))
  | alias (anchor : Nat)

instance : Inhabited Node := ⟨.scalar none none .plain ""⟩

namespace Node

mutual

/-- How many events a node consists of: one for a scalar or an alias, and two for the ends of a
collection beside those of its parts. -/
def eventCount : Node → Nat
  | .scalar .. | .alias _ => 1
  | .sequence _ _ items => eventCountItems items + 2
  | .mapping _ _ entries => eventCountEntries entries + 2

/-- How many events nodes consist of. -/
def eventCountItems : List Node → Nat
  | [] => 0
  | item :: rest => eventCount item + eventCountItems rest

/-- How many events keys and values consist of. -/
def eventCountEntries : List (Node × Node) → Nat
  | [] => 0
  | (key, value) :: rest => eventCount key + eventCount value + eventCountEntries rest

end

mutual

/-- The nodes with anchors in a node, each before the nodes inside it. -/
def anchored : Node → List (Nat × Node)
  | .scalar tag anchor style text =>
    anchor.toList.map fun n => (n, .scalar tag anchor style text)
  | .alias _ => []
  | .sequence tag anchor items =>
    (anchor.toList.map fun n => (n, .sequence tag anchor items)) ++ anchoredItems items
  | .mapping tag anchor entries =>
    (anchor.toList.map fun n => (n, .mapping tag anchor entries)) ++ anchoredEntries entries

/-- The nodes with anchors in nodes. -/
def anchoredItems : List Node → List (Nat × Node)
  | [] => []
  | item :: rest => anchored item ++ anchoredItems rest

/-- The nodes with anchors in keys and values. -/
def anchoredEntries : List (Node × Node) → List (Nat × Node)
  | [] => []
  | (key, value) :: rest => anchored key ++ anchored value ++ anchoredEntries rest

end

end Node

/-! ## Nodes from tokens -/

/-- What is left to read: the tokens, and the names of the anchors read so far with their
numbers. -/
structure Reading where
  tokens : List Token
  anchors : List (List Char × Nat)

/-- A step of reading, which fails on tokens that make up no document. -/
abbrev Reader := StateT Reading Option

namespace Reader

/-- The next token. -/
def peek : Reader (Option Token) := do
  return (← get).tokens.head?

/-- Passes the next token. -/
def advance : Reader Unit :=
  modify fun r => { r with tokens := r.tokens.drop 1 }

/-- Passes the next token, if it is the one given. -/
def accept (token : Token) : Reader Bool := do
  if (← peek) = some token then
    advance
    return true
  else return false

/-- Numbers an anchor. -/
def define (name : List Char) : Reader Nat := do
  let r ← get
  let number := r.anchors.length
  let anchors :=
    if r.anchors.any fun a => a.1 == name then
      r.anchors.map fun a => if a.1 == name then (name, number) else a
    else r.anchors ++ [(name, number)]
  set { r with anchors }
  return number

/-- The number of an anchor that has been defined. -/
def resolve (name : List Char) : Reader Nat := do
  match (← get).anchors.lookup name with
  | some number => return number
  | none => failure

end Reader

open Reader (peek advance accept define resolve)

/-- The stems of tag handles. -/
abbrev TagStems := List (List Char × List Char)

/-- The stems of the handles that need no directive. -/
def defaultStems : TagStems :=
  [(['!'], ['!']), (['!', '!'], "tag:yaml.org,2002:".toList)]

/-- The full form of a tag. -/
def fullTag (stems : TagStems) (handle suffix : List Char) : Reader String :=
  if handle = [] then return String.ofList suffix
  else
    match stems.lookup handle with
    | some stem => return String.ofList (stem ++ suffix)
    | none => failure

/-- Reads the anchor and the tag of a node, in either order. -/
def readProperties (stems : TagStems) : Reader (Option String × Option Nat) := do
  let readAnchor : Reader (Option Nat) := do
    match ← peek with
    | some (.anchor name) =>
      advance
      return some (← define name)
    | _ => return none
  let readTag : Reader (Option String) := do
    match ← peek with
    | some (.tag handle suffix) =>
      advance
      return some (← fullTag stems handle suffix)
    | _ => return none
  match ← readAnchor with
  | some anchor => return (← readTag, some anchor)
  | none =>
    let tag ← readTag
    if tag.isSome then return (tag, ← readAnchor) else return (none, none)

/-- A scalar that is not written at all. -/
def emptyScalar : Node := .scalar none none .plain ""

/-- Whether the next token is one of those before which a node is left empty. -/
def isAbsent (stops : List Token) : Reader Bool := do
  match ← peek with
  | some token => return stops.contains token
  | none => return false

mutual

/-- Reads a node. Block collections are read only where `inBlock` says so, and sequences without
indentation only where `indentless` does. A scalar tagged with a bare exclamation mark has no
tag. -/
def readNode (stems : TagStems) : Nat → Bool → Bool → Reader Node
  | 0, _, _ => failure
  | fuel + 1, inBlock, indentless => do
    match ← peek with
    | some (.alias name) =>
      let number ← resolve name
      advance
      return .alias number
    | _ =>
      let (tag, anchor) ← readProperties stems
      let orEmpty : Reader Node :=
        if tag.isSome || anchor.isSome then return .scalar tag anchor .plain "" else failure
      match ← peek with
      | some (.scalar style text) =>
        advance
        return .scalar (tag.filter (· ≠ "!")) anchor style (String.ofList text)
      | some .flowSequenceStart =>
        advance
        return .sequence tag anchor (← readFlowItems stems fuel true)
      | some .flowMappingStart =>
        advance
        return .mapping tag anchor (← readFlowEntries stems fuel true)
      | some .blockEntry =>
        if indentless then return .sequence tag anchor (← readIndentless stems fuel) else orEmpty
      | some .blockSequenceStart =>
        if inBlock then
          advance
          return .sequence tag anchor (← readBlockItems stems fuel)
        else orEmpty
      | some .blockMappingStart =>
        if inBlock then
          advance
          return .mapping tag anchor (← readBlockEntries stems fuel)
        else orEmpty
      | _ => orEmpty

/-- Reads a node, or nothing before one of the tokens given. -/
def readUnless (stems : TagStems) :
    Nat → List Token → Bool → Bool → Reader Node
  | 0, _, _, _ => failure
  | fuel + 1, stops, inBlock, indentless => do
    if ← isAbsent stops then return emptyScalar else readNode stems fuel inBlock indentless

/-- Reads the items of a block sequence up to its end. -/
def readBlockItems (stems : TagStems) : Nat → Reader (List Node)
  | 0 => failure
  | fuel + 1 => do
    if ← accept .blockEnd then return []
    else if ← accept .blockEntry then
      let item ← readUnless stems fuel [.blockEntry, .blockEnd] true false
      return item :: (← readBlockItems stems fuel)
    else failure

/-- Reads the items of a sequence that is not indented; it ends before any other token. -/
def readIndentless (stems : TagStems) : Nat → Reader (List Node)
  | 0 => failure
  | fuel + 1 => do
    if ← accept .blockEntry then
      let item ← readUnless stems fuel [.blockEntry, .key, .value, .blockEnd] true false
      return item :: (← readIndentless stems fuel)
    else return []

/-- Reads the entries of a block mapping up to its end. -/
def readBlockEntries (stems : TagStems) : Nat → Reader (List (Node × Node))
  | 0 => failure
  | fuel + 1 => do
    if ← accept .blockEnd then return []
    else if ← accept .key then
      let key ← readUnless stems fuel [.key, .value, .blockEnd] true true
      let value ←
        if ← accept .value then readUnless stems fuel [.key, .value, .blockEnd] true true
        else pure emptyScalar
      return (key, value) :: (← readBlockEntries stems fuel)
    else failure

/-- Reads the items of a flow sequence up to its end. A key makes an item a mapping of one
entry. -/
def readFlowItems (stems : TagStems) : Nat → Bool → Reader (List Node)
  | 0, _ => failure
  | fuel + 1, isFirst => do
    if ← accept .flowSequenceEnd then return []
    else
      unless isFirst do
        unless ← accept .flowEntry do failure
      if ← accept .flowSequenceEnd then return []
      else if ← accept .key then
        let key ←
          if ← isAbsent [.value, .flowEntry, .flowSequenceEnd] then
            advance
            pure emptyScalar
          else readNode stems fuel false false
        let value ←
          if ← accept .value then
            readUnless stems fuel [.flowEntry, .flowSequenceEnd] false false
          else pure emptyScalar
        return .mapping none none [(key, value)] :: (← readFlowItems stems fuel false)
      else
        let item ← readNode stems fuel false false
        return item :: (← readFlowItems stems fuel false)

/-- Reads the entries of a flow mapping up to its end. -/
def readFlowEntries (stems : TagStems) : Nat → Bool → Reader (List (Node × Node))
  | 0, _ => failure
  | fuel + 1, isFirst => do
    if ← accept .flowMappingEnd then return []
    else
      unless isFirst do
        unless ← accept .flowEntry do failure
      if ← accept .flowMappingEnd then return []
      else if ← accept .key then
        let key ← readUnless stems fuel [.value, .flowEntry, .flowMappingEnd] false false
        let value ←
          if ← accept .value then
            readUnless stems fuel [.flowEntry, .flowMappingEnd] false false
          else pure emptyScalar
        return (key, value) :: (← readFlowEntries stems fuel false)
      else
        let key ← readNode stems fuel false false
        return (key, emptyScalar) :: (← readFlowEntries stems fuel false)

end

/-- Reads the directives before a document; each version and handle may be given once. -/
def readDirectives : Nat → Bool → TagStems → Reader TagStems
  | 0, _, _ => failure
  | fuel + 1, hasVersion, stems => do
    match ← peek with
    | some (.version major minor) =>
      if hasVersion ∨ major ≠ 1 ∨ (minor ≠ 1 ∧ minor ≠ 2) then failure
      else
        advance
        readDirectives fuel true stems
    | some (.tagDirective handle stem) =>
      if (stems.lookup handle).isSome then failure
      else
        advance
        readDirectives fuel hasVersion (stems ++ [(handle, stem)])
    | _ => return stems

/-- Passes the markers of a document's end. -/
def skipDocumentEnds : Nat → Reader Unit
  | 0 => return
  | fuel + 1 => do
    if ← accept .documentEnd then skipDocumentEnds fuel

/-- Whether the next token starts or ends a document. -/
def atDocumentEdge : Reader Bool := do
  match ← peek with
  | none | some .documentStart | some .documentEnd => return true
  | some (.version _ _) | some (.tagDirective _ _) => return true
  | _ => return false

/-- Reads the only document of a text. Without tokens there is none. -/
def readDocument (fuel : Nat) : Reader (Option Node) := do
  match ← peek with
  | none => return none
  | some .documentEnd => failure
  | _ =>
    let node ←
      if ← atDocumentEdge then
        let stems ← readDirectives fuel false []
        unless ← accept .documentStart do failure
        if ← atDocumentEdge then pure emptyScalar
        else readNode (stems ++ defaultStems) fuel true false
      else readNode defaultStems fuel true false
    skipDocumentEnds fuel
    if (← peek).isSome then failure
    return some node

/-- The only document of a text, if there is one; nothing if the text is malformed or holds a second
document. -/
def Node.parse? (text : String) : Option (Option Node) := do
  let tokens ← Token.scan? text.toList
  let (node, _) ← (readDocument (4 * tokens.length + 4)).run ⟨tokens, []⟩
  some node

end ClientGen.Yaml
