import ClientGen.OrderedMap
import ClientGen.Schema
import ClientGen.Yaml.Node
import ClientGen.Yaml.Plain

/-!
# Reading YAML by a schema

A document is read by the same schemas as JSON. A text may be any scalar; other scalars must be
plain. A record must be a mapping with scalar keys. A scalar that is plain and empty stands for an
empty list, table or record, and a plain null for a field that is not set. An alias is read as the
node that it refers to, up to a hundred times for every event of the document. Collections that are
read may nest 128 deep.

There is no way to tell the problems of a document apart: reading returns nothing if there is one.
-/

namespace ClientGen.Yaml

/-- The nodes that aliases refer to and how many aliases may be read. -/
structure Anchors where
  nodes : List (Nat × Node)
  limit : Nat

/-- A step of reading, which counts the aliases read. -/
abbrev Read := StateT Nat Option

/-- The last node that an anchor's number marks. -/
def Anchors.find? (anchors : Anchors) (number : Nat) : Option Node :=
  (anchors.nodes.reverse.lookup number)

/-- The node that a node stands for: itself, or the one that it is an alias of. -/
def Anchors.follow (anchors : Anchors) (node : Node) : Read Node := do
  match node with
  | .alias number =>
    let count ← get
    set (count + 1)
    if count + 1 > anchors.limit then failure
    match anchors.find? number with
    | some target => return target
    | none => failure
  | node => return node

/-- The stem of the tags of YAML itself. -/
def coreTag (name : String) : String :=
  "tag:yaml.org,2002:" ++ name

/-- Whether a tag is local to the document. -/
def isLocalTag (tag : String) : Bool :=
  tag.startsWith "!"

/-- Whether a scalar is plain, or a literal block with the tag given. -/
def isBare (name : String) (tag : Option String) (style : ScalarStyle) : Bool :=
  style == .plain || (style == .literal && tag == some (coreTag name))

/-- Whether a node is a plain scalar without text. -/
def isEmptyPlain : Node → Bool
  | .scalar _ _ style text => style == .plain && text == ""
  | _ => false

/-- The text of a scalar. -/
def scalarText : Node → Read String
  | .scalar _ _ _ text => return text
  | _ => failure

/-- The value that a scalar holds if nothing is known about it. -/
def scalarJson (tag : Option String) (style : ScalarStyle) (text : String) : Option Json :=
  let resolve : Option Json :=
    match meaning text with
    | .null => some .null
    | .flag b => some (.bool b)
    | .integer n => integerJson? n
    | .real x => some (realJson x)
    | .text => some (.text text)
  match tag with
  | none => if style = .plain then resolve else some (.text text)
  | some tag =>
    if isLocalTag tag then none
    else if tag = coreTag "bool" then (flag? text).map .bool
    else if tag = coreTag "int" then ((integer? text).filter fitsWide).bind integerJson?
    else if tag = coreTag "float" then (real? text).map realJson
    else if tag = coreTag "null" then if isNull text then some .null else none
    else some (.text text)

/-- Whether a field holds a null, which leaves it unset; nothing if it is tagged as null but holds
something else. -/
def isUnset? : Node → Option Bool
  | .scalar tag _ style text =>
    if style ≠ .plain then some false
    else
      match tag with
      | none => some (text == "" || isNull text)
      | some tag =>
        if tag = coreTag "null" then if isNull text then some true else none else some false
  | _ => some false

/-- The word that a node chooses: a scalar, or a local tag on nothing. -/
def chosenWord : Node → Option String
  | .scalar tag _ style text =>
    match tag.filter isLocalTag with
    | some tag =>
      if style = .plain ∧ (text = "" ∨ isNull text) then
        some (if tag = "!" then tag else String.ofList (tag.toList.drop 1))
      else none
    | none => some text
  | _ => none

/-- Reads the values of a table with the keys of its entries; a key that comes again replaces its
value. -/
def readTable (anchors : Anchors) (readValue : Node → Read Json) :
    List (String × Json) → List (Node × Node) → Read (List (String × Json))
  | table, [] => return table
  | table, (key, value) :: rest => do
    let key ← scalarText (← anchors.follow key)
    let value ← readValue value
    readTable anchors readValue (insertEntry table key value) rest

/-- Reads the members of a record. A field may be given once; a member that is no field is passed
over. -/
def readRecord {Record : Type} (anchors : Anchors) (fields : List (Field Record))
    (readField : Field Record → Node → Read (Option Json)) :
    List (String × Option Json) → List (Node × Node) → Read (List (String × Json))
  | members, [] => do
    if missingKeys fields (members.map Prod.fst) ≠ [] then failure
    return members.reverse.filterMap fun (key, value) => value.map fun v => (key, v)
  | members, (key, value) :: rest => do
    let key ← scalarText (← anchors.follow key)
    match fields.find? fun f => f.key == key with
    | none => readRecord anchors fields readField members rest
    | some field =>
      if (members.map Prod.fst).contains key then failure
      let value ← readField field value
      readRecord anchors fields readField ((key, value) :: members) rest

/-- Reads a scalar whose text stands for a value. -/
def readBare {α : Type} (name : String) (convert? : String → Option α) : Node → Read α
  | .scalar tag _ style text => do
    if !isBare name tag style then failure
    match convert? text with
    | some x => return x
    | none => failure
  | _ => failure

/-- How the parts of a collection are read; nothing if no further collection may be opened. -/
abbrev Deeper (Record : Type) := Option (Schema Record → Node → Read Json)

/-- Reads a node by a schema. -/
def readNodeWith {Record : Type} (fields : Fields Record) (anchors : Anchors)
    (deeper : Deeper Record) (schema : Schema Record) (node : Node) : Read Json := do
  let node ← anchors.follow node
  let readItems (item : Schema Record) (items : List Node) : Read Json := do
    match deeper with
    | some readPart => return .array (← items.mapM (readPart item))
    | none => failure
  let readEntries (value : Schema Record) (entries : List (Node × Node)) : Read Json := do
    match deeper with
    | some readPart => return .object (← readTable anchors (readPart value) [] entries)
    | none => failure
  let readMembers (name : Record) (entries : List (Node × Node)) : Read Json := do
    match deeper with
    | some readPart =>
      return .object (← readRecord anchors (fields name) (readField readPart) [] entries)
    | none => failure
  match schema with
  | .text => return .text (← scalarText node)
  | .flag => return .bool (← readBare "bool" flag? node)
  | .count => return .int (← readBare "int" count? node)
  | .real => return .real (← readBare "float" real? node)
  | .choice words =>
    match (chosenWord node).filter words.contains with
    | some word => return .text word
    | none => failure
  | .list item =>
    match node with
    | .sequence _ _ items => readItems item items
    | node => if isEmptyPlain node then return .array [] else failure
  | .table value =>
    match node with
    | .mapping _ _ entries => readEntries value entries
    | node => if isEmptyPlain node then return .object [] else failure
  | .record name =>
    match node with
    | .mapping _ _ entries => readMembers name entries
    | node =>
      if isEmptyPlain node then
        return .object (← readRecord anchors (fields name) (fun _ _ => failure) [] [])
      else failure
  | .any =>
    match node with
    | .scalar tag _ style text =>
      match scalarJson tag style text with
      | some value => return value
      | none => failure
    | .sequence tag _ items => if tag.any isLocalTag then failure else readItems .any items
    | .mapping tag _ entries => if tag.any isLocalTag then failure else readEntries .any entries
    | .alias _ => failure
where
  /-- Reads the value of a field, which may be null if the field need not be set. -/
  readField (readPart : Schema Record → Node → Read Json) (field : Field Record) (node : Node) :
      Read (Option Json) := do
    if field.presence.isNullable then
      let node ← anchors.follow node
      match isUnset? node with
      | none => failure
      | some true => return none
      | some false => return some (← readPart field.schema node)
    else return some (← readPart field.schema node)

/-- Reads a node by a schema; `depth` collections may still be opened. -/
def readNodeAs {Record : Type} (fields : Fields Record) (anchors : Anchors) :
    Nat → Schema Record → Node → Read Json
  | 0 => readNodeWith fields anchors none
  | depth + 1 => readNodeWith fields anchors (some (readNodeAs fields anchors depth))

/-- Reads the only document of a text by a schema. A text without a document is read like a document
without text. -/
def read {Record : Type} (fields : Fields Record) (schema : Schema Record) (text : String) :
    Option Json := do
  let node := (← Node.parse? text).getD emptyScalar
  let anchors : Anchors := ⟨node.anchored, 100 * node.eventCount⟩
  let (value, _) ← (readNodeAs fields anchors 128 schema node).run 0
  some value

end ClientGen.Yaml
