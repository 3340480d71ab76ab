import ClientGen.Helper.Set
import ClientGen.Template.Escape
import ClientGen.Template.Statement
import ClientGen.Text.Digits

/-!
# Filters and tests

Every helper is a filter. Besides there is one for the entries of a map, and one that applies a
filter to all items of a value or takes the same member of all of them. Tests tell whether a value
is defined or none.
-/

namespace ClientGen.Template

/-- The arguments of a call: those without a name, and those with one. -/
structure Arguments where
  positional : List Value
  named : List (String × Value)

namespace Arguments

/-- No arguments. -/
def empty : Arguments := ⟨[], []⟩

/-- The arguments in order, of which those with names come last as a map. -/
def toList (given : Arguments) : List Value :=
  if given.named.isEmpty then given.positional else given.positional ++ [.record given.named]

/-- The arguments after some with names. The last value of a name counts. -/
def addNamed (given : Arguments) (named : List (String × Value)) : Arguments :=
  { given with
    named := named.foldl (fun all entry => insertEntry all entry.1 entry.2) given.named }

/-- The entries of a map whose keys are texts. -/
def namedOf? (context : Context) (value : Value) : Option (List (String × Value)) :=
  (Value.pairs? context value).map fun pairs => pairs.filterMap fun pair =>
    match pair with
    | .list [.text name, value] => some (name, value)
    | _ => none

/-- The arguments after a value has been passed. -/
def add (context : Context) (given : Arguments) (passing : Passing) (value : Value) :
    Except TemplateError Arguments :=
  match passing with
  | .inOrder => .ok { given with positional := given.positional ++ [value] }
  | .byName name => .ok (given.addNamed [(name, value)])
  | .items =>
    match value.iterate? with
    | some items => .ok { given with positional := given.positional ++ items }
    | none => .error .invalidOperation
  | .entries =>
    match namedOf? context value with
    | some named => .ok (given.addNamed named)
    | none => .error .invalidOperation

end Arguments

/-- Whether there is a filter with a name. -/
def isFilter (helpers : HelperSet) (name : String) : Bool :=
  (helpers.lookup? name).isSome || name == "items" || name == "map"

/-- Applies a filter other than the one for all items. -/
def applySimple (helpers : HelperSet) (context : Context) (name : String) (given : Arguments) :
    Except TemplateError Value :=
  match helpers.lookup? name, name, given with
  | some found, _, given => found.function context given.toList
  | none, "items", ⟨[value], []⟩ =>
    match Value.pairs? context value with
    | some pairs => .ok (.series pairs)
    | none => .error .invalidOperation
  | none, "items", _ => .error .tooManyArguments
  | none, _, _ => .error .unknownFilter

/-- The items that a filter for all items goes through. -/
def itemsOf (value : Value) : Except TemplateError (List Value) :=
  match value.iterate? with
  | some items => .ok items
  | none => .error .invalidOperation

/-- Applies the filter that the first argument names to all items of a value, with the arguments
after it. -/
def mapByName (helpers : HelperSet) (context : Context) :
    List Value → Value → Except TemplateError Value
  | [], _ => .error .invalidOperation
  | filter :: others, value => do
    match filter.text? with
    | none => throw .invalidOperation
    | some name =>
      if !isFilter helpers name then throw .unknownFilter
      else
        let results ← (← itemsOf value).mapM fun item =>
          if name = "map" ∧ (helpers.lookup? name).isNone then
            mapByName helpers context others item
          else applySimple helpers context name ⟨item :: others, []⟩
        return .list results

/-- The place that a part of a path stands for: digits, before which a plus sign may stand. -/
def pathPlace? (part : List Char) : Option Nat :=
  let digits :=
    match part with
    | '+' :: digits => digits
    | digits => digits
  (Text.number? 10 digits).filter fun n => fitsUnsigned 64 n

/-- The value at the end of a path of names and places with points between them. -/
def atPath (context : Context) (value : Value) (path : String) : Except TemplateError Value :=
  (partsBackward path).reverse.foldlM
    (fun value part =>
      match pathPlace? part with
      | some n => value.item context (.ofNat n)
      | none => value.member context (String.ofList part)) value

/-- The value at a path or a place in every item, or another one where there is none. -/
def mapByPath (context : Context) (path fallback : Value) (items : List Value) :
    Except TemplateError Value := do
  let results ← items.mapM fun item =>
    let found :=
      match path.text? with
      | some path => atPath context item path
      | none => item.item context path
    match found with
    | .ok value => .ok (if value.isUndefined then fallback else value)
    | .error error => if fallback.isUndefined then .error error else .ok fallback
  return .list results

/-- Applies the filter for all items. -/
def applyToItems (helpers : HelperSet) (context : Context) (value : Value) (others : List Value)
    (named : List (String × Value)) : Except TemplateError Value := do
  let path := (named.lookup "attribute").getD .undefined
  if path.isAbsent then mapByName helpers context others value
  else if !others.isEmpty then throw .tooManyArguments
  else
    let fallback := (named.lookup "default").getD .undefined
    let result ← mapByPath context path fallback (← itemsOf value)
    if named.all fun entry => ["attribute", "default"].contains entry.1 then return result
    else throw .tooManyArguments

/-- Applies a filter to a value. -/
def applyFilter (helpers : HelperSet) (context : Context) (name : String) (value : Value)
    (given : Arguments) : Except TemplateError Value :=
  if name = "map" ∧ (helpers.lookup? name).isNone then
    applyToItems helpers context value given.positional given.named
  else applySimple helpers context name { given with positional := value :: given.positional }

/-- Applies a test to a value. -/
def applyTest (name : String) (value : Value) (given : Arguments) : Except TemplateError Bool := do
  let result ←
    match name with
    | "undefined" => pure value.isUndefined
    | "defined" => pure !value.isUndefined
    | "none" => pure (value.isAbsent && !value.isUndefined)
    | _ => throw .unknownTest
  if given.toList.isEmpty then return result else throw .tooManyArguments

end ClientGen.Template
