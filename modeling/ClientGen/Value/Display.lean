import ClientGen.Json.Printer
import ClientGen.Text.Quoted
import ClientGen.Value.Basic

/-!
# Values as text

How a value is printed on its own and inside a list or a map. On its own a text is printed as it is
and a double positionally; inside a collection a text is quoted, and a double that is very large or
very small has an exponent. As JSON a value has only keys that are texts, truth values and finite
numbers.
-/

namespace ClientGen.Value

/-- How doubles are written on their own. -/
def openLayout : Decimal.Layout := ⟨fun _ => true, []⟩

/-- How doubles are written inside a collection. -/
def innerLayout : Decimal.Layout := ⟨fun e => -4 ≤ e && e ≤ 15, []⟩

/-- A number as text. -/
def numberText (layout : Decimal.Layout) : Number → String
  | .int _ n => toString n
  | .real x =>
    if x.isNaN then "NaN"
    else if x.isFinite then String.ofList (layout.text x)
    else if x < 0 then "-inf"
    else "inf"

/-- A truth value as text. -/
def flagText (b : Bool) : String :=
  if b then "True" else "False"

mutual

/-- A value inside a collection. -/
def innerText : Value → String
  | .undefined => "undefined"
  | .none => "None"
  | .flag b => flagText b
  | .number n => numberText innerLayout n
  | .text s | .markup s => Text.quoted s
  | .list items | .series items => "[" ++ innerItems items ++ "]"
  | .map entries => "\x7b" ++ innerEntries entries ++ "\x7d"
  | .object _ label _ => label
  | .view _ => "<view>"
  | .helper name => name

/-- Items with commas between them. -/
def innerItems : List Value → String
  | [] => ""
  | [item] => innerText item
  | item :: rest => innerText item ++ ", " ++ innerItems rest

/-- Entries with commas between them. -/
def innerEntries : List (Value × Value) → String
  | [] => ""
  | [(key, value)] => innerText key ++ ": " ++ innerText value
  | (key, value) :: rest =>
    innerText key ++ ": " ++ innerText value ++ ", " ++ innerEntries rest

end

/-- A value on its own, in which no view is left. -/
def plainText : Value → String
  | .undefined => ""
  | .number n => numberText openLayout n
  | .text s | .markup s => s
  | value => innerText value

/-- The name of a member of a JSON object for a key. -/
def memberName? : Value → Option String
  | .flag b => some (if b then "true" else "false")
  | .number (.real x) =>
    if x.isFinite then some (String.ofList (Json.numberText (.real x))) else Option.none
  | .number n => some (String.ofList (Json.numberText n.toJson))
  | .text s | .markup s => some s
  | _ => Option.none

mutual

/-- A value as JSON, in which no view is left. -/
def plainJson? : Value → Option Json
  | .undefined | .none | .view _ => some .null
  | .flag b => some (.bool b)
  | .number n => some (.number n.toJson)
  | .text s | .markup s | .helper s => some (.text s)
  | .list items | .series items => (plainItems? items).map .array
  | .map entries | .object _ _ entries => (plainMembers? entries).map .object

/-- Items as JSON. -/
def plainItems? : List Value → Option (List Json)
  | [] => some []
  | item :: rest => do return (← plainJson? item) :: (← plainItems? rest)

/-- Entries as members of an object. -/
def plainMembers? : List (Value × Value) → Option (List (String × Json))
  | [] => some []
  | (key, value) :: rest => do
    return (← memberName? key, ← plainJson? value) :: (← plainMembers? rest)

end

end ClientGen.Value
