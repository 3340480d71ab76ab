import ClientGen.Json.Printer
import ClientGen.Template.Error
import ClientGen.Text.Words
import ClientGen.Value.Part

/-!
# Standard helpers

The helpers that every template can use. The words `and`, `or` and `not` belong to the template
language, so the helpers for truth values have other names.
-/

namespace ClientGen

/-- A helper: a function of any number of values. -/
abbrev Helper := Context → List Value → Except TemplateError Value

/-- The helpers of all languages. -/
inductive StandardHelper where
  /-- Writes a text in a case style. -/
  | style (caseStyle : Text.CaseStyle)
  | upperCase
  | lowerCase
  | upperFirst
  | lowerFirst
  /-- Whether all arguments are true. -/
  | allOf
  /-- Whether some argument is true. -/
  | anyOf
  | negate
  /-- Whether all arguments are the same as the first one. -/
  | equal
  | keys
  | values
  | length
  | isArray
  | isObject
  /-- Writes a value as JSON. -/
  | stringify
  | join
deriving DecidableEq

namespace StandardHelper

/-- The standard helpers in their order. -/
def all : List StandardHelper := [
  .style .camel, .style .pascal, .style .snake, .style .kebab, .style .constant, .style .title,
  .upperCase, .lowerCase, .upperFirst, .lowerFirst, .allOf, .anyOf, .negate, .equal, .keys,
  .values, .length, .isArray, .isObject, .stringify, .join]

/-- The name by which templates call a helper. -/
def name : StandardHelper → String
  | .style .camel => "camel_case"
  | .style .pascal => "pascal_case"
  | .style .snake => "snake_case"
  | .style .kebab => "kebab_case"
  | .style .constant => "constant_case"
  | .style .title => "title_case"
  | .upperCase => "upper_case"
  | .lowerCase => "lower_case"
  | .upperFirst => "upper_first"
  | .lowerFirst => "lower_first"
  | .allOf => "all_of"
  | .anyOf => "any_of"
  | .negate => "negate"
  | .equal => "equal"
  | .keys => "keys"
  | .values => "values"
  | .length => "length"
  | .isArray => "is_array"
  | .isObject => "is_object"
  | .stringify => "stringify"
  | .join => "join"

/-- The helper with a name. -/
def ofName? (name : String) : Option StandardHelper :=
  all.find? fun helper => helper.name == name

/-- Applies a function to the first argument of a helper. -/
def onFirst (args : List Value) (f : Value → Except TemplateError Value) :
    Except TemplateError Value :=
  match args with
  | [] => .error (.missingArguments 1)
  | value :: _ => f value

/-- Applies a function to the text of the first argument; an absent value has no text. -/
def onText (context : Context) (args : List Value) (f : String → String) :
    Except TemplateError Value :=
  onFirst args fun value =>
    if value.isAbsent then .ok (.text "") else .ok (.text (f (value.display context)))

/-- The keys of a map; other values have none. -/
def keysOf (value : Value) : List Value :=
  if value.isMap then (value.iterate?).getD [] else []

/-- The values of a map or a list; other values have none. -/
def valuesOf (context : Context) (value : Value) : List Value :=
  if value.isMap then
    (keysOf value).map fun key => (value.item? context key).getD .undefined
  else if value.isList then (value.iterate?).getD []
  else []

/-- The number of blanks a level that an argument asks for; none means the compact form. -/
def indentWidth (args : List Value) : Nat :=
  match (args[1]?).bind Value.integer? with
  | some width => if fitsUnsigned 32 width then width.toNat else 0
  | none => 0

/-- A value as JSON text, compact or with a number of blanks a level. -/
def jsonText (context : Context) (width : Nat) (value : Value) : Except TemplateError String :=
  match value.toJson? context with
  | some json => .ok (if width = 0 then json.compact else json.indented width)
  | none => .error .unserializable

/-- What stands between joined items. -/
def separator (args : List Value) : String :=
  ((args[1]?).bind Value.text?).getD ","

/-- Calls a standard helper. -/
def call (helper : StandardHelper) : Helper := fun context args =>
  match helper with
  | .style caseStyle => onText context args caseStyle.apply
  | .upperCase => onText context args Text.upper
  | .lowerCase => onText context args Text.lower
  | .upperFirst => onText context args Text.upperFirst
  | .lowerFirst => onText context args Text.lowerFirst
  | .allOf => .ok (.flag (args.all Value.isTrue))
  | .anyOf => .ok (.flag (args.any Value.isTrue))
  | .negate => onFirst args fun value => .ok (.flag !value.isTrue)
  | .equal => onFirst args fun value =>
      .ok (.flag ((args.drop 1).all fun other => other.same context value))
  | .keys => onFirst args fun value => .ok (.list (keysOf value))
  | .values => onFirst args fun value => .ok (.list (valuesOf context value))
  | .length => onFirst args fun value => .ok (.ofNat (value.length?.getD 0))
  | .isArray => onFirst args fun value => .ok (.flag value.isList)
  | .isObject => onFirst args fun value => .ok (.flag value.isMap)
  | .stringify => onFirst args fun value =>
      (jsonText context (indentWidth args) value).map .text
  | .join => onFirst args fun value =>
      if value.isAbsent then .ok (.text "")
      else
        match value.iterate? with
        | some items =>
          .ok (.text ((separator args).intercalate (items.map (Value.display context))))
        | none => .error .invalidOperation

end StandardHelper

end ClientGen
