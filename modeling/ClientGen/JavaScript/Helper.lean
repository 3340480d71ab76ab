import ClientGen.Helper.Standard
import ClientGen.JavaScript.Name
import ClientGen.Text.Replace

/-!
# Helpers of JavaScript clients

What the templates of a JavaScript client need beside the standard helpers: texts inside comments,
types of parameters, the name of the package, parameter lists, and URIs with the names of their
parameters.
-/

namespace ClientGen.JavaScript

/-- Applies a function to the argument of a helper. -/
def onArgument (args : List Value) (f : Value → Except TemplateError Value) :
    Except TemplateError Value :=
  match args with
  | [] => .error .missingArgument
  | value :: _ => f value

/-- A text on one line, in which the end of a comment is broken up. -/
def commentText (s : String) : String :=
  " ".intercalate (Text.lines (Text.replaceAll s "*/" "*\\/"))

/-- The text of a value inside a comment. -/
def commentHelper : Helper := fun context args => onArgument args fun value =>
  if value.isAbsent then .ok (.text "") else .ok (.text (commentText (value.display context)))

/-- The type of a parameter whose declared type is given. -/
def typeHelper : Helper := fun _ args => onArgument args fun value =>
  .ok (.text (parameterType (value.text?.getD "string")))

/-- An ASCII capital as a small letter, and any other character as it is. -/
def smallLetter (c : Char) : Char :=
  if 'A' ≤ c ∧ c ≤ 'Z' then Char.ofNat (c.toNat + 32) else c

/-- The letters and digits of a title, with one hyphen for all other characters in a row. No hyphen
is written where `afterHyphen` says that one stands already. -/
def hyphenated (afterHyphen : Bool) : List Char → List Char
  | [] => []
  | c :: rest =>
    if Text.isAlphanumeric c then smallLetter c :: hyphenated false rest
    else if afterHyphen then hyphenated true rest
    else '-' :: hyphenated true rest

/-- The name of the package for a title. -/
def packageName (title : String) : String :=
  match Text.dropEndWhile (· == '-') (hyphenated true title.toList) with
  | [] => "api-client"
  | slug => String.ofList (slug ++ "-client".toList)

/-- The name of the package for the text of a value. -/
def packageHelper : Helper := fun context args => onArgument args fun value =>
  .ok (.text (packageName (value.display context)))

/-- The names of the parameters of a resource's URI. -/
def uriParameterNames (context : Context) (resource : Value) :
    Except TemplateError (List String) := do
  let params ← resource.member context "uri_parameters"
  if params.isAbsent then return []
  else
    match params.iterate? with
    | none => .error .invalidOperation
    | some items => items.mapM fun item => do
        return (← item.member context "name").display context

/-- The bindings of names as a parameter list. -/
def parameterList (names : List String) : String :=
  ", ".intercalate (names.map bindingName)

/-- The parameter list for a resource's URI. -/
def parameterHelper : Helper := fun context args => onArgument args fun value => do
  return .text (parameterList (← uriParameterNames context value))

/-- The text with `{0}`, `{1}` and so on replaced by the names given, one name after the other. -/
def fillFrom (index : Nat) (template : String) : List String → String
  | [] => template
  | name :: rest =>
    let filled := Text.replaceAll template ("\x7b" ++ toString index ++ "\x7d")
      ("\x7b" ++ name ++ "\x7d")
    fillFrom (index + 1) filled rest

/-- The text with every numbered placeholder replaced by the placeholder with its name. -/
def fillPlaceholders (template : String) (names : List String) : String :=
  fillFrom 0 template names

/-- The relative URI of a resource with the names of its parameters. -/
def namedUri (context : Context) (resource : Value) : Except TemplateError String := do
  let relative ← resource.member context "relative_uri"
  let names ← uriParameterNames context resource
  return fillPlaceholders (relative.text?.getD "") names

mutual

/-- How deeply maps are nested in a value. -/
def nesting : Value → Nat
  | .map entries | .object _ _ entries => nestingOfEntries entries + 1
  | _ => 0

/-- How deeply maps are nested in entries. -/
def nestingOfEntries : List (Value × Value) → Nat
  | [] => 0
  | (_, value) :: rest => max (nesting value) (nestingOfEntries rest)

end

/-- The URIs of a resource and of the resources above it, the outermost first, for as many steps as
given. -/
def urisAbove (context : Context) : Nat → Value → Except TemplateError String
  | 0, _ => .ok ""
  | steps + 1, resource =>
    if resource.isAbsent then .ok ""
    else do
      let uri ← namedUri context resource
      let parent ← resource.member context "parent"
      return (← urisAbove context steps parent) ++ uri

/-- The full URI of a resource. Its parents are nested in it or are resources of the context, so
there are no more of them than these together. -/
def fullUri (context : Context) (resource : Value) : Except TemplateError String := do
  let uri ← urisAbove context (nesting resource + context.tree.nodes.size + 1) resource
  return if uri = "" then "/" else uri

/-- The full URI of a resource with the names of its parameters. -/
def uriHelper : Helper := fun context args => onArgument args fun value => do
  return .text (← fullUri context value)

/-- The helpers of JavaScript clients by their names. -/
def helpers : OrderedMap Helper := .ofList [
  ("js_doc", commentHelper), ("js_type", typeHelper), ("package_name", packageHelper),
  ("param_list", parameterHelper), ("display_uri", uriHelper)]

end ClientGen.JavaScript
