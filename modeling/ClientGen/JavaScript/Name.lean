import ClientGen.Format
import ClientGen.Text.Words

/-!
# JavaScript names

Properties are written in lower camel case. A name that is to be bound as a parameter gets an
underscore in front if it is empty, starts with a digit or is a reserved word.
-/

namespace ClientGen.JavaScript

/-- The words that no parameter may be called. -/
def reservedWords : List String := [
  "break", "case", "catch", "class", "const", "continue", "debugger", "default", "delete",
  "do", "else", "enum", "export", "extends", "false", "finally", "for", "function", "if",
  "import", "in", "instanceof", "let", "new", "null", "return", "static", "super", "switch",
  "this", "throw", "true", "try", "typeof", "var", "void", "while", "with", "yield"]

/-- The name of a property. -/
def propertyName (name : String) : String :=
  Text.CaseStyle.camel.apply name

/-- Whether a text starts with an ASCII digit. -/
def startsWithDigit (s : String) : Bool :=
  match s.toList with
  | [] => false
  | c :: _ => c.isDigit

/-- The name of a parameter. -/
def bindingName (name : String) : String :=
  let property := propertyName name
  if property = "" ∨ startsWithDigit property ∨ property ∈ reservedWords then "_" ++ property
  else property

/-- The type that a comment names for a declared type of parameter. -/
def parameterType (declared : String) : String :=
  match declared with
  | "string" | "date" => "string"
  | "integer" | "number" => "number"
  | "boolean" => "boolean"
  | "file" => "Buffer"
  | _ => "*"

/-- The format of a JavaScript client: names are property names, and nothing else is chosen. -/
def formatChoices : FormatChoices :=
  { writeUri := none, writeName := some propertyName, numbering := none }

end ClientGen.JavaScript
