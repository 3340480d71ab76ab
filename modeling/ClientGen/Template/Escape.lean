import ClientGen.Value.View

/-!
# Escaping

Templates whose names end like those of HTML or XML files escape the texts that they write.
-/

namespace ClientGen.Template

/-- The form of a character in HTML. -/
def escapedChar (c : Char) : List Char :=
  match c with
  | '&' => "&amp;".toList
  | '<' => "&lt;".toList
  | '>' => "&gt;".toList
  | '"' => "&quot;".toList
  | '\'' => "&#x27;".toList
  | '/' => "&#x2f;".toList
  | c => [c]

/-- A text in HTML. -/
def escapedText (s : String) : String :=
  String.ofList (s.toList.flatMap escapedChar)

/-- The parts of a text between points, the last one first. -/
def partsBackward (name : String) : List (List Char) :=
  (name.toList.foldl (fun parts c =>
    match c, parts with
    | '.', parts => [] :: parts
    | c, part :: rest => (c :: part) :: rest
    | c, [] => [[c]]) [[]]).map List.reverse

/-- The last parts of a name that mark a template. -/
def templateSuffixes : List String := ["j2", "jinja2", "jinja"]

/-- The last parts of a name that mark HTML or XML. -/
def markupSuffixes : List String := ["html", "htm", "xml"]

/-- Whether a template with a name escapes: the last part of its name, apart from one that marks a
template, marks HTML or XML. -/
def escapes (name : String) : Bool :=
  match (partsBackward name).map String.ofList with
  | last :: next :: _ =>
    markupSuffixes.contains (if templateSuffixes.contains last then next else last)
  | [last] => markupSuffixes.contains last
  | [] => false

/-- How a value is written. Markup, numbers and the like need no escaping. -/
def written (context : Context) (escape : Bool) (value : Value) : String :=
  match escape, value with
  | false, value => value.display context
  | true, .markup s => s
  | true, .undefined | true, .none | true, .flag _ | true, .number _ => value.display context
  | true, value => escapedText (value.display context)

end ClientGen.Template
