import ClientGen.JavaScript.Template
import ClientGen.Proofs.JavaScript.Printed
import ClientGen.Template.Reader

/-!
# The templates of a JavaScript client as statements

What each template of a JavaScript client is read as.
-/

namespace ClientGen.JavaScript

open Template
open Text (joinLines)

/-! ## The fragments -/

/-- A filter that is applied without arguments. -/
def piped (input : Expression) (filter : String) : Expression := .filter input filter []

/-- The member of what a name stands for. -/
def memberOf (name member : String) : Expression := .member (.name name) member

/-- The statements of the header. -/
def headerStatements : List Statement := [
  .content "// ",
  .output (.name "title"),
  .branch (.name "version") [.content " ", .output (.name "version")] [],
  .content " client, generated by apigen. Do not edit."]

/-- The statements for a query parameter. -/
def queryStatements : List Statement := [
  .content "   * @param ",
  .output (.binary .concatenate
    (.binary .concatenate (.literal (.text "\x7b"))
      (.call "js_type" [(.inOrder, memberOf "param" "type")]))
    (.literal (.text "\x7d"))),
  .content " [options.query.",
  .output (.name "name"),
  .content "]",
  .branch (memberOf "param" "description")
    [.content " ", .output (piped (memberOf "param" "description") "js_doc")] [],
  .content "\n"]

/-- Whether a method sends a body. -/
def bodyCondition : Expression := .negation (.test (memberOf "method" "body") "none" [])

/-- The statements of a method. -/
def methodStatements : List Statement := [
  .content "  /**\n   * ",
  .output (piped (memberOf "method" "method") "upper_case"),
  .content " ",
  .output (piped (.name "resource") "display_uri"),
  .content "\n",
  .branch (memberOf "method" "description")
    [.content "   *\n   * ", .output (piped (memberOf "method" "description") "js_doc"),
      .content "\n"] [],
  .branch bodyCondition [.content "   * @param \x7b*\x7d body\n"] [],
  .content "   * @param \x7bobject\x7d [options]\n",
  .loop (.items [.name "name", .name "param"])
    (piped (memberOf "method" "query_parameters") "items") none queryStatements [],
  .content "   * @returns \x7bPromise<Response>\x7d\n   */\n  [",
  .output (piped (.name "key") "stringify"),
  .content "] (",
  .branch bodyCondition [.content "body, "] [],
  .content "options = \x7b\x7d) \x7b\n    return this._client.request(",
  .output (piped (piped (memberOf "method" "method") "upper_case") "stringify"),
  .content ", this._path, ",
  .branch bodyCondition [.content "\x7b ...options, body \x7d"] [.content "options"],
  .content ")\n  \x7d\n"]

/-! ## The module -/

/-- The statements for the default of a parameter of the base URI. -/
def defaultStatements : List Statement := [
  .content "  ",
  .output (piped (.name "name") "stringify"),
  .content ": ",
  .output (piped (memberOf "param" "default") "stringify"),
  .content ",\n"]

/-- The statements for a child of a resource. -/
def childStatements : List Statement := [
  .branch (memberOf "child" "uri_parameters")
    [.content "    this[",
      .output (piped (.name "key") "stringify"),
      .content "] = (",
      .output (piped (.name "child") "param_list"),
      .content ") => new ",
      .output (piped (memberOf "child" "id") "pascal_case"),
      .content "(client, path + template(",
      .output (piped (memberOf "child" "relative_uri") "stringify"),
      .content ", [",
      .output (piped (.name "child") "param_list"),
      .content "]))\n"]
    [.content "    this[",
      .output (piped (.name "key") "stringify"),
      .content "] = new ",
      .output (piped (memberOf "child" "id") "pascal_case"),
      .content "(client, path + ",
      .output (piped (memberOf "child" "relative_uri") "stringify"),
      .content ")\n"]]

/-- The statements for a method of a resource. -/
def blockStatements : List Statement := [
  .content "\n",
  .includeFirst (.literal (.text "method")) false]

/-- The statements of the class of a resource. -/
def classStatements : List Statement := [
  .content "class ",
  .output (piped (memberOf "resource" "id") "pascal_case"),
  .content constructorText,
  .loop (.items [.name "key", .name "child"]) (piped (memberOf "resource" "children") "items") none
    childStatements [],
  .content "  \x7d\n",
  .loop (.items [.name "key", .name "method"]) (piped (memberOf "resource" "methods") "items") none
    blockStatements [],
  .content "\x7d\n\n"]

/-- Whether requests carry an access token. -/
def tokenCondition : Expression := .both (memberOf "options" "auth") (.name "security_schemes")

/-- The statements of the module. -/
def indexStatements : List Statement := [
  .includeFirst (.literal (.text "header")) false,
  .content "\n'use strict'\n\nconst DEFAULT_BASE_URI = ",
  .output (piped (.name "base_uri") "stringify"),
  .content "\n\nconst DEFAULT_BASE_URI_PARAMETERS = \x7b\n",
  .loop (.items [.name "name", .name "param"]) (piped (.name "base_uri_parameters") "items") none
    defaultStatements [],
  .content functionsText,
  .loop (.name "resource") (.name "all_resources") none classStatements [],
  .content "class Client extends ",
  .output (piped (memberOf "resources" "id") "pascal_case"),
  .content optionsText,
  .branch tokenCondition [.content tokenText] [],
  .content requestText,
  .branch tokenCondition [.content bearerText] [],
  .content responseText,
  .output (piped (.name "supported_methods") "stringify"),
  .content "\n\nmodule.exports = Client\nmodule.exports.Client = Client"]

/-! ## The other files -/

/-- The name of the package. -/
def packageNameExpression : Expression :=
  piped (.either (memberOf "options" "name") (piped (.name "title") "package_name")) "stringify"

/-- The statements of the package description. -/
def packageStatements : List Statement := [
  .content "\x7b\n  \"name\": ",
  .output packageNameExpression,
  .content ",\n  \"version\": ",
  .output (piped (memberOf "options" "package_version") "stringify"),
  .content ",\n  \"description\": ",
  .output (piped (.binary .concatenate (.literal (.text "Client for ")) (.name "title"))
    "stringify"),
  .content ",\n  \"main\": \"index.js\",\n  \"license\": ",
  .output (piped (memberOf "options" "license") "stringify"),
  .content ",\n",
  .branch (memberOf "options" "repository")
    [.content "  \"repository\": ",
      .output (piped (memberOf "options" "repository") "stringify"),
      .content ",\n"] [],
  .content "  \"engines\": \x7b\n    \"node\": \">=18\"\n  \x7d\n\x7d"]

/-- The statements for a chapter of the introduction. -/
def chapterStatements : List Statement := [
  .content "\n## ",
  .output (memberOf "doc" "title"),
  .content "\n\n",
  .output (memberOf "doc" "content"),
  .content "\n"]

/-- The statements for a method in the introduction. -/
def rowStatements : List Statement := [
  .content "| ",
  .output (piped (memberOf "method" "method") "upper_case"),
  .content " | \x60",
  .output (piped (memberOf "method" "resource") "display_uri"),
  .content "\x60 | ",
  .output (piped (memberOf "method" "description") "js_doc"),
  .content " |\n"]

/-- The statements of the introduction. -/
def introductionStatements : List Statement := [
  .content "# ",
  .output (.name "title"),
  .content "\n\nGenerated client for ",
  .output (.name "title"),
  .branch (.name "version") [.content " (", .output (.name "version"), .content ")"] [],
  .content ".\n\n## Usage\n\n\x60\x60\x60js\nconst \x7b Client \x7d = require(",
  .output packageNameExpression,
  .content ")\n\nconst client = new Client(\x7b baseUri: ",
  .output (piped (.name "base_uri") "stringify"),
  .content " \x7d)\n\x60\x60\x60\n",
  .loop (.name "doc") (.name "documentation") none chapterStatements [],
  .content "\n## Methods\n\n| Method | URI | Description |\n| --- | --- | --- |\n",
  .loop (.name "method") (.name "all_methods") none rowStatements []]

/-! ## Reading -/

/-- Texts one after the other have the characters of both. -/
theorem append_ofList (cs ds : List Char) :
    String.ofList cs ++ String.ofList ds = String.ofList (cs ++ ds) :=
  String.ofList_append.symm

/-- What the characters of a template are read as. -/
def readChars (cs : List Char) : Except TemplateError (List Statement) := do
  let cs := Token.dropFinalBreak cs
  let tokens := Token.scanFrom (cs.length + 1) (.outside true) cs
  let (statements, _) ← (readBody (24 * tokens.length + 24) [] 0).run tokens
  return statements

/-- A template is parsed from the list of its characters. -/
theorem parse_ofList (cs : List Char) : Template.parse (String.ofList cs) = readChars cs := by
  rw [readChars, Template.parse, Token.scan, String.toList_ofList]

/-- The template of the header is parsed as its statements. -/
theorem parse_header : Template.parse headerTemplate = .ok headerStatements := by
  simp only [headerTemplate, joinLines, -String.reduceAppend]
  repeat rewrite [append_ofList]
  rewrite [parse_ofList]
  rfl

set_option maxRecDepth 100000

/-- The template of a method is parsed as its statements. -/
theorem parse_method : Template.parse methodTemplate = .ok methodStatements := by
  simp only [methodTemplate, joinLines, -String.reduceAppend]
  repeat rewrite [append_ofList]
  rewrite [parse_ofList]
  rfl

/-- The template of the module is parsed as its statements. -/
theorem parse_index : Template.parse indexTemplate = .ok indexStatements := by
  simp only [indexTemplate, indexStatements, classStatements, functionsText, constructorText,
    optionsText, requestText, bearerText, responseText, joinLines, -String.reduceAppend]
  repeat rewrite [append_ofList]
  rewrite [parse_ofList]
  rfl

/-- The template of the package description is parsed as its statements. -/
theorem parse_package : Template.parse packageTemplate = .ok packageStatements := by
  simp only [packageTemplate, joinLines, -String.reduceAppend]
  repeat rewrite [append_ofList]
  rewrite [parse_ofList]
  rfl

/-- The template of the introduction is parsed as its statements. -/
theorem parse_introduction : Template.parse readmeTemplate = .ok introductionStatements := by
  simp only [readmeTemplate, joinLines, -String.reduceAppend]
  repeat rewrite [append_ofList]
  rewrite [parse_ofList]
  rfl

end ClientGen.JavaScript
