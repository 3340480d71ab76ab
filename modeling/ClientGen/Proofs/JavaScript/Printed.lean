import ClientGen.JavaScript.Helper
import ClientGen.Profile
import ClientGen.Proofs.Tree.Path

/-!
# The files of a JavaScript client

The text of every file of a client, written down from its context and options without a template:
the module has a class for each resource in order, in which every child is made once and every
method is written once.
-/

namespace ClientGen.JavaScript

open Text (joinLines)

/-! ## Words -/

/-- A text as a JSON string. -/
def quoted (s : String) : String := (Json.text s).compact

/-- The class of the resource with an identifier. -/
def className (id : String) : String := Text.CaseStyle.pascal.apply id

/-- A text that is left out if another one is empty. -/
def unlessEmpty (s text : String) : String := if s = "" then "" else text

/-- The resource at a position. -/
def resourceAt (context : Context) (n : Nat) : Node := (context.tree.nodes[n]?).getD default

/-- The URI from the root to a resource, with the names of its parameters. -/
def pathText (context : Context) (n : Nat) : String :=
  String.join ((context.tree.pathTo n).map fun node =>
    fillPlaceholders node.relativeUri (node.uriParameters.map Parameter.name))

/-- The URI of a resource as documentation shows it. -/
def documentedUri (context : Context) (n : Nat) : String :=
  if pathText context n = "" then "/" else pathText context n

/-- Whether a method sends a body: one is declared that is not null. -/
def takesBody (method : Method) : Bool :=
  match method.body with
  | none | some .null => false
  | some _ => true

/-- Whether an option counts as true. -/
def isSet (options : Options) (name : String) : Bool :=
  (((options.get? name).map Value.ofJson).getD .undefined).isTrue

/-- Whether requests carry an access token. -/
def sendsToken (context : Context) (options : Options) : Bool :=
  isSet options "auth" && !context.securitySchemes.isEmpty

/-! ## The module -/

/-- The line that a module starts with. -/
def headerText (title version : String) : String :=
  "// " ++ title ++ unlessEmpty version (" " ++ version) ++
    " client, generated by apigen. Do not edit."

/-- The default of a parameter of the base URI. -/
def defaultText (name : String) (param : Parameter) : String :=
  "  " ++ quoted name ++ ": " ++ (param.default.getD .null).compact ++ ",\n"

/-- The functions that fill in URIs. -/
def functionsText : String := joinLines [
  "\x7d",
  "",
  "function template (uri, params) \x7b",
  "  return uri.replace(/\\\x7b(\\d+)\\\x7d/g, (_, index) => " ++
    "encodeURIComponent(String(params[Number(index)])))",
  "\x7d",
  "",
  "function expand (uri, params) \x7b",
  "  return uri.replace(/\\\x7b([^\x7b\x7d]+)\\\x7d/g, (_, name) => " ++
    "encodeURIComponent(String(params[name])))",
  "\x7d",
  "",
  ""]

/-- What comes before the classes. -/
def preludeText (context : Context) : String :=
  headerText context.title (context.version.getD "") ++
    "\n'use strict'\n\nconst DEFAULT_BASE_URI = " ++ quoted context.baseUri ++
    "\n\nconst DEFAULT_BASE_URI_PARAMETERS = \x7b\n" ++
    String.join (context.baseUriParameters.entries.map fun entry => defaultText entry.1 entry.2) ++
    functionsText

/-- The assignment of a child under its key. A child with parameters is a function of them. -/
def childText (key : String) (child : Node) : String :=
  let bindings := parameterList (child.uriParameters.map Parameter.name)
  let made :=
    if child.uriParameters.isEmpty then
      "new " ++ className child.id ++ "(client, path + " ++ quoted child.relativeUri ++ ")"
    else
      "(" ++ bindings ++ ") => new " ++ className child.id ++ "(client, path + template(" ++
        quoted child.relativeUri ++ ", [" ++ bindings ++ "]))"
  "    this[" ++ quoted key ++ "] = " ++ made ++ "\n"

/-- The remark on a query parameter. -/
def queryText (name : String) (param : Parameter) : String :=
  "   * @param " ++ ("\x7b" ++ parameterType param.type ++ "\x7d") ++ " [options.query." ++
    name ++ "]" ++ unlessEmpty param.description (" " ++ commentText param.description) ++ "\n"

/-- The remark above a method. -/
def remarkText (context : Context) (n : Nat) (method : Method) : String :=
  "  /**\n   * " ++ Text.upper method.verb ++ " " ++ documentedUri context n ++ "\n" ++
    unlessEmpty method.description ("   *\n   * " ++ commentText method.description ++ "\n") ++
    (if takesBody method then "   * @param \x7b*\x7d body\n" else "") ++
    "   * @param \x7bobject\x7d [options]\n" ++
    String.join (method.queryParameters.entries.map fun entry => queryText entry.1 entry.2) ++
    "   * @returns \x7bPromise<Response>\x7d\n   */\n"

/-- The method of a resource under a key. -/
def methodText (context : Context) (n : Nat) (key : String) (method : Method) : String :=
  remarkText context n method ++ "  [" ++ quoted key ++ "] (" ++
    (if takesBody method then "body, " else "") ++
    "options = \x7b\x7d) \x7b\n    return this._client.request(" ++
    quoted (Text.upper method.verb) ++ ", this._path, " ++
    (if takesBody method then "\x7b ...options, body \x7d" else "options") ++ ")\n  \x7d\n"

/-- The method that a resource refers to under a key, after an empty line. -/
def methodBlock (context : Context) (n : Nat) (entry : String × Nat) : String :=
  "\n" ++ ((context.tree.methods[entry.2]?).map (methodText context n entry.1)).getD ""

/-- How the class of a resource starts after its name. -/
def constructorText : String := joinLines [
  " \x7b",
  "  constructor (client = this, path = '') \x7b",
  "    this._client = client",
  "    this._path = path",
  ""]

/-- The class of a resource. -/
def classText (context : Context) (n : Nat) : String :=
  let resource := resourceAt context n
  "class " ++ className resource.id ++ constructorText ++
    String.join (resource.children.entries.map fun entry =>
      childText entry.1 (resourceAt context entry.2)) ++
    "  \x7d\n" ++ String.join (resource.methods.entries.map (methodBlock context n)) ++ "\x7d\n\n"

/-- How the client class starts after its name. -/
def optionsText : String := joinLines [
  " \x7b",
  "  constructor (options = \x7b\x7d) \x7b",
  "    super()",
  "    this.options = \x7b",
  "      baseUri: options.baseUri || DEFAULT_BASE_URI,",
  "      baseUriParameters: \x7b ...DEFAULT_BASE_URI_PARAMETERS, " ++
    "...options.baseUriParameters \x7d,",
  "      headers: \x7b ...options.headers \x7d,",
  "      fetch: options.fetch || globalThis.fetch,",
  ""]

/-- How the client starts a request. -/
def requestText : String := joinLines [
  "    \x7d",
  "  \x7d",
  "",
  "  baseUri () \x7b",
  "    return expand(this.options.baseUri, " ++
    "this.options.baseUriParameters).replace(/\\/$/, '')",
  "  \x7d",
  "",
  "  async request (method, path, \x7b body, query, headers \x7d = \x7b\x7d) \x7b",
  "    const url = new URL(this.baseUri() + path)",
  "    for (const [name, value] of Object.entries(query || \x7b\x7d)) \x7b",
  "      if (value !== undefined && value !== null) url.searchParams.append(name, " ++
    "String(value))",
  "    \x7d",
  "",
  "    const init = \x7b method, headers: \x7b ...this.options.headers, ...headers \x7d " ++
    "\x7d",
  ""]

/-- How the client sends a request, and what is exported. -/
def responseText : String := joinLines [
  "    if (body !== undefined) \x7b",
  "      init.headers['Content-Type'] = init.headers['Content-Type'] || " ++
    "'application/json'",
  "      init.body = typeof body === 'string' ? body : JSON.stringify(body)",
  "    \x7d",
  "",
  "    const response = await this.options.fetch(url, init)",
  "    if (!response.ok) \x7b",
  "      const error = new Error(\x60$\x7bmethod\x7d $\x7burl\x7d failed with " ++
    "$\x7bresponse.status\x7d\x60)",
  "      error.response = response",
  "      throw error",
  "    \x7d",
  "    return response",
  "  \x7d",
  "\x7d",
  "",
  "Client.supportedMethods = "]

/-- The option that holds the access token. -/
def tokenText : String := "      accessToken: options.accessToken,\n"

/-- How a request carries the access token. -/
def bearerText : String := joinLines [
  "    if (this.options.accessToken) init.headers.Authorization = \x60Bearer " ++
    "$\x7bthis.options.accessToken\x7d\x60",
  ""]

/-- The client class, which extends the class of the root. -/
def clientText (context : Context) (options : Options) : String :=
  "class Client extends " ++ className (resourceAt context Tree.root).id ++ optionsText ++
    (if sendsToken context options then tokenText else "") ++ requestText ++
    (if sendsToken context options then bearerText else "") ++ responseText ++
    (Json.array (context.supportedMethods.map .text)).compact ++
    "\n\nmodule.exports = Client\nmodule.exports.Client = Client"

/-- The module of a client. -/
def moduleText (context : Context) (options : Options) : String :=
  preludeText context ++ String.join (context.allResources.map (classText context)) ++
    clientText context options

/-! ## The other files -/

/-- The JSON form of an option; an option that is not given counts as null. -/
def optionText (options : Options) (name : String) : String :=
  ((options.get? name).getD .null).compact

/-- The name of the package as JSON: an option, or a name for the title. -/
def packageNameText (context : Context) (options : Options) : String :=
  if isSet options "name" then optionText options "name" else quoted (packageName context.title)

/-- The package description of a client. -/
def packageText (context : Context) (options : Options) : String :=
  "\x7b\n  \"name\": " ++ packageNameText context options ++ ",\n  \"version\": " ++
    optionText options "package_version" ++ ",\n  \"description\": " ++
    quoted ("Client for " ++ context.title) ++
    ",\n  \"main\": \"index.js\",\n  \"license\": " ++ optionText options "license" ++ ",\n" ++
    (if isSet options "repository" then
      "  \"repository\": " ++ optionText options "repository" ++ ",\n" else "") ++
    "  \"engines\": \x7b\n    \"node\": \">=18\"\n  \x7d\n\x7d"

/-- A chapter of the introduction. -/
def chapterText (doc : Documentation) : String :=
  "\n## " ++ doc.title ++ "\n\n" ++ doc.content ++ "\n"

/-- The row of a method in the introduction. -/
def rowText (context : Context) (method : Method) : String :=
  "| " ++ Text.upper method.verb ++ " | \x60" ++ documentedUri context method.resource ++
    "\x60 | " ++ commentText method.description ++ " |\n"

/-- The introduction to a client. -/
def introductionText (context : Context) (options : Options) : String :=
  let version := context.version.getD ""
  "# " ++ context.title ++ "\n\nGenerated client for " ++ context.title ++
    unlessEmpty version (" (" ++ version ++ ")") ++
    ".\n\n## Usage\n\n\x60\x60\x60js\nconst \x7b Client \x7d = require(" ++
    packageNameText context options ++ ")\n\nconst client = new Client(\x7b baseUri: " ++
    quoted context.baseUri ++ " \x7d)\n\x60\x60\x60\n" ++
    String.join (context.documentation.map chapterText) ++
    "\n## Methods\n\n| Method | URI | Description |\n| --- | --- | --- |\n" ++
    String.join (context.allMethods.map fun m =>
      ((context.tree.methods[m]?).map (rowText context)).getD "")

end ClientGen.JavaScript
