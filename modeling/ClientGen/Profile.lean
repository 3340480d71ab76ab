import ClientGen.Format
import ClientGen.Helper.Standard

/-!
# Profiles of languages

What the client of a language consists of: a template for each file, fragments that templates
include, helpers, a format and default options. A profile may also produce its files in its own
way.
-/

namespace ClientGen

/-- Options of a run, which templates can refer to. -/
abbrev Options := OrderedMap Json

/-- The options of a user over default options: a user's value takes the place of a default. -/
def Options.overlay (defaults user : Options) : Options :=
  defaults.insertMany user.entries

/-- The files of a client with their contents. -/
abbrev Files := OrderedMap String

/-- Why a client cannot be generated. -/
inductive GenerationError where
  /-- The format of the profile has no way to write names. -/
  | incompleteFormat
  /-- A template cannot be compiled or rendered. -/
  | render (file : String) (cause : TemplateError)
  /-- There is no template, or one that is a function fails. -/
  | template (reason : String)
deriving DecidableEq

/-- The text of an error. -/
def GenerationError.message : GenerationError → String
  | .incompleteFormat =>
    "invalid language profile: language profile must supply a \x60variable\x60 format function"
  | .render file _ => "failed to render " ++ file
  | .template reason => "template error: " ++ reason

/-- How a file is produced: from the source of a template, or by a function. -/
inductive TemplateBody where
  | source (text : String)
  | native (write : Context → Options → Except GenerationError String)

/-- The templates of a profile, bound to a context. -/
structure Renderer where
  /-- The names of the files, in the order of their declaration. -/
  names : List String
  /-- The content of a file. -/
  render : String → Except GenerationError String
  /-- What a template that is given as text writes. -/
  renderText : String → Except GenerationError String

/-- A profile of a language. -/
structure Profile where
  name : String
  templates : OrderedMap TemplateBody
  fragments : OrderedMap String
  helpers : OrderedMap Helper
  format : FormatChoices
  options : Options
  files : Option (Renderer → Context → Options → Except GenerationError Files)

end ClientGen
