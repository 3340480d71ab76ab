import ClientGen.Description.Basic
import ClientGen.Profile
import ClientGen.Template.Reader
import ClientGen.Template.Run

/-!
# Generating clients

A client is generated from a description by a profile: the description is turned into a context, the
fragments and templates of the profile are compiled in order, and each template is rendered into the
file with its name.
-/

namespace ClientGen

open Template (Statement)

/-- Compiles a template and adds it under its name. -/
def compileInto (compiled : OrderedMap (List Statement)) (name source : String) :
    Except GenerationError (OrderedMap (List Statement)) :=
  match Template.parse source with
  | .ok statements => .ok (compiled.insert name statements)
  | .error cause => .error (.render name cause)

/-- The sources of a profile in the order in which they are compiled: the fragments, then the
templates that have one. -/
def Profile.sources (profile : Profile) : List (String × String) :=
  profile.fragments.entries ++ profile.templates.entries.filterMap fun entry =>
    match entry.2 with
    | .source text => some (entry.1, text)
    | .native _ => none

/-- The compiled templates of a profile. Of a fragment and a template with one name the template
counts. -/
def Profile.compile (profile : Profile) :
    Except GenerationError (OrderedMap (List Statement)) :=
  profile.sources.foldlM (fun compiled entry => compileInto compiled entry.1 entry.2) .empty

/-- Renders a compiled template. -/
def renderCompiled (env : Template.Environment) (file : String) (escape : Bool)
    (statements : List Statement) : Except GenerationError String :=
  match Template.render env escape statements with
  | .ok text => .ok text
  | .error cause => .error (.render file cause)

/-- The content of a file. -/
def Profile.renderFile (profile : Profile) (env : Template.Environment) (file : String) :
    Except GenerationError String :=
  match profile.templates.get? file with
  | some (.source _) =>
    match env.templates.get? file with
    | some statements => renderCompiled env file (Template.escapes file) statements
    | none => .error (.render file .templateNotFound)
  | some (.native write) => write env.context env.options
  | none => .error (.template
      ("profile \x60" ++ profile.name ++ "\x60 has no template for \x60" ++ file ++ "\x60"))

/-- What a template that is given as text writes. -/
def renderSource (env : Template.Environment) (source : String) :
    Except GenerationError String :=
  match Template.parse source with
  | .ok statements => renderCompiled env source false statements
  | .error cause => .error (.render source cause)

/-- The templates of a profile, bound to a context. -/
def Profile.renderer (profile : Profile) (context : Context) (options : Options) :
    Except GenerationError Renderer := do
  let templates ← profile.compile
  let env : Template.Environment := { context, options, helpers := ⟨profile.helpers⟩, templates }
  return {
    names := profile.templates.keys
    render := profile.renderFile env
    renderText := renderSource env }

/-- All files, in the order of their declaration. -/
def Renderer.renderAll (renderer : Renderer) : Except GenerationError Files :=
  renderer.names.foldlM (fun files name => do
    let text ← renderer.render name
    return files.insert name text) .empty

/-- A generated client. -/
structure Client where
  files : Files
  context : Context
  options : Options

/-- The client that a profile generates from a description. An incomplete format is reported before
anything else. -/
def generate (spec : Specification) (profile : Profile) (user : Options) :
    Except GenerationError Client :=
  match profile.format.resolve? with
  | none => .error .incompleteFormat
  | some format => do
    let (context, _) := Context.build format spec .fresh
    let options := profile.options.overlay user
    let renderer ← profile.renderer context options
    let files ←
      match profile.files with
      | some produce => produce renderer context options
      | none => renderer.renderAll
    return { files, context, options }

end ClientGen
