import ClientGen.JavaScript.Profile
import ClientGen.Yaml.Reader

/-!
# Configurations

A directory may hold a configuration, a YAML file that says what is generated from which description
and where to. Everything in it may be left out.
-/

namespace ClientGen

/-- A kind of client. -/
inductive Target where
  | javaScript
deriving DecidableEq

namespace Target

/-- All targets. -/
def all : List Target := [.javaScript]

/-- The name of a target. -/
def name : Target → String
  | .javaScript => "js_client"

/-- The target with a name. -/
def ofName? (s : String) : Option Target :=
  all.find? fun target => target.name == s

/-- The profile of a target. -/
def profile : Target → Profile
  | .javaScript => JavaScript.profile

end Target

/-- What is generated from which description. -/
structure Configuration where
  input : String
  output : String
  target : Target
  options : Options
  denyWarnings : Bool

namespace Configuration

/-- What counts where there is no configuration, and for what a configuration leaves out. -/
def standard : Configuration where
  input := "api.yaml"
  output := "generated"
  target := .javaScript
  options := .empty
  denyWarnings := false

instance : Inhabited Configuration := ⟨standard⟩

/-- The fields of a configuration, the only record of a configuration file. -/
def fields : Fields Unit := fun _ => [
  ⟨"input", .text, .defaulted⟩,
  ⟨"output", .text, .defaulted⟩,
  ⟨"target", .choice (Target.all.map Target.name), .defaulted⟩,
  ⟨"options", .table .any, .defaulted⟩,
  ⟨"deny_warnings", .flag, .defaulted⟩]

/-- The configuration that a value of the fields' layout stands for. -/
def ofJson (value : Json) : Configuration where
  input := ((value.get? "input").bind Json.text?).getD standard.input
  output := ((value.get? "output").bind Json.text?).getD standard.output
  target := (((value.get? "target").bind Json.text?).bind Target.ofName?).getD standard.target
  options := .ofList (((value.get? "options").map Json.members).getD standard.options.entries)
  denyWarnings := ((value.get? "deny_warnings").bind Json.bool?).getD standard.denyWarnings

/-- The configuration that a text describes. -/
def ofText? (text : String) : Option Configuration :=
  (Yaml.read fields (.record ()) text).map ofJson

/-- The name of the file that holds a configuration. -/
def fileName : String := ".apigen.yaml"

/-- The configuration to start from, with comments. -/
def initialText : String := Text.joinLines [
  "# apigen configuration",
  "input: api.yaml          # API description (YAML or JSON)",
  "output: generated",
  "target: js_client",
  "",
  "# Exposed to templates as \x60options\x60; overrides the profile defaults.",
  "options: \x7b\x7d",
  "  # name: my-api-client",
  "  # repository: https://github.com/you/your-repo",
  "",
  "deny_warnings: false     # fail when part of the resource tree cannot be generated",
  ""]

end Configuration

end ClientGen
