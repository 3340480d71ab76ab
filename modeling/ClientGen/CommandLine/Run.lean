import ClientGen.CommandLine.Arguments
import ClientGen.CommandLine.Host
import ClientGen.Configuration
import ClientGen.Generate
import ClientGen.Summary
import ClientGen.Yaml.Printer

/-!
# Running commands

What each command does on a host. Generating looks at everything that can fail before it writes
anything: the configuration, the description, the files of the client and the warnings.
-/

namespace ClientGen.CommandLine

open Host

/-- Why a command fails. -/
inductive Failure where
  | configurationUnreadable
  | configurationMalformed
  | configurationExists
  /-- A directory is where the configuration is to be written. -/
  | configurationBlocked
  | unreadable (path : String)
  | malformed (path : String)
  | generation (cause : GenerationError)
  | warningsDenied (count : Nat)
  | outputBlocked (path : String)
  | directoryBlocked (path : String)
  | fileBlocked (path : String)
deriving DecidableEq

/-- The text of a failure. -/
def Failure.message : Failure → String
  | .configurationUnreadable => "failed to read config " ++ Configuration.fileName
  | .configurationMalformed => "failed to parse config " ++ Configuration.fileName
  | .configurationExists =>
    Configuration.fileName ++ " already exists. Use --force to overwrite."
  | .configurationBlocked => "Is a directory (os error 21)"
  | .unreadable path => "failed to read " ++ path
  | .malformed path => "failed to parse " ++ path
  | .generation cause => cause.message
  | .warningsDenied count =>
    toString count ++ " resource tree warning(s) with --deny-warnings set"
  | .outputBlocked path => "failed to create output directory " ++ path
  | .directoryBlocked path => "failed to create directory " ++ path
  | .fileBlocked path => "failed to write " ++ path

section

variable {m : Type → Type} [Monad m] [Host m]

/-- An action of a command, which may fail. -/
abbrev Action (m : Type → Type) := ExceptT Failure m

/-- Fails unless a condition holds. -/
def demand (condition : Bool) (failure : Failure) : Action m Unit :=
  if condition then pure () else throw failure

/-- The configuration of the current directory. -/
def loadConfiguration : Action m Configuration := do
  if !(← isPresent (m := m) Configuration.fileName) then
    return .standard
  match ← readText? (m := m) Configuration.fileName with
  | none => throw .configurationUnreadable
  | some text =>
    match Configuration.ofText? text with
    | none => throw .configurationMalformed
    | some configuration => return configuration

/-- The markup of a file, by its extension. -/
def markupOf (path : String) : Markup :=
  if hasExtension path "json" then .json else .yaml

/-- The description in a file. -/
def loadSpecification (path : String) : Action m Specification := do
  match ← readText? (m := m) path with
  | none => throw (.unreadable path)
  | some text =>
    match Specification.read (markupOf path) text with
    | .error _ => throw (.malformed path)
    | .ok spec => return spec

/-- What stands in a directory of generated files that have no introduction of their own. -/
def introduction : String := Text.joinLines [
  "# Generated Code",
  "",
  "This directory was generated by [apigen](https://github.com/urmzd/apigen).",
  "",
  "**Do not edit manually.** Changes will be overwritten on the next run.",
  "",
  "To regenerate:",
  "",
  "\x60\x60\x60sh",
  "apigen generate",
  "\x60\x60\x60",
  ""]

/-- The name of the file with the introduction. -/
def introductionName : String := "README.md"

/-- The files to write: those of a client, with an introduction if they have none. -/
def filesToWrite (files : Files) : List (String × String) :=
  if files.contains introductionName then files.entries
  else files.entries ++ [(introductionName, introduction)]

/-- Writes a file in a directory. -/
def writeIn (directory : String) (file : String × String) : Action m Unit := do
  let path := joinPath directory file.1
  let above := parentPath path
  demand (← makePath (m := m) above) (.directoryBlocked above)
  demand (← writeText (m := m) path file.2) (.fileBlocked path)
  report (m := m) ("  wrote " ++ path)

/-- Generates a client. -/
def generateClient (input output : Option String) (denyWarnings : Bool) : Action m Unit := do
  let configuration ← loadConfiguration
  let directory := output.getD configuration.output
  let spec ← loadSpecification (input.getD configuration.input)
  let target := configuration.target
  report (m := m) ("Generating " ++ target.name ++ " → " ++ directory)
  let client ←
    match generate spec target.profile configuration.options with
    | .ok client => pure client
    | .error cause => throw (.generation cause)
  let warnings := client.context.warnings
  warnings.forM fun w => report (m := m) ("warning: " ++ w.message)
  let denied := (denyWarnings || configuration.denyWarnings) && warnings ≠ []
  demand (!denied) (.warningsDenied warnings.length)
  demand (← makePath (m := m) directory) (.outputBlocked directory)
  let files := filesToWrite client.files
  files.forM (writeIn directory)
  report (m := m) ("Generated " ++ toString files.length ++ " files in " ++ directory)
  report (m := m) ""
  report (m := m)
    "The generated directory should not be edited manually, changes will be overwritten."

/-- The text of a summary in a markup, with the break that ends its last line. -/
def summaryText (summary : Summary) : Markup → String
  | .yaml => Yaml.render summary.toJson
  | .json => summary.toJson.indented 2 ++ "\n"

/-- Shows the summary of a description. -/
def showSummary (input : String) (markup : Markup) : Action m Unit := do
  let configuration ← loadConfiguration
  let spec ← loadSpecification input
  match configuration.target.profile.format.resolve? with
  | none => throw (.generation .incompleteFormat)
  | some format =>
    let context := (Context.build format spec .fresh).1
    print (m := m) (summaryText (.ofContext context) markup)

/-- Writes a configuration to start from. -/
def createConfiguration (force : Bool) : Action m Unit := do
  let present ← isPresent (m := m) Configuration.fileName
  demand (force || !present) .configurationExists
  demand (← writeText (m := m) Configuration.fileName Configuration.initialText)
    .configurationBlocked
  report (m := m) ("Created " ++ Configuration.fileName)

/-- The name and version of the tool. -/
def versionText : String := "apigen 0.3.0\n"

/-- Performs a command. -/
def Command.perform : Command → Action m Unit
  | .version => print (m := m) versionText
  | .generate input output denyWarnings => generateClient input output denyWarnings
  | .inspect input markup => showSummary input markup
  | .init force => createConfiguration force

/-- What the tool says about its use. -/
def usage : String := Text.joinLines [
  "Usage: apigen generate [-i FILE] [-o DIRECTORY] [--deny-warnings]",
  "       apigen inspect -i FILE [--format yaml|json]",
  "       apigen init [--force]",
  "       apigen --version"]

/-- Runs the tool with arguments and returns its exit code: 0 for success, 1 for a failure, and 2 if
the arguments ask for no command. -/
def run (arguments : List String) : m UInt32 :=
  match Command.ofArguments? arguments with
  | none => do
    report usage
    return 2
  | some command => do
    match ← command.perform.run with
    | .ok () => return 0
    | .error failure =>
      report ("Error: " ++ failure.message)
      return 1

end

end ClientGen.CommandLine
