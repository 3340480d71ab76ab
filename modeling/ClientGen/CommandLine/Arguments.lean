import ClientGen.Description.Read

/-!
# Arguments

The commands of the tool and their options. An option has a long name, after two hyphens, and may
have a letter, after one. Its value follows as the next argument, after an equals sign or, behind a
letter, at once. No option is given twice, and no value is empty.
-/

namespace ClientGen.CommandLine

/-- What the tool is asked to do. -/
inductive Command where
  /-- Show the version of the tool. -/
  | version
  /-- Generate a client from a description. -/
  | generate (input output : Option String) (denyWarnings : Bool)
  /-- Show the summary of a description. -/
  | inspect (input : String) (markup : Markup)
  /-- Write a configuration to start from. -/
  | init (force : Bool)
deriving DecidableEq

/-- An option of a command. -/
structure Switch where
  name : String
  letter : Option Char
  takesValue : Bool

/-- What one argument is. -/
inductive Argument where
  /-- An option without a value. -/
  | flag (name : String)
  /-- An option with its value. -/
  | valued (name value : String)
  /-- An option whose value is the next argument. -/
  | awaiting (name : String)
  /-- The end of the options. -/
  | stop
  /-- Nothing that the command has. -/
  | stray
deriving DecidableEq

/-- The argument that is an option with the text attached to it, if there is one. -/
def Argument.ofSwitch (switch : Switch) : Option (List Char) → Argument
  | none => if switch.takesValue then .awaiting switch.name else .flag switch.name
  | some value =>
    if switch.takesValue then .valued switch.name (String.ofList value) else .stray

/-- The argument that is an option found by its name or letter. -/
def Argument.ofFound (found : Option Switch) (value : Option (List Char)) : Argument :=
  match found with
  | some switch => .ofSwitch switch value
  | none => .stray

/-- What an argument is to a command with the options given. -/
def Argument.classify (switches : List Switch) (argument : String) : Argument :=
  match argument.toList with
  | ['-', '-'] => .stop
  | '-' :: '-' :: long =>
    let name := String.ofList (long.takeWhile (· ≠ '='))
    let found := switches.find? fun s => s.name == name
    match long.dropWhile (· ≠ '=') with
    | _ :: value => .ofFound found (some value)
    | [] => .ofFound found none
  | '-' :: letter :: attached =>
    let found := switches.find? fun s => s.letter == some letter
    match attached with
    | [] => .ofFound found none
    | '=' :: value => .ofFound found (some value)
    | value => .ofFound found (some value)
  | _ => .stray

/-- Whether an argument cannot be the value of the option before it. -/
def isOptionLike (argument : String) : Bool :=
  argument.toList.head? == some '-' && argument != "-"

/-- The options given, by their names. -/
abbrev Given := List (String × String)

/-- Adds an option that is not given yet. -/
def give (given : Given) (name value : String) : Option Given :=
  if (given.lookup name).isSome then none else some ((name, value) :: given)

/-- Adds an option with a value that is not empty. -/
def giveValue (given : Given) (name value : String) : Option Given :=
  if value = "" then none else give given name value

/-- The options that arguments give, if they are nothing else. -/
def readSwitches (switches : List Switch) (given : Given) : List String → Option Given
  | [] => some given
  | argument :: rest =>
    match Argument.classify switches argument with
    | .flag name => (give given name "").bind fun given => readSwitches switches given rest
    | .valued name value =>
      (giveValue given name value).bind fun given => readSwitches switches given rest
    | .awaiting name =>
      match rest with
      | [] => none
      | value :: rest =>
        if isOptionLike value then none
        else (giveValue given name value).bind fun given => readSwitches switches given rest
    | .stop => if rest = [] then some given else none
    | .stray => none

/-- The options of generating. -/
def generateSwitches : List Switch :=
  [⟨"input", some 'i', true⟩, ⟨"output", some 'o', true⟩, ⟨"deny-warnings", none, false⟩]

/-- The options of inspecting. -/
def inspectSwitches : List Switch :=
  [⟨"input", some 'i', true⟩, ⟨"format", none, true⟩]

/-- The options of writing a configuration. -/
def initSwitches : List Switch :=
  [⟨"force", none, false⟩]

/-- The markup with a name. -/
def markup? : String → Option Markup
  | "yaml" => some .yaml
  | "json" => some .json
  | _ => none

/-- Whether an argument asks for the version. Nothing that follows counts then. -/
def asksVersion (argument : String) : Bool :=
  argument == "--version" || ['-', 'V'].isPrefixOf argument.toList

/-- The command that arguments ask for. -/
def Command.ofArguments? : List String → Option Command
  | [] => none
  | "generate" :: rest => do
    let given ← readSwitches generateSwitches [] rest
    return .generate (given.lookup "input") (given.lookup "output")
      (given.lookup "deny-warnings").isSome
  | "inspect" :: rest => do
    let given ← readSwitches inspectSwitches [] rest
    return .inspect (← given.lookup "input") (← markup? ((given.lookup "format").getD "yaml"))
  | "init" :: rest => do
    let given ← readSwitches initSwitches [] rest
    return .init (given.lookup "force").isSome
  | first :: _ => if asksVersion first then some .version else none

end ClientGen.CommandLine
