import ClientGen.Helper.Set
import ClientGen.Template.Free

/-!
# Scopes

A scope is a stack of frames that bind names. A loop has a frame of its own, in which nothing is
bound any more when a round starts. A name that no frame binds is looked up in what the frames rest
on: the outermost frame of a template rests on the context, that of a callable on a closure. What is
found nowhere may be a helper.

A closure holds the values of the names that callables take from where they are defined. The
callables that are defined in one frame share a closure, and what is bound in the frame later is
bound in its closure as well.
-/

namespace ClientGen.Template

/-- Where the names are looked up that a frame does not bind. -/
inductive Base where
  | nothing
  | context
  | closure (number : Nat)
deriving DecidableEq

/-- A frame of a scope. -/
structure Frame where
  /-- The values of the names bound. -/
  bound : List (String × Value)
  /-- The state of the loop that the frame belongs to. -/
  loop : Option Value
  /-- The closure that the callables defined in the frame share. -/
  closure : Option Nat
  base : Base

/-- A frame that binds nothing and rests on nothing. -/
def Frame.empty : Frame := ⟨[], none, none, .nothing⟩

/-- A callable that a template has defined. -/
structure Callable where
  parameters : List (String × Option Expression)
  body : List Statement
  closure : Option Nat
  /-- Whether the body refers to the block that calls it. -/
  usesCaller : Bool

/-- The state of a run: the frames, the innermost first, the text written, and the callables and
the closures in the order in which they were made. -/
structure State where
  frames : List Frame
  written : String
  callables : Array Callable
  closures : Array (List (String × Value))

/-- What a run refers to. -/
structure Environment where
  context : Context
  options : OrderedMap Json
  helpers : HelperSet
  templates : OrderedMap (List Statement)

/-- A step of a run. -/
abbrev Run := StateT State (Except TemplateError)

namespace Run

/-! ## Looking up -/

/-- The value of a name in what a frame rests on. -/
def lookupBase (env : Environment) (closures : Array (List (String × Value))) (base : Base)
    (name : String) : Option Value :=
  match base with
  | .nothing => none
  | .context => env.context.member? env.options name
  | .closure number => closures[number]?.bind fun entries => entries.lookup name

/-- The value of a name in frames, the innermost first. -/
def lookupIn (env : Environment) (closures : Array (List (String × Value))) (name : String) :
    List Frame → Option Value
  | [] => none
  | frame :: outer =>
    match frame.bound.lookup name, if name = "loop" then frame.loop else none with
    | some value, _ | none, some value => some value
    | none, none =>
      match lookupBase env closures frame.base name with
      | some value => some value
      | none => lookupIn env closures name outer

/-- The value of a name. -/
def lookup? (env : Environment) (name : String) : Run (Option Value) := do
  let state ← get
  match lookupIn env state.closures name state.frames with
  | some value => return some value
  | none => return (env.helpers.lookup? name).map fun _ => .helper name

/-! ## Frames -/

/-- Changes the innermost frame. -/
def modifyFrame (change : Frame → Frame) : Run Unit :=
  modify fun state =>
    match state.frames with
    | frame :: outer => { state with frames := change frame :: outer }
    | [] => state

/-- Changes the entries of the closure of the innermost frame, if it has one. -/
def modifyClosure (change : List (String × Value) → List (String × Value)) : Run Unit :=
  modify fun state =>
    match state.frames.head?.bind Frame.closure with
    | some number => { state with closures := state.closures.modify number change }
    | none => state

/-- Runs a step in a frame of its own. -/
def inFrame {α : Type} (frame : Frame) (step : Run α) : Run α := do
  modify fun state => { state with frames := frame :: state.frames }
  let result ← step
  modify fun state => { state with frames := state.frames.drop 1 }
  return result

/-- Runs a step in a scope of one frame. -/
def inScope {α : Type} (frame : Frame) (step : Run α) : Run α := do
  let before := (← get).frames
  modify fun state => { state with frames := [frame] }
  let result ← step
  modify fun state => { state with frames := before }
  return result

/-- Runs a step while the innermost frame has no closure. -/
def withoutClosure (step : Run Unit) : Run Unit := do
  let before := (← get).frames.head?.bind Frame.closure
  modifyFrame fun frame => { frame with closure := none }
  step
  modifyFrame fun frame => { frame with closure := before }

/-! ## Binding -/

/-- Binds a name in the innermost frame and in its closure. -/
def bindName (name : String) (value : Value) : Run Unit := do
  modifyFrame fun frame => { frame with bound := insertEntry frame.bound name value }
  modifyClosure fun entries => insertEntry entries name value

mutual

/-- Binds a target to a value. Several names take the items of a list or the keys of a map. -/
def bindTarget (target : Target) (value : Value) : Run Unit := do
  match target with
  | .name name => bindName name value
  | .items targets =>
    match if value.isMap then value.iterate? else value.items? with
    | none => throw .cannotUnpack
    | some items =>
      if items.length = targets.length then bindTargets targets items else throw .cannotUnpack
  | .member _ _ => throw .invalidOperation

/-- Binds targets to values one by one. -/
def bindTargets (targets : List Target) (values : List Value) : Run Unit := do
  match targets, values with
  | target :: targets, value :: values =>
    bindTarget target value
    bindTargets targets values
  | _, _ => return

end

/-- Takes the value of a name into the closure of the innermost frame, unless it is there
already. -/
def enclose (env : Environment) (name : String) : Run Unit := do
  let value := (← lookup? env name).getD .undefined
  modify fun state =>
    match state.frames with
    | frame :: outer =>
      if frame.closure.isSome then state
      else
        { state with
          frames := { frame with closure := some state.closures.size } :: outer
          closures := state.closures.push [] }
    | [] => state
  modifyClosure fun entries =>
    if (entries.lookup name).isSome then entries else entries ++ [(name, value)]

/-! ## Rounds of loops -/

/-- The state of a loop in its round at an index. How many rounds there are may be unknown. -/
def roundValue (items : Array Value) (count : Option Nat) (index : Nat) : Value :=
  let optional (value : Option Value) : Value := value.getD .undefined
  let length := (count.map toString).getD "?"
  .object .loop ("<loop " ++ toString index ++ "/" ++ length ++ ">") (Value.entriesOf [
    ("index0", .ofNat index),
    ("index", .ofNat (index + 1)),
    ("length", optional (count.map .ofNat)),
    ("revindex", optional (count.map fun n => .ofNat (n - index))),
    ("revindex0", optional (count.map fun n => .ofNat (n - index - 1))),
    ("first", .flag (index == 0)),
    ("last", .flag (count == some (index + 1))),
    ("depth", .ofNat 1),
    ("depth0", .ofNat 0),
    ("previtem", if index = 0 then .undefined else optional items[index - 1]?),
    ("nextitem", optional items[index + 1]?)])

/-- Starts a round in the innermost frame. A closure that holds the state of the loop holds that of
the new round. -/
def startRound (round : Option Value) : Run Unit := do
  modifyFrame fun frame => { frame with bound := [], loop := round }
  modifyClosure fun entries => entries.map fun entry =>
    if entry.1 = "loop" then (entry.1, round.getD .undefined) else entry

end Run

end ClientGen.Template
