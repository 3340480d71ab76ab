import ClientGen.Template.Filter
import ClientGen.Template.Operation
import ClientGen.Template.Scope

/-!
# Running templates

Statements run in a scope, which gives values to names, and write text.

Included templates and callables run on the level below, where nesting may go on only as long as
its depth allows. The depth is at most 500, and an include or a call adds more than five to it, so
that a hundred levels are never used up.
-/

namespace ClientGen.Template

namespace Run

/-! ## Text and depth -/

/-- Writes text. -/
def write (text : String) : Run Unit :=
  modify fun state => { state with written := state.written ++ text }

/-- What a step writes, instead of writing it. -/
def captured (step : Run Unit) : Run String := do
  let before := (← get).written
  modify fun state => { state with written := "" }
  step
  let state ← get
  set { state with written := before }
  return state.written

/-- The value of a computation that may fail. -/
def lift {α : Type} (result : Except TemplateError α) : Run α :=
  match result with
  | .ok value => return value
  | .error error => throw error

/-- Runs a step whose failure is that of an include. -/
def including (step : Run Unit) : Run Unit := fun state =>
  match step state with
  | .ok result => .ok result
  | .error _ => .error .failedInclude

/-- The greatest depth of nesting. -/
def depthLimit : Nat := 500

/-- How much a call of a callable adds to the depth. -/
def callDepth : Nat := 6

/-- How much an include adds to the depth. -/
def includeDepth : Nat := 10

/-- Goes on if a depth is allowed. -/
def checkDepth (depth : Nat) : Run Unit := do
  if depth > depthLimit then throw .invalidOperation

/-- How statements run on the level below: their depth, whether they escape, and they
themselves. -/
abbrev Below := Nat → Bool → List Statement → Run Unit

/-- A text that has been written where texts may be escaped already. -/
def asValue (escape : Bool) (text : String) : Value :=
  if escape then .markup text else .text text

/-! ## Calls -/

/-- The values of the parameters of a callable; those that are not given are undefined. -/
def parameterValues? (callable : Callable) (given : Arguments) : Option (List Value) :=
  let names := callable.parameters.map Prod.fst
  let count := given.positional.length
  let accepted := names.drop count ++ if callable.usesCaller then ["caller"] else []
  if count ≤ names.length ∧
      given.named.all (fun entry => accepted.contains entry.1) then
    some (given.positional ++
      (names.drop count).map fun name => (given.named.lookup name).getD .undefined)
  else none

/-- The statements that bind the parameters of a callable, the last one first. One that is undefined
gets the value for when it is not given. -/
def parameterBindings (callable : Callable) (values : List Value) : List Statement :=
  (callable.parameters.zip values).reverse.map fun ((name, fallback), value) =>
    match value, fallback with
    | .undefined, some fallback => .assign (.name name) fallback
    | value, _ => .assign (.name name) (.literal value)

/-- The frame in which a callable runs. -/
def callableFrame (callable : Callable) (given : Arguments) : Frame :=
  let caller := (given.named.lookup "caller").getD .undefined
  { Frame.empty with
    bound := if callable.usesCaller then [("caller", caller)] else []
    base := (callable.closure.map Base.closure).getD .nothing }

/-- Calls a callable. -/
def callCallable (below : Below) (depth : Nat) (escape : Bool) (number : Nat)
    (given : Arguments) : Run Value := do
  match (← get).callables[number]? with
  | none => throw .invalidOperation
  | some callable =>
    match parameterValues? callable given with
    | none => throw .tooManyArguments
    | some values =>
      let depth := depth + callDepth
      checkDepth depth
      let body := parameterBindings callable values ++ callable.body
      let text ← captured (inScope (callableFrame callable given) (below depth escape body))
      return asValue escape text

/-- Calls a value. -/
def callValue (env : Environment) (below : Below) (depth : Nat) (escape : Bool) (value : Value)
    (given : Arguments) : Run Value :=
  match value with
  | .helper name => lift (env.helpers.call env.context name given.toList)
  | .object (.callable number) _ _ => callCallable below depth escape number given
  | _ => throw .invalidOperation

/-- Calls a member of a value. The state of a loop has none that can be called. -/
def callMember (env : Environment) (below : Below) (depth : Nat) (escape : Bool) (whole : Value)
    (name : String) (given : Arguments) : Run Value :=
  match whole, whole.member? env.context name with
  | .object .loop _ _, _ | _, none => throw .unknownMethod
  | _, some value => callValue env below depth escape value given

/-- Defines a callable in the innermost frame. -/
def declare (env : Environment) (name : String) (parameters : List (String × Option Expression))
    (body : List Statement) : Run Unit := do
  let free := freeNames parameters body
  (free.filter (· != "caller")).forM (enclose env)
  let state ← get
  let usesCaller := free.contains "caller"
  let closure := state.frames.head?.bind Frame.closure
  set { state with callables := state.callables.push ⟨parameters, body, closure, usesCaller⟩ }
  bindName name (.object (.callable state.callables.size) ("<macro " ++ name ++ ">")
    (Value.entriesOf [
      ("name", .text name),
      ("arguments", .list (parameters.map fun parameter => .text parameter.1)),
      ("caller", .flag usesCaller)]))

/-! ## Expressions -/

section Level

variable (env : Environment) (below : Below) (escape : Bool)

mutual

/-- The value of an expression. -/
def evaluate (depth : Nat) : Expression → Run Value
  | .literal value => return value
  | .name name => do return (← lookup? env name).getD .undefined
  | .list items => do return .list (← evaluateItems depth items)
  | .map entries => do return .map (← evaluateEntries depth [] entries)
  | .member whole name => do
    let whole ← evaluate depth whole
    lift (whole.member env.context name)
  | .item whole place => do
    let whole ← evaluate depth whole
    let place ← evaluate depth place
    lift (whole.item env.context place)
  | .slice whole start stop step => do
    let whole ← evaluate depth whole
    let start ← evaluate depth start
    let stop ← evaluate depth stop
    let step ← evaluate depth step
    lift (slice whole start stop step)
  | .negative operand => do
    let value ← evaluate depth operand
    lift (opposite value)
  | .negation operand => do return .flag !(← evaluate depth operand).isTrue
  | .binary operator left right => do
    let left ← evaluate depth left
    let right ← evaluate depth right
    lift (operator.apply env.context left right)
  | .compare first others => do
    let first ← evaluate depth first
    return .flag (← evaluateCompared depth first others)
  | .both left right => do
    let left ← evaluate depth left
    if left.isTrue then evaluate depth right else return left
  | .either left right => do
    let left ← evaluate depth left
    if left.isTrue then return left else evaluate depth right
  | .choice condition yes no => do
    if (← evaluate depth condition).isTrue then evaluate depth yes else evaluate depth no
  | .call name given => do
    let given ← evaluatePassed depth .empty given
    if ["loop", "super"].contains name then throw .invalidOperation
    else
      match ← lookup? env name with
      | some value => callValue env below depth escape value given
      | none => throw .unknownFunction
  | .callMember whole name given => do
    let whole ← evaluate depth whole
    let given ← evaluatePassed depth .empty given
    callMember env below depth escape whole name given
  | .callValue whole given => do
    let whole ← evaluate depth whole
    let given ← evaluatePassed depth .empty given
    callValue env below depth escape whole given
  | .filter input name given => do
    let input ← evaluate depth input
    let given ← evaluatePassed depth .empty given
    lift (applyFilter env.helpers env.context name input given)
  | .test subject name given => do
    let subject ← evaluate depth subject
    let given ← evaluatePassed depth .empty given
    return .flag (← lift (applyTest name subject given))

/-- The values of expressions. -/
def evaluateItems (depth : Nat) : List Expression → Run (List Value)
  | [] => return []
  | item :: rest => do
    let value ← evaluate depth item
    return value :: (← evaluateItems depth rest)

/-- The entries of a map after those given. -/
def evaluateEntries (depth : Nat) (entries : List (Value × Value)) :
    List (Expression × Expression) → Run (List (Value × Value))
  | [] => return entries
  | (key, value) :: rest => do
    let key ← evaluate depth key
    let value ← evaluate depth value
    evaluateEntries depth (Value.insertKey env.context entries key value) rest

/-- Whether a value and those of expressions compare as said. Nothing is computed after the first
comparison that does not hold. -/
def evaluateCompared (depth : Nat) (left : Value) : List (Comparison × Expression) → Run Bool
  | [] => return true
  | (comparison, operand) :: rest => do
    let right ← evaluate depth operand
    if ← lift (comparison.holds env.context left right) then evaluateCompared depth right rest
    else return false

/-- The arguments after those given. -/
def evaluatePassed (depth : Nat) (given : Arguments) :
    List (Passing × Expression) → Run Arguments
  | [] => return given
  | (passing, value) :: rest => do
    let value ← evaluate depth value
    let given ← lift (given.add env.context passing value)
    evaluatePassed depth given rest

end

/-! ## Statements -/

/-- Binds a target to a value. A member cannot be bound, but the value that has it is computed. -/
def assign (depth : Nat) (target : Target) (value : Value) : Run Unit := do
  if let .member whole _ := target then
    let _ ← evaluate env below escape depth whole
  bindTarget target value

/-- Runs the first template that exists, in the innermost frame. -/
def includeFirst (depth : Nat) (ignoreMissing : Bool) : List Value → Run Unit
  | [] => return
  | choice :: rest => do
    match choice.text? with
    | none => throw .invalidOperation
    | some name =>
      match env.templates.get? name, rest with
      | some body, _ =>
        let depth := depth + includeDepth
        checkDepth depth
        withoutClosure (including (below depth (escapes name) body))
      | none, [] => if ignoreMissing then return else throw .templateNotFound
      | none, rest => includeFirst depth ignoreMissing rest

/-- The names of templates that a value stands for. -/
def templateChoices (value : Value) : List Value :=
  match if value.isMap then value.iterate? else value.items? with
  | some names => names
  | none => [value]

/-- Runs a template in a frame of its own, without its text, and then a step in that frame, which
is given the text. -/
def importing {α : Type} (depth : Nat) (template : Expression) (step : String → Run α) : Run α := do
  let depth := depth + 1
  checkDepth depth
  inFrame .empty do
    let template ← evaluate env below escape depth template
    let text ← captured (includeFirst env below depth false (templateChoices template))
    step text

/-- What a template defines, in the order of the names. -/
def importedValue (text : String) (bound : List (String × Value)) : Value :=
  .object .imported text (Value.entriesOf (bound.mergeSort fun a b => a.1 ≤ b.1))

mutual

/-- Runs a statement. -/
def execute (depth : Nat) : Statement → Run Unit
  | .content text => write text
  | .output value => do
    let value ← evaluate env below escape depth value
    write (Template.written env.context escape value)
  | .branch condition yes no => do
    if (← evaluate env below escape depth condition).isTrue then executeAll depth yes
    else executeAll depth no
  | .loop target source condition body otherwise => do
    let source ← evaluate env below escape depth source
    let items ← lift (itemsOf source)
    checkDepth (depth + 1)
    let chosen ←
      match condition with
      | none => pure items
      | some condition => inFrame .empty (items.filterM fun item => do
          startRound none
          bindTarget target item
          return (← evaluate env below escape (depth + 1) condition).isTrue)
    if chosen.isEmpty then executeAll depth otherwise
    else
      let items := chosen.toArray
      let count := if condition.isNone && source.text?.isSome then none else some items.size
      inFrame .empty (chosen.zipIdx.forM fun (item, index) => do
        startRound (some (roundValue items count index))
        bindTarget target item
        executeAll (depth + 1) body)
  | .assign target value => do
    let value ← evaluate env below escape depth value
    assign env below escape depth target value
  | .capture target filters body => do
    let text ← captured (executeAll depth body)
    let filtered := filters.foldl (fun input filter => .filter input filter.name filter.given)
      (.literal (asValue escape text))
    let value ← evaluate env below escape depth filtered
    assign env below escape depth target value
  | .includeFirst names ignoreMissing => do
    let names ← evaluate env below escape depth names
    includeFirst env below depth ignoreMissing (templateChoices names)
  | .importAll template name => do
    let value ← importing env below escape depth template fun text => do
      return importedValue text (((← get).frames.head?.map Frame.bound).getD [])
    bindName name value
  | .importSome template names => do
    let values ← importing env below escape depth template fun _ =>
      names.mapM fun entry => do return (← lookup? env entry.1).getD .undefined
    (names.zip values).reverse.forM fun (entry, value) => bindName entry.2 value
  | .callable name parameters body => declare env name parameters body

/-- Runs statements one after the other. -/
def executeAll (depth : Nat) : List Statement → Run Unit
  | [] => return
  | statement :: rest => do
    execute depth statement
    executeAll depth rest

end

end Level

/-- Runs statements with a number of levels below them. -/
def atLevel (env : Environment) : Nat → Below
  | 0 => fun _ _ _ => throw .invalidOperation
  | level + 1 => fun depth escape body => executeAll env (atLevel env level) escape depth body

end Run

/-- The text that a template writes. -/
def render (env : Environment) (escape : Bool) (template : List Statement) :
    Except TemplateError String := do
  let start : State := ⟨[{ Frame.empty with base := .context }], "", #[], #[]⟩
  let (_, state) ← (Run.atLevel env 101 1 escape template).run start
  return state.written

end ClientGen.Template
