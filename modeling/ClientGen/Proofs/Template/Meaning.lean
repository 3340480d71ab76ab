import ClientGen.Template.Run

/-!
# What templates mean

A template that binds names only in its loops and calls only helpers can be read without running it:
an expression means a value in the frames around it, and a statement means the text that it writes.
A run from there writes just that text.
-/

namespace ClientGen.Template

/-! ## Meanings -/

section Scope

variable (env : Environment) (frames : List Frame)

/-- What a name stands for where nothing has been declared. -/
def nameMeaning? (name : String) : Option Value :=
  match Run.lookupIn env #[] name frames with
  | some value => some value
  | none => (env.helpers.lookup? name).map fun _ => .helper name

mutual

/-- The value that an expression means. -/
def Expression.meaning? : Expression → Option Value
  | .literal value => some value
  | .name name => some ((nameMeaning? env frames name).getD .undefined)
  | .member whole name => do ((← whole.meaning?).member env.context name).toOption
  | .negation operand => do return .flag !(← operand.meaning?).isTrue
  | .binary operator left right => do
    let left ← left.meaning?
    let right ← right.meaning?
    (operator.apply env.context left right).toOption
  | .both left right => do
    let left ← left.meaning?
    if left.isTrue then right.meaning? else return left
  | .either left right => do
    let left ← left.meaning?
    if left.isTrue then return left else right.meaning?
  | .call name given => do
    let given ← meaningOfPassed? .empty given
    match nameMeaning? env frames name with
    | some (.helper helper) =>
      if ["loop", "super"].contains name then none
      else (env.helpers.call env.context helper given.toList).toOption
    | _ => none
  | .filter input name given => do
    let input ← input.meaning?
    let given ← meaningOfPassed? .empty given
    (applyFilter env.helpers env.context name input given).toOption
  | .test subject name given => do
    let subject ← subject.meaning?
    let given ← meaningOfPassed? .empty given
    return .flag (← (applyTest name subject given).toOption)
  | _ => none

/-- The arguments that are meant after those given. -/
def meaningOfPassed? (given : Arguments) : List (Passing × Expression) → Option Arguments
  | [] => some given
  | (passing, value) :: rest => do
    let value ← value.meaning?
    let given ← (given.add env.context passing value).toOption
    meaningOfPassed? given rest

end

end Scope

mutual

/-- The names bound after those given when a target takes a value. -/
def Target.bound? (bound : List (String × Value)) (target : Target) (value : Value) :
    Option (List (String × Value)) :=
  match target with
  | .name name => some (insertEntry bound name value)
  | .items targets =>
    match if value.isMap then value.iterate? else value.items? with
    | none => none
    | some items => if items.length = targets.length then boundByAll? bound targets items else none
  | .member _ _ => none

/-- The names bound after those given when targets take values one by one. -/
def boundByAll? (bound : List (String × Value)) (targets : List Target) (values : List Value) :
    Option (List (String × Value)) :=
  match targets, values with
  | target :: targets, value :: values => do
    boundByAll? (← target.bound? bound value) targets values
  | _, _ => some bound

end

/-- A frame from which no callable takes a value. -/
def openFrame (bound : List (String × Value)) (loop : Option Value) (base : Base) : Frame :=
  ⟨bound, loop, none, base⟩

/-- The frame of a loop in a round. -/
def roundFrame (items : List Value) (count : Option Nat) (index : Nat)
    (bound : List (String × Value)) : Frame :=
  openFrame bound (some (Run.roundValue items.toArray count index)) .nothing

/-- How statements are read on the level below: their depth, whether they escape, the frames around
them, and they themselves. -/
abbrev Nested := Nat → Bool → List Frame → List Statement → Option String

section Level

variable (env : Environment) (below : Nested) (escape : Bool)

mutual

/-- The text that a statement means. -/
def Statement.meaning? (depth : Nat) (frames : List Frame) : Statement → Option String
  | .content text => some text
  | .output value => (value.meaning? env frames).map (written env.context escape)
  | .branch condition yes no => do
    if (← condition.meaning? env frames).isTrue then meaningOfAll? depth frames yes
    else meaningOfAll? depth frames no
  | .loop target source none body otherwise => do
    let source ← source.meaning? env frames
    let items ← source.iterate?
    if Run.depthLimit < depth + 1 then none
    else if items.isEmpty then meaningOfAll? depth frames otherwise
    else
      let count := if source.text?.isSome then none else some items.length
      let rounds ← items.zipIdx.mapM fun (item, index) => do
        let bound ← target.bound? [] item
        meaningOfAll? (depth + 1) (roundFrame items count index bound :: frames) body
      return String.join rounds
  | .includeFirst names _ => do
    match ← names.meaning? env frames with
    | .text name =>
      if Run.depthLimit < depth + Run.includeDepth then none
      else below (depth + Run.includeDepth) (escapes name) frames (← env.templates.get? name)
    | _ => none
  | _ => none

/-- The text that statements mean one after the other. -/
def meaningOfAll? (depth : Nat) (frames : List Frame) : List Statement → Option String
  | [] => some ""
  | statement :: rest => do
    return (← statement.meaning? depth frames) ++ (← meaningOfAll? depth frames rest)

end

end Level

/-- The text that statements mean with a number of levels below them. -/
def meaningAt? (env : Environment) : Nat → Nested
  | 0 => fun _ _ _ _ => none
  | level + 1 => fun depth escape frames body =>
      meaningOfAll? env (meaningAt? env level) escape depth frames body

/-! ## Runs -/

/-- The state of a run in frames, in which nothing has been declared. -/
def State.plain (frames : List Frame) (written : String) : State := ⟨frames, written, #[], #[]⟩

namespace Run

variable {env : Environment} {frames : List Frame} {written : String} {state state' : State}

/-- A step that succeeds goes on with its result in the state after it. -/
theorem bind_eq {α β : Type} {step : Run α} {next : α → Run β} {result : α}
    (h : step state = .ok (result, state')) : (step >>= next) state = next result state' := by
  show (step state >>= fun after => next after.1 after.2) = _
  rw [h]
  rfl

/-- A result that is a value is returned without a change of state. -/
theorem lift_eq {α : Type} {result : Except TemplateError α} {value : α}
    (h : result.toOption = some value) : lift result state = .ok (value, state) := by
  cases result with
  | error error => cases h
  | ok found =>
    obtain rfl : found = value := Option.some.inj h
    rfl

/-- A name is looked up in the frames first, and then among the helpers. -/
theorem lookup?_apply (name : String) (state : State) : lookup? env name state =
    .ok ((lookupIn env state.closures name state.frames).or
      ((env.helpers.lookup? name).map fun _ => .helper name), state) := by
  have hstate : (get : Run State) state = .ok (state, state) := rfl
  rw [lookup?, bind_eq hstate]
  cases lookupIn env state.closures name state.frames <;> rfl

/-- A name is looked up as it is meant. -/
theorem lookup?_plain (name : String) : lookup? env name (.plain frames written) =
    .ok (nameMeaning? env frames name, .plain frames written) := by
  rw [lookup?_apply, nameMeaning?, State.plain]
  cases lookupIn env #[] name frames <;> rfl

variable {below : Below} {escape : Bool} {depth : Nat}

mutual

/-- An expression has the value that it means. -/
theorem evaluate_eq : ∀ {expression : Expression} {value : Value},
    expression.meaning? env frames = some value →
    evaluate env below escape depth expression (.plain frames written) =
      .ok (value, .plain frames written)
  | .literal _, _, h => by
    rw [evaluate, ← Option.some.inj h]
    rfl
  | .name name, value, h => by
    rw [evaluate, bind_eq (lookup?_plain name), ← Option.some.inj h]
    rfl
  | .member whole name, value, h => by
    obtain ⟨whole, hwhole, hmember⟩ := Option.bind_eq_some_iff.mp h
    rw [evaluate, bind_eq (evaluate_eq hwhole), lift_eq hmember]
  | .negation operand, value, h => by
    obtain ⟨operand, hoperand, hvalue⟩ := Option.bind_eq_some_iff.mp h
    rw [evaluate, bind_eq (evaluate_eq hoperand), ← Option.some.inj hvalue]
    rfl
  | .binary operator left right, value, h => by
    obtain ⟨left, hleft, h⟩ := Option.bind_eq_some_iff.mp h
    obtain ⟨right, hright, hvalue⟩ := Option.bind_eq_some_iff.mp h
    rw [evaluate, bind_eq (evaluate_eq hleft), bind_eq (evaluate_eq hright), lift_eq hvalue]
  | .both left right, value, h => by
    obtain ⟨left, hleft, h⟩ := Option.bind_eq_some_iff.mp h
    rw [evaluate, bind_eq (evaluate_eq hleft)]
    split at h
    · rw [if_pos ‹_›, evaluate_eq h]
    · rw [if_neg ‹_›, ← Option.some.inj h]
      rfl
  | .either left right, value, h => by
    obtain ⟨left, hleft, h⟩ := Option.bind_eq_some_iff.mp h
    rw [evaluate, bind_eq (evaluate_eq hleft)]
    split at h
    · rw [if_pos ‹_›, ← Option.some.inj h]
      rfl
    · rw [if_neg ‹_›, evaluate_eq h]
  | .call name given, value, h => by
    obtain ⟨given, hgiven, h⟩ := Option.bind_eq_some_iff.mp h
    rw [evaluate, bind_eq (evaluatePassed_eq hgiven)]
    split at h
    · rename_i helper hname
      split at h
      · cases h
      · rw [if_neg ‹_›, bind_eq (lookup?_plain name), hname]
        exact lift_eq h
    · cases h
  | .filter input name given, value, h => by
    obtain ⟨input, hinput, h⟩ := Option.bind_eq_some_iff.mp h
    obtain ⟨given, hgiven, hvalue⟩ := Option.bind_eq_some_iff.mp h
    rw [evaluate, bind_eq (evaluate_eq hinput), bind_eq (evaluatePassed_eq hgiven), lift_eq hvalue]
  | .test subject name given, value, h => by
    obtain ⟨subject, hsubject, h⟩ := Option.bind_eq_some_iff.mp h
    obtain ⟨given, hgiven, h⟩ := Option.bind_eq_some_iff.mp h
    obtain ⟨result, hresult, hvalue⟩ := Option.bind_eq_some_iff.mp h
    rw [evaluate, bind_eq (evaluate_eq hsubject), bind_eq (evaluatePassed_eq hgiven),
      bind_eq (lift_eq hresult), ← Option.some.inj hvalue]
    rfl

/-- What is passed to a call is evaluated to what it means. -/
theorem evaluatePassed_eq : ∀ {passed : List (Passing × Expression)} {before given : Arguments},
    meaningOfPassed? env frames before passed = some given →
    evaluatePassed env below escape depth before passed (.plain frames written) =
      .ok (given, .plain frames written)
  | [], before, given, h => by
    rw [evaluatePassed, ← Option.some.inj h]
    rfl
  | (passing, value) :: rest, before, given, h => by
    obtain ⟨value, hvalue, h⟩ := Option.bind_eq_some_iff.mp h
    obtain ⟨after, hafter, hrest⟩ := Option.bind_eq_some_iff.mp h
    rw [evaluatePassed, bind_eq (evaluate_eq hvalue), bind_eq (lift_eq hafter),
      evaluatePassed_eq hrest]

end

/-! ## Statements -/

/-- No frame has a closure, as where nothing has been declared. -/
def Unshared (frames : List Frame) : Prop :=
  ∀ frame ∈ frames, frame.closure = none

/-- A frame without a closure leaves frames unshared. -/
theorem Unshared.cons {frame : Frame} (h : Unshared frames) (hframe : frame.closure = none) :
    Unshared (frame :: frames) :=
  List.forall_mem_cons.mpr ⟨hframe, h⟩

/-- A depth within the limit passes. -/
theorem checkDepth_eq (h : ¬depthLimit < depth) : checkDepth depth state = .ok ((), state) := by
  rw [checkDepth, if_neg h]
  rfl

section Binding

variable {bound : List (String × Value)} {loop : Option Value} {base : Base}

/-- A name is bound in the innermost frame. -/
theorem bindName_eq (name : String) (value : Value) :
    bindName name value (.plain (openFrame bound loop base :: frames) written) =
      .ok ((), .plain (openFrame (insertEntry bound name value) loop base :: frames) written) := rfl

/-- A round starts with an innermost frame that binds nothing. -/
theorem startRound_eq (round : Option Value) :
    startRound round (.plain (openFrame bound loop base :: frames) written) =
      .ok ((), .plain (openFrame [] round base :: frames) written) := rfl

mutual

/-- A target takes a value as it is meant to. -/
theorem bindTarget_eq : ∀ {target : Target} {value : Value} {bound after : List (String × Value)},
    target.bound? bound value = some after →
    bindTarget target value (.plain (openFrame bound loop base :: frames) written) =
      .ok ((), .plain (openFrame after loop base :: frames) written)
  | .name name, value, bound, after, h => by
    rw [Target.bound?] at h
    rw [bindTarget, bindName_eq name value, ← Option.some.inj h]
  | .items targets, value, bound, after, h => by
    rw [Target.bound?] at h
    rw [bindTarget]
    split at h
    · cases h
    · rename_i items hitems
      split at h
      · rename_i hlength
        simp only [hitems, if_pos hlength]
        exact bindTargets_eq h
      · cases h
  | .member _ _, _, _, _, h => by
    rw [Target.bound?] at h
    cases h

/-- Targets are bound one by one in the innermost frame. -/
theorem bindTargets_eq : ∀ {targets : List Target} {values : List Value}
    {bound after : List (String × Value)}, boundByAll? bound targets values = some after →
    bindTargets targets values (.plain (openFrame bound loop base :: frames) written) =
      .ok ((), .plain (openFrame after loop base :: frames) written)
  | [], values, bound, after, h => by
    simp only [boundByAll?] at h
    simp only [bindTargets, ← Option.some.inj h]
    rfl
  | target :: targets, [], bound, after, h => by
    simp only [boundByAll?] at h
    simp only [bindTargets, ← Option.some.inj h]
    rfl
  | target :: targets, value :: values, bound, after, h => by
    rw [boundByAll?] at h
    obtain ⟨next, hnext, hrest⟩ := Option.bind_eq_some_iff.mp h
    rw [bindTargets, bind_eq (bindTarget_eq hnext), bindTargets_eq hrest]

end

end Binding

/-! ## Rounds -/

section Rounds

variable {α : Type} {step : α → Run Unit} {meaning : α → Option String}

/-- Rounds that start in any frame of the loop and write what they mean write the texts of all of
them. -/
theorem forM_eq {items : List α} {texts : List String}
    (hstep : ∀ {item text} bound loop written, meaning item = some text →
      ∃ after round, step item (.plain (openFrame bound loop .nothing :: frames) written) =
        .ok ((), .plain (openFrame after round .nothing :: frames) (written ++ text)))
    (h : items.mapM meaning = some texts) (bound : List (String × Value)) (loop : Option Value)
    (written : String) : ∃ after round,
      items.forM step (.plain (openFrame bound loop .nothing :: frames) written) =
        .ok ((), .plain (openFrame after round .nothing :: frames)
          (written ++ String.join texts)) := by
  induction items generalizing texts bound loop written with
  | nil =>
    obtain rfl : [] = texts := Option.some.inj h
    exact ⟨bound, loop, by rw [String.join_nil, String.append_empty]; rfl⟩
  | cons item rest ih =>
    rw [List.mapM_cons] at h
    obtain ⟨text, htext, h⟩ := Option.bind_eq_some_iff.mp h
    obtain ⟨others, hothers, h⟩ := Option.bind_eq_some_iff.mp h
    obtain rfl : text :: others = texts := Option.some.inj h
    obtain ⟨middle, round, hfirst⟩ := hstep bound loop written htext
    obtain ⟨after, last, hrest⟩ := ih hothers middle round (written ++ text)
    refine ⟨after, last, ?_⟩
    rw [List.forM, bind_eq hfirst, hrest, String.join_cons, String.append_assoc]

end Rounds

/-! ## Statements -/

section Statements

variable {nested : Nested}

/-- What runs on the level below writes the texts that are meant. -/
def Writes (below : Below) (nested : Nested) : Prop :=
  ∀ depth escape frames body text written, Unshared frames →
    nested depth escape frames body = some text →
    below depth escape body (.plain frames written) = .ok ((), .plain frames (written ++ text))

/-- A template is included with the text that it means. The innermost frame has no closure to be put
aside. -/
theorem includeFirst_eq (hbelow : Writes below nested) (hframes : Unshared frames)
    {name text : String} {ignoreMissing : Bool} {body : List Statement}
    (hbody : env.templates.get? name = some body) (hdepth : ¬depthLimit < depth + includeDepth)
    (htext : nested (depth + includeDepth) (escapes name) frames body = some text) :
    includeFirst env below depth ignoreMissing (templateChoices (.text name))
      (.plain frames written) = .ok ((), .plain frames (written ++ text)) := by
  show includeFirst env below depth ignoreMissing [.text name] (.plain frames written) = _
  simp only [includeFirst, Value.text?, hbody]
  rw [bind_eq (checkDepth_eq hdepth)]
  have hrun : including (below (depth + includeDepth) (escapes name) body) (.plain frames written) =
      .ok ((), .plain frames (written ++ text)) := by
    rw [including, hbelow _ _ _ _ _ written hframes htext]
  cases frames with
  | nil =>
    refine (bind_eq rfl).trans ?_
    refine (bind_eq rfl).trans ?_
    exact (bind_eq hrun).trans rfl
  | cons frame outer =>
    obtain ⟨bound, loop, closure, base⟩ := frame
    obtain rfl : closure = none := (List.forall_mem_cons.mp hframes).1
    refine (bind_eq rfl).trans ?_
    refine (bind_eq rfl).trans ?_
    exact (bind_eq hrun).trans rfl

/-- A round starts with nothing bound, whatever the round before has left, and writes the text that
its statements mean. -/
theorem round_eq {target : Target} {item : Value} {body : List Statement} {text : String}
    {items : List Value} {count : Option Nat} {index : Nat} (hframes : Unshared frames)
    (hbody : ∀ {frames text} written, Unshared frames →
      meaningOfAll? env nested escape (depth + 1) frames body = some text →
      executeAll env below escape (depth + 1) body (.plain frames written) =
        .ok ((), .plain frames (written ++ text)))
    (h : (do
      let bound ← target.bound? [] item
      meaningOfAll? env nested escape (depth + 1) (roundFrame items count index bound :: frames)
        body) = some text) (bound : List (String × Value)) (loop : Option Value)
    (written : String) :
    ∃ after round, (do
      startRound (some (roundValue items.toArray count index))
      bindTarget target item
      executeAll env below escape (depth + 1) body)
        (.plain (openFrame bound loop .nothing :: frames) written) =
      .ok ((), .plain (openFrame after round .nothing :: frames) (written ++ text)) := by
  obtain ⟨after, hafter, htext⟩ := Option.bind_eq_some_iff.mp h
  refine ⟨after, some (roundValue items.toArray count index), ?_⟩
  rw [bind_eq (startRound_eq _), bind_eq (bindTarget_eq hafter)]
  exact hbody written (hframes.cons rfl) htext

mutual

/-- A statement writes the text that it means. -/
theorem execute_eq (hbelow : Writes below nested) : ∀ {statement : Statement} {depth : Nat}
    {frames : List Frame} {text : String} (written : String), Unshared frames →
    statement.meaning? env nested escape depth frames = some text →
    execute env below escape depth statement (.plain frames written) =
      .ok ((), .plain frames (written ++ text))
  | .content _, depth, frames, text, written, _, h => by
    rw [Statement.meaning?] at h
    rw [execute, ← Option.some.inj h]
    rfl
  | .output value, depth, frames, text, written, _, h => by
    rw [Statement.meaning?] at h
    obtain ⟨value, hvalue, rfl⟩ := Option.map_eq_some_iff.mp h
    rw [execute, bind_eq (evaluate_eq hvalue)]
    rfl
  | .branch condition yes no, depth, frames, text, written, hframes, h => by
    rw [Statement.meaning?] at h
    obtain ⟨condition, hcondition, h⟩ := Option.bind_eq_some_iff.mp h
    rw [execute, bind_eq (evaluate_eq hcondition)]
    split at h
    · rw [if_pos ‹_›, executeAll_eq hbelow written hframes h]
    · rw [if_neg ‹_›, executeAll_eq hbelow written hframes h]
  | .loop target source none body otherwise, depth, frames, text, written, hframes, h => by
    rw [Statement.meaning?] at h
    obtain ⟨source, hsource, h⟩ := Option.bind_eq_some_iff.mp h
    obtain ⟨items, hitems, h⟩ := Option.bind_eq_some_iff.mp h
    have hitemsOf : (itemsOf source).toOption = some items := by
      rw [itemsOf, hitems]
      rfl
    rw [execute, bind_eq (evaluate_eq hsource), bind_eq (lift_eq hitemsOf)]
    split at h
    · cases h
    · rename_i hdepth
      rw [bind_eq (checkDepth_eq hdepth)]
      simp only [pure_bind]
      split at h
      · rw [if_pos ‹_›, executeAll_eq hbelow written hframes h]
      · rw [if_neg ‹_›]
        obtain ⟨texts, htexts, h⟩ := Option.bind_eq_some_iff.mp h
        rw [← Option.some.inj h]
        obtain ⟨after, round, hrounds⟩ := forM_eq
          (fun bound loop written hround => round_eq hframes (executeAll_eq hbelow) hround bound
            loop written) htexts [] none written
        refine (bind_eq rfl).trans ?_
        exact (bind_eq hrounds).trans rfl
  | .includeFirst names ignoreMissing, depth, frames, text, written, hframes, h => by
    rw [Statement.meaning?] at h
    obtain ⟨names, hnames, h⟩ := Option.bind_eq_some_iff.mp h
    rw [execute, bind_eq (evaluate_eq hnames)]
    split at h
    · rename_i name
      split at h
      · cases h
      · rename_i hdepth
        obtain ⟨body, hbody, h⟩ := Option.bind_eq_some_iff.mp h
        exact includeFirst_eq hbelow hframes hbody hdepth h
    · cases h

/-- Statements write the text that they mean. -/
theorem executeAll_eq (hbelow : Writes below nested) : ∀ {body : List Statement} {depth : Nat}
    {frames : List Frame} {text : String} (written : String), Unshared frames →
    meaningOfAll? env nested escape depth frames body = some text →
    executeAll env below escape depth body (.plain frames written) =
      .ok ((), .plain frames (written ++ text))
  | [], depth, frames, text, written, _, h => by
    rw [meaningOfAll?] at h
    rw [executeAll, ← Option.some.inj h, String.append_empty]
    rfl
  | statement :: rest, depth, frames, text, written, hframes, h => by
    rw [meaningOfAll?] at h
    obtain ⟨first, hfirst, h⟩ := Option.bind_eq_some_iff.mp h
    obtain ⟨others, hothers, h⟩ := Option.bind_eq_some_iff.mp h
    rw [executeAll, bind_eq (execute_eq hbelow written hframes hfirst),
      executeAll_eq hbelow (written ++ first) hframes hothers, ← Option.some.inj h,
      String.append_assoc]

end

/-- Every level writes what it means. -/
theorem atLevel_writes (env : Environment) (level : Nat) :
    Writes (atLevel env level) (meaningAt? env level) := by
  induction level with
  | zero =>
    intro _ _ _ _ _ _ _ h
    cases h
  | succ level ih =>
    intro _ _ _ _ _ written hframes h
    exact executeAll_eq ih written hframes h

end Statements

end Run

/-- The frame that a template starts in. -/
def outermost : Frame := openFrame [] none .context

/-- A template renders to the text that it means. -/
theorem render_eq {env : Environment} {escape : Bool} {template : List Statement} {text : String}
    (h : meaningAt? env 101 1 escape [outermost] template = some text) :
    render env escape template = .ok text := by
  have hrun := Run.atLevel_writes env 101 1 escape [outermost] template text ""
    (List.forall_mem_singleton.mpr rfl) h
  rw [String.empty_append] at hrun
  show (do
    let result ← Run.atLevel env 101 1 escape template (.plain [outermost] "")
    return result.2.written) = _
  rw [hrun]
  rfl

end ClientGen.Template
