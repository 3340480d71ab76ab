import ClientGen.Proofs.CommandLine.Output
import ClientGen.Proofs.Description.Reading
import ClientGen.Proofs.JavaScript.Client
import Mathlib.Data.List.Infix

/-!
# Generating on machines

A run that generates a client looks at everything that can be wrong with what it is given before it
makes the first directory. So it leaves the files as they are where it refuses what it is given, and
otherwise all files of the client are written below the output directory, unless the system hinders
it.
-/

namespace ClientGen.CommandLine

open FileTree

variable {s : Machine} {input output : Option String} {denyWarnings : Bool} {failure : Failure}
  {configuration : Configuration} {spec : Specification} {client : Client}

/-! ## What a run is given -/

/-- The configuration that counts: that of the current directory, or the standard one where there is
none. -/
inductive Configured (s : Machine) : Configuration → Prop where
  | standard (h : s.isPresent Configuration.fileName = false) : Configured s .standard
  | file {configuration : Configuration} {text : String}
      (htext : s.textAt? Configuration.fileName = some text)
      (h : Configuration.ofText? text = some configuration) : Configured s configuration

/-- A file holds a description that has a title. -/
structure Described (s : Machine) (path : String) (spec : Specification) : Prop where
  exists_text : ∃ text, s.textAt? path = some text ∧
    Specification.Parses text (markupOf path) spec
  title : Text.trim spec.title ≠ ""

/-- What a run generates from what it is given. -/
structure Generated (s : Machine) (input : Option String) (configuration : Configuration)
    (client : Client) : Prop where
  configured : Configured s configuration
  generated : ∃ spec, Described s (input.getD configuration.input) spec ∧
    generate spec configuration.target.profile configuration.options = .ok client

/-- Why a run refuses what it is given. -/
inductive Refused (s : Machine) (input : Option String) (denyWarnings : Bool) : Failure → Prop where
  /-- What is in the place of the configuration cannot be read. -/
  | configurationUnreadable (hpresent : s.isPresent Configuration.fileName = true)
      (h : s.textAt? Configuration.fileName = none) :
    Refused s input denyWarnings .configurationUnreadable
  /-- The configuration does not parse. -/
  | configurationMalformed {text : String}
      (htext : s.textAt? Configuration.fileName = some text)
      (h : Configuration.ofText? text = none) :
    Refused s input denyWarnings .configurationMalformed
  /-- The description is missing. -/
  | unreadable {configuration : Configuration} (hconfigured : Configured s configuration)
      (h : s.textAt? (input.getD configuration.input) = none) :
    Refused s input denyWarnings (.unreadable (input.getD configuration.input))
  /-- The description does not parse. -/
  | malformed {configuration : Configuration} {text : String}
      (hconfigured : Configured s configuration)
      (htext : s.textAt? (input.getD configuration.input) = some text)
      (h : ∀ spec, ¬Specification.Parses text (markupOf (input.getD configuration.input)) spec) :
    Refused s input denyWarnings (.malformed (input.getD configuration.input))
  /-- The description has a blank title. -/
  | untitled {configuration : Configuration} {text : String} {spec : Specification}
      (hconfigured : Configured s configuration)
      (htext : s.textAt? (input.getD configuration.input) = some text)
      (hparses : Specification.Parses text (markupOf (input.getD configuration.input)) spec)
      (h : Text.trim spec.title = "") :
    Refused s input denyWarnings (.malformed (input.getD configuration.input))
  /-- No client can be generated. -/
  | generation {configuration : Configuration} {spec : Specification} {cause : GenerationError}
      (hconfigured : Configured s configuration)
      (hdescribed : Described s (input.getD configuration.input) spec)
      (h : generate spec configuration.target.profile configuration.options = .error cause) :
    Refused s input denyWarnings (.generation cause)
  /-- There are warnings, which are denied. -/
  | warningsDenied {configuration : Configuration} {client : Client}
      (hgenerated : Generated s input configuration client)
      (hdenied : denyWarnings = true ∨ configuration.denyWarnings = true)
      (h : client.context.warnings ≠ []) :
    Refused s input denyWarnings (.warningsDenied client.context.warnings.length)

/-- A run has a client to write. -/
structure Accepted (s : Machine) (input : Option String) (denyWarnings : Bool)
    (configuration : Configuration) (client : Client) : Prop
    extends Generated s input configuration client where
  allowed : denyWarnings = true ∨ configuration.denyWarnings = true → client.context.warnings = []

/-! ## The steps of a run -/

/-- A file that can be read is present. -/
theorem isPresent_of_textAt? {path text : String} (h : s.textAt? path = some text) :
    s.isPresent path = true := by
  obtain ⟨place, hplace, htext⟩ := Option.bind_eq_some_iff.mp h
  rw [text?] at htext
  rw [Machine.isPresent, hplace, Option.bind_some]
  split at htext
  next hentry => rw [hentry]; rfl
  next => cases htext

/-- A configuration is loaded from the machine that it is the configuration of. -/
theorem Configured.on (h : Configured s configuration) :
    (loadConfiguration : Action (StateM Machine) Configuration).on s = (.ok configuration, s) := by
  rw [loadConfiguration, Action.on_bind_ok (isPresent_on _ s)]
  cases h with
  | standard hnone =>
    rw [hnone]
    rfl
  | file htext h =>
    rw [isPresent_of_textAt? htext, Bool.not_true, if_neg Bool.false_ne_true,
      Action.on_bind_ok (readText?_on _ s), htext]
    dsimp only
    rw [h]
    rfl

/-- A specification is loaded from the file that describes it. -/
theorem Described.on {path : String} (h : Described s path spec) :
    (loadSpecification path : Action (StateM Machine) Specification).on s = (.ok spec, s) := by
  obtain ⟨⟨text, htext, hparses⟩, htitle⟩ := h
  rw [loadSpecification, Action.on_bind_ok (readText?_on _ s), htext]
  dsimp only
  rw [Specification.read_eq_ok_iff.mpr ⟨hparses, htitle⟩]
  rfl

/-- What a run generates is determined by what it is given. -/
theorem Generated.unique {other : Configuration} {otherClient : Client}
    (h : Generated s input configuration client) (hother : Generated s input other otherClient) :
    other = configuration ∧ otherClient = client := by
  obtain ⟨hconfigured, spec, hdescribed, hclient⟩ := h
  obtain ⟨hconfigured', spec', hdescribed', hclient'⟩ := hother
  have hconfiguration := (Prod.mk.inj (hconfigured'.on.symm.trans hconfigured.on)).1
  obtain rfl := Except.ok.inj hconfiguration
  have hspec := (Prod.mk.inj (hdescribed'.on.symm.trans hdescribed.on)).1
  obtain rfl := Except.ok.inj hspec
  exact ⟨rfl, Except.ok.inj (hclient'.symm.trans hclient)⟩

/-- Lines are shown one after the other. -/
theorem reportAll_on {α : Type} (items : List α) (line : α → String) (s : Machine) :
    ∃ messages, (items.forM fun item => liftM (Host.report (line item) : StateM Machine Unit) :
      Action (StateM Machine) Unit).on s = (.ok (), { s with messages }) := by
  induction items generalizing s with
  | nil => exact ⟨s.messages, rfl⟩
  | cons item items ih =>
    obtain ⟨messages, h⟩ := ih (s.reported (line item))
    have hforM : ((item :: items).forM fun item =>
        liftM (Host.report (line item) : StateM Machine Unit) : Action (StateM Machine) Unit) =
        liftM (Host.report (line item) : StateM Machine Unit) >>= fun _ =>
          items.forM fun item => liftM (Host.report (line item) : StateM Machine Unit) := rfl
    rw [hforM, Action.on_bind_ok (report_on _ s), h]
    exact ⟨messages, rfl⟩

/-- What a run does with a client. -/
def deliver (directory : String) (denied : Bool) (client : Client) :
    Action (StateM Machine) Unit := do
  let warnings := client.context.warnings
  warnings.forM fun w => (liftM (Host.report ("warning: " ++ w.message) : StateM Machine Unit))
  demand (!(denied && warnings ≠ [])) (.warningsDenied warnings.length)
  writeFiles directory client.files

/-- A run that finds a configuration and a description generates a client and delivers it. -/
theorem generateClient_on (output : Option String) (denyWarnings : Bool)
    (hconfigured : Configured s configuration)
    (hdescribed : Described s (input.getD configuration.input) spec) :
    let directory := output.getD configuration.output
    let s' := s.reported ("Generating " ++ configuration.target.name ++ " → " ++ directory)
    (generateClient input output denyWarnings : Action (StateM Machine) Unit).on s =
      match generate spec configuration.target.profile configuration.options with
      | .ok client => (deliver directory (denyWarnings || configuration.denyWarnings) client).on s'
      | .error cause => (.error (.generation cause), s') := by
  intro directory s'
  delta generateClient
  refine (Action.on_bind_ok hconfigured.on _).trans ?_
  refine (Action.on_bind_ok hdescribed.on _).trans ?_
  refine (Action.on_bind_ok (report_on _ s) _).trans ?_
  cases generate spec configuration.target.profile configuration.options with
  | ok client => exact Action.on_bind_ok (Action.on_pure client s') _
  | error cause => exact Action.on_bind_error (Action.on_throw (.generation cause) s') _

/-- Where warnings are denied nothing is written. -/
theorem deliver_denied (directory : String) (h : client.context.warnings ≠ []) (s : Machine) :
    ∃ messages, (deliver directory true client).on s =
      (.error (.warningsDenied client.context.warnings.length), { s with messages }) := by
  obtain ⟨messages, hreport⟩ :=
    reportAll_on client.context.warnings (fun w => "warning: " ++ w.message) s
  refine ⟨messages, (Action.on_bind_ok hreport _).trans ?_⟩
  exact Action.on_bind_error (demand_error (by simp [h]) _ _) _

/-- Where warnings are not denied the files are written. -/
theorem deliver_allowed (directory : String) {denied : Bool}
    (h : denied = true → client.context.warnings = []) (s : Machine) :
    ∃ messages, (deliver directory denied client).on s =
      (writeFiles directory client.files).on { s with messages } := by
  obtain ⟨messages, hreport⟩ :=
    reportAll_on client.context.warnings (fun w => "warning: " ++ w.message) s
  have hfree : (!(denied && decide (client.context.warnings ≠ []))) = true := by
    cases denied with
    | false => rfl
    | true => simp [h rfl]
  refine ⟨messages, (Action.on_bind_ok hreport _).trans ?_⟩
  exact Action.on_bind_ok (demand_ok hfree _ _) _

/-! ## Whole runs -/

/-- A file that describes no specification with a title is malformed. -/
theorem loadSpecification_error {path text : String} (htext : s.textAt? path = some text)
    (h : ∀ spec, ¬(Specification.Parses text (markupOf path) spec ∧ Text.trim spec.title ≠ "")) :
    (loadSpecification path : Action (StateM Machine) Specification).on s =
      (.error (.malformed path), s) := by
  rw [loadSpecification, Action.on_bind_ok (readText?_on _ s), htext]
  dsimp only
  cases hread : Specification.read (markupOf path) text with
  | error cause => rfl
  | ok spec => exact absurd (Specification.read_eq_ok_iff.mp hread) (h spec)

/-- A run stops where there is no configuration or no description to be had. -/
theorem generateClient_error (hconfigured : Configured s configuration) (output : Option String)
    (denyWarnings : Bool)
    (h : (loadSpecification (input.getD configuration.input) :
      Action (StateM Machine) Specification).on s = (.error failure, s)) :
    (generateClient input output denyWarnings : Action (StateM Machine) Unit).on s =
      (.error failure, s) :=
  (Action.on_bind_ok hconfigured.on _).trans (Action.on_bind_error h _)

/-- A run that refuses what it is given says why and leaves the files as they are. -/
theorem Refused.on (h : Refused s input denyWarnings failure) (output : Option String) :
    ∃ messages, (generateClient input output denyWarnings : Action (StateM Machine) Unit).on s =
      (.error failure, { s with messages }) := by
  cases h with
  | configurationUnreadable hpresent h =>
    have hload : (loadConfiguration : Action (StateM Machine) Configuration).on s =
        (.error .configurationUnreadable, s) := by
      rw [loadConfiguration, Action.on_bind_ok (isPresent_on _ s), hpresent, Bool.not_true,
        if_neg Bool.false_ne_true, Action.on_bind_ok (readText?_on _ s), h]
      rfl
    exact ⟨_, Action.on_bind_error hload _⟩
  | configurationMalformed htext h =>
    have hload : (loadConfiguration : Action (StateM Machine) Configuration).on s =
        (.error .configurationMalformed, s) := by
      rw [loadConfiguration, Action.on_bind_ok (isPresent_on _ s), isPresent_of_textAt? htext,
        Bool.not_true, if_neg Bool.false_ne_true, Action.on_bind_ok (readText?_on _ s), htext]
      dsimp only
      rw [h]
      rfl
    exact ⟨_, Action.on_bind_error hload _⟩
  | @unreadable configuration hconfigured h =>
    have hload : (loadSpecification (input.getD configuration.input) :
        Action (StateM Machine) Specification).on s =
        (.error (.unreadable (input.getD configuration.input)), s) := by
      rw [loadSpecification, Action.on_bind_ok (readText?_on _ s), h]
      rfl
    exact ⟨_, generateClient_error hconfigured output denyWarnings hload⟩
  | malformed hconfigured htext h =>
    have hload := loadSpecification_error htext fun spec hspec => h spec hspec.1
    exact ⟨_, generateClient_error hconfigured output denyWarnings hload⟩
  | untitled hconfigured htext hparses h =>
    have hload := loadSpecification_error htext fun other hother =>
      hother.2 (hother.1.unique hparses ▸ h)
    exact ⟨_, generateClient_error hconfigured output denyWarnings hload⟩
  | generation hconfigured hdescribed h =>
    have hon := generateClient_on output denyWarnings hconfigured hdescribed
    rw [h] at hon
    exact ⟨_, hon⟩
  | @warningsDenied configuration client hgenerated hdenied h =>
    obtain ⟨hconfigured, spec, hdescribed, hclient⟩ := hgenerated
    have hdeny : (denyWarnings || configuration.denyWarnings) = true := by simpa using hdenied
    have hon := generateClient_on output denyWarnings hconfigured hdescribed
    rw [hclient, hdeny] at hon
    obtain ⟨messages, hdeliver⟩ := deliver_denied (output.getD configuration.output) h _
    exact ⟨messages, hon.trans hdeliver⟩

/-- The files that are written have the names of the files of a client. -/
theorem mem_names_of_generate {options : Options} (target : Target)
    (h : generate spec target.profile options = .ok client) :
    ∀ file ∈ filesToWrite client.files, file.1 ∈ ["index.js", "package.json", "README.md"] := by
  have hfiles := JavaScript.rendered_clientOf spec options
  cases target
  obtain rfl : JavaScript.clientOf spec options = client :=
    Except.ok.inj ((JavaScript.generate_eq spec options).symm.trans h)
  rintro ⟨name, text⟩ hfile
  obtain h | ⟨-, rfl, -⟩ := mem_filesToWrite_iff.mp hfile
  · exact hfiles.keys_eq ▸ List.mem_map_of_mem (OrderedMap.get?_eq_some_iff.mp h)
  · exact List.mem_of_getLast? rfl

/-- A run that has a client to write writes its files, unless the system hinders it. -/
theorem Accepted.on (h : Accepted s input denyWarnings configuration client)
    (hcurrent : s.tree.isDirectory s.current = true) (output : Option String) :
    let directory := output.getD configuration.output
    ∃ result s', (generateClient input output denyWarnings : Action (StateM Machine) Unit).on s =
        (result, s') ∧ s'.current = s.current ∧ s'.output = s.output ∧
      ((∃ failure, result = .error failure ∧
          Hindered s.tree s.current directory client.files failure) ∨
        result = .ok () ∧ (∀ failure, ¬Hindered s.tree s.current directory client.files failure) ∧
          ∃ target, Written s.tree s'.tree s.current directory client.files target) := by
  intro directory
  obtain ⟨⟨hconfigured, spec, hdescribed, hclient⟩, hallowed⟩ := h
  have hon := generateClient_on output denyWarnings hconfigured hdescribed
  rw [hclient] at hon
  have hdenied : (denyWarnings || configuration.denyWarnings) = true →
      client.context.warnings = [] := fun hdenied => hallowed (by simpa using hdenied)
  let started := s.reported ("Generating " ++ configuration.target.name ++ " → " ++ directory)
  obtain ⟨messages, hdeliver⟩ := deliver_allowed directory hdenied started
  have hnames : ∀ name ∈ ["index.js", "package.json", "README.md"], IsName name := by decide
  have hwrite := @writeFiles_on { started with messages } directory client.files hcurrent
    fun file hfile => hnames file.1 (mem_names_of_generate _ hclient file hfile)
  obtain ⟨result, s', hfiles, houtcome⟩ := hwrite
  exact ⟨result, s', hon.trans (hdeliver.trans hfiles), houtcome⟩

/-- A run is refused before a configuration is found, or there is one. -/
theorem refused_or_configured (s : Machine) (input : Option String) (denyWarnings : Bool) :
    (∃ failure, Refused s input denyWarnings failure) ∨
      ∃ configuration, Configured s configuration := by
  cases hpresent : s.isPresent Configuration.fileName with
  | false => exact Or.inr ⟨_, .standard hpresent⟩
  | true =>
    cases htext : s.textAt? Configuration.fileName with
    | none => exact Or.inl ⟨_, .configurationUnreadable hpresent htext⟩
    | some text =>
      cases hparsed : Configuration.ofText? text with
      | none => exact Or.inl ⟨_, .configurationMalformed htext hparsed⟩
      | some configuration => exact Or.inr ⟨configuration, .file htext hparsed⟩

/-- A configured run is refused before a specification is found, or there is one. -/
theorem refused_or_described (input : Option String) (denyWarnings : Bool)
    (hconfigured : Configured s configuration) :
    (∃ failure, Refused s input denyWarnings failure) ∨
      ∃ spec, Described s (input.getD configuration.input) spec := by
  cases htext : s.textAt? (input.getD configuration.input) with
  | none => exact Or.inl ⟨_, .unreadable hconfigured htext⟩
  | some text =>
    by_cases hparses :
        ∃ spec, Specification.Parses text (markupOf (input.getD configuration.input)) spec
    · obtain ⟨spec, hparses⟩ := hparses
      by_cases htitle : Text.trim spec.title = ""
      · exact Or.inl ⟨_, .untitled hconfigured htext hparses htitle⟩
      · exact Or.inr ⟨spec, ⟨text, htext, hparses⟩, htitle⟩
    · exact Or.inl ⟨_, .malformed hconfigured htext (not_exists.mp hparses)⟩

/-- Whatever a run is given, it refuses it or has a client to write. -/
theorem refused_or_accepted (s : Machine) (input : Option String) (denyWarnings : Bool) :
    (∃ failure, Refused s input denyWarnings failure) ∨
      ∃ configuration client, Accepted s input denyWarnings configuration client := by
  obtain hrefused | ⟨configuration, hconfigured⟩ := refused_or_configured s input denyWarnings
  · exact Or.inl hrefused
  obtain hrefused | ⟨spec, hdescribed⟩ := refused_or_described input denyWarnings hconfigured
  · exact Or.inl hrefused
  cases hclient : generate spec configuration.target.profile configuration.options with
  | error cause => exact Or.inl ⟨_, .generation hconfigured hdescribed hclient⟩
  | ok client =>
    have hgenerated : Generated s input configuration client :=
      ⟨hconfigured, spec, hdescribed, hclient⟩
    by_cases hdenied : (denyWarnings = true ∨ configuration.denyWarnings = true) ∧
        client.context.warnings ≠ []
    · exact Or.inl ⟨_, .warningsDenied hgenerated hdenied.1 hdenied.2⟩
    · exact Or.inr ⟨configuration, client, hgenerated, fun h =>
        not_not.mp fun hwarnings => hdenied ⟨h, hwarnings⟩⟩

/-- A command that arguments ask for ends with an exit code, and it says why it fails. -/
theorem run_eq {arguments : List String} {command : Command}
    (h : Command.ofArguments? arguments = some command) (s : Machine) :
    ((run arguments : StateM Machine UInt32).run s).run =
      match (command.perform : Action (StateM Machine) Unit).on s with
      | (.ok (), s') => (0, s')
      | (.error failure, s') => (1, s'.reported ("Error: " ++ failure.message)) := by
  have hrun (next : Except Failure Unit → StateM Machine UInt32) :
      (((command.perform : Action (StateM Machine) Unit).run >>= next).run s).run =
        ((next (command.perform.on s).1).run (command.perform.on s).2).run := rfl
  rw [run, h]
  refine (hrun _).trans ?_
  rcases command.perform.on s with ⟨_ | _, _⟩ <;> rfl

/-- A run is all or nothing. It fails exactly if it refuses what it is given or the system hinders
it. If it refuses what it is given, it leaves all files and directories as they are and says why. If
it succeeds, it has written the files of the client, and nothing else. -/
structure AllOrNothing (s : Machine) (input output : Option String) (denyWarnings : Bool)
    (code : UInt32) (s' : Machine) : Prop where
  code_eq : code = 0 ∨ code = 1
  fails_iff : code = 1 ↔ (∃ failure, Refused s input denyWarnings failure) ∨
    ∃ configuration client failure, Accepted s input denyWarnings configuration client ∧
      Hindered s.tree s.current (output.getD configuration.output) client.files failure
  refused : ∀ failure, Refused s input denyWarnings failure → s'.tree = s.tree ∧
    ∃ shown, s'.messages = shown ++ ("Error: " ++ failure.message) ++ "\n"
  succeeds : ∀ {configuration : Configuration} {client : Client},
    Accepted s input denyWarnings configuration client →
    (∀ failure, ¬Hindered s.tree s.current (output.getD configuration.output) client.files
      failure) → code = 0
  written : code = 0 → ∃ configuration client target,
    Accepted s input denyWarnings configuration client ∧
      Written s.tree s'.tree s.current (output.getD configuration.output) client.files target
  current_eq : s'.current = s.current
  output_eq : s'.output = s.output

/-- A run that refuses what it is given is all or nothing. -/
theorem Refused.allOrNothing (h : Refused s input denyWarnings failure)
    (hcurrent : s.tree.isDirectory s.current = true) (output : Option String)
    {messages : String} (hon : (generateClient input output denyWarnings :
      Action (StateM Machine) Unit).on s = (.error failure, { s with messages })) :
    AllOrNothing s input output denyWarnings 1
      (({ s with messages } : Machine).reported ("Error: " ++ failure.message)) where
  code_eq := Or.inr rfl
  fails_iff := iff_of_true rfl (Or.inl ⟨failure, h⟩)
  refused other hother := by
    obtain ⟨_, hon'⟩ := hother.on output
    obtain rfl : failure = other := Except.error.inj (Prod.mk.inj (hon.symm.trans hon')).1
    exact ⟨rfl, messages, rfl⟩
  succeeds haccepted hfree := by
    obtain ⟨result, _, hon', -, -, ⟨other, -, hhindered⟩ | ⟨rfl, -⟩⟩ :=
      haccepted.on hcurrent output
    · exact absurd hhindered (hfree other)
    · cases (Prod.mk.inj (hon.symm.trans hon')).1
  written hcode := by cases hcode
  current_eq := rfl
  output_eq := rfl

/-- Whatever is in the current directory and whatever arguments are accepted, a run that generates
is all or nothing. -/
theorem run_allOrNothing {arguments : List String} {input output : Option String}
    {denyWarnings : Bool} {s : Machine}
    (h : Command.ofArguments? arguments = some (.generate input output denyWarnings))
    (hcurrent : s.tree.isDirectory s.current = true) :
    ∃ code s', ((run arguments : StateM Machine UInt32).run s).run = (code, s') ∧
      AllOrNothing s input output denyWarnings code s' := by
  have hrun := run_eq h s
  rw [Command.perform] at hrun
  by_cases hrefused : ∃ failure, Refused s input denyWarnings failure
  · obtain ⟨failure, hfailure⟩ := hrefused
    obtain ⟨messages, hon⟩ := hfailure.on output
    rw [hon] at hrun
    exact ⟨1, _, hrun, hfailure.allOrNothing hcurrent output hon⟩
  · obtain ⟨configuration, client, haccepted⟩ :=
      (refused_or_accepted s input denyWarnings).resolve_left hrefused
    obtain ⟨result, s', hon, hcurrent', houtput, houtcome⟩ := haccepted.on hcurrent output
    rw [hon] at hrun
    obtain ⟨failure, rfl, hhindered⟩ | ⟨rfl, hfree, target, hwritten⟩ := houtcome
    · refine ⟨1, _, hrun, {
        code_eq := Or.inr rfl
        fails_iff := iff_of_true rfl
          (Or.inr ⟨configuration, client, failure, haccepted, hhindered⟩)
        refused := fun failure hfailure => absurd ⟨failure, hfailure⟩ hrefused
        succeeds := fun hother hfree => ?_
        written := fun hcode => by cases hcode
        current_eq := hcurrent'
        output_eq := houtput }⟩
      obtain ⟨rfl, rfl⟩ := haccepted.toGenerated.unique hother.toGenerated
      exact absurd hhindered (hfree failure)
    · refine ⟨0, s', hrun, {
        code_eq := Or.inl rfl
        fails_iff := iff_of_false (by decide) ?_
        refused := fun failure hfailure => absurd ⟨failure, hfailure⟩ hrefused
        succeeds := fun _ _ => rfl
        written := fun _ => ⟨configuration, client, target, haccepted, hwritten⟩
        current_eq := hcurrent'
        output_eq := houtput }⟩
      rintro (hfailure | ⟨other, otherClient, failure, hother, hhindered⟩)
      · exact hrefused hfailure
      · obtain ⟨rfl, rfl⟩ := haccepted.toGenerated.unique hother.toGenerated
        exact hfree failure hhindered

/-- A description of pets. -/
def petsText : String := "\x7b\"title\": \"Pets\"\x7d"

/-- A machine whose current directory holds a description of pets. -/
def petsMachine : Machine := .ofFiles ["work"] [("api.json", petsText)]

/-- The client of the pets is written below a directory that is made: the description is read, the
way to the output directory is free, and so are the places of the files. -/
theorem run_allOrNothing_pets :
    ∃ s', ((run ["generate", "--input=api.json", "-o", "clients/pets"] :
        StateM Machine UInt32).run petsMachine).run = (0, s') ∧
      ∃ text, s'.tree.entry? ["work", "clients", "pets", "index.js"] = some (.file text) := by
  have harguments : Command.ofArguments? ["generate", "--input=api.json", "-o", "clients/pets"] =
      some (.generate (some "api.json") (some "clients/pets") false) := by decide +kernel
  have hcurrent : petsMachine.tree.isDirectory petsMachine.current = true := by decide +kernel
  obtain ⟨code, s', hrun, hall⟩ := run_allOrNothing harguments hcurrent
  have htext : petsMachine.textAt? "api.json" = some petsText := by decide +kernel
  have hread : (Specification.read .json petsText).isOk = true := by decide +kernel
  obtain ⟨spec, hspec⟩ : ∃ spec, Specification.read .json petsText = .ok spec := by
    cases hspec : Specification.read .json petsText with
    | error cause => rw [hspec] at hread; cases hread
    | ok spec => exact ⟨spec, rfl⟩
  obtain ⟨hparses, htitle⟩ := Specification.read_eq_ok_iff.mp hspec
  have hmarkup : markupOf "api.json" = .json := by decide +kernel
  have hdescribed : Described petsMachine "api.json" spec :=
    ⟨⟨petsText, htext, by rw [hmarkup]; exact hparses⟩, htitle⟩
  have hclient := JavaScript.generate_eq spec .empty
  have hfiles := JavaScript.rendered_clientOf spec .empty
  have haccepted : Accepted petsMachine (some "api.json") false .standard
      (JavaScript.clientOf spec .empty) := {
    configured := .standard (by decide +kernel)
    generated := ⟨spec, hdescribed, hclient⟩
    allowed := fun hdenied => absurd hdenied (by decide) }
  have hnames : ∀ step ∈ pathSteps "clients/pets", IsName step := by decide +kernel
  have hway : ∀ way ∈ (pathSteps "clients/pets").inits, petsMachine.tree.text?
      (startOf petsMachine.current "clients/pets" ++ way) = none := by decide +kernel
  have hplaces : ∀ name ∈ ["index.js", "package.json", "README.md"], petsMachine.tree.isDirectory
      (startOf petsMachine.current "clients/pets" ++ pathSteps "clients/pets" ++ [name]) =
        false := by decide +kernel
  have hfree := not_hindered (by decide +kernel) (by decide +kernel) hnames
    (fun way hpart => hway way ((List.mem_inits _ _).mpr hpart))
    (fun file hfile => hplaces file.1 (mem_names_of_generate .javaScript hclient file hfile))
  obtain rfl := hall.succeeds haccepted hfree
  obtain ⟨configuration, other, target, hother, hwritten⟩ := hall.written rfl
  obtain ⟨rfl, rfl⟩ := haccepted.toGenerated.unique hother.toGenerated
  have hplace : startOf petsMachine.current "clients/pets" ++ pathSteps "clients/pets" =
      ["work", "clients", "pets"] := by decide +kernel
  obtain rfl : target = ["work", "clients", "pets"] :=
    (walk?_names hnames hwritten.leadsTo.walk).trans hplace
  exact ⟨s', hrun, _, hwritten.file hfiles.module_eq⟩

end ClientGen.CommandLine
