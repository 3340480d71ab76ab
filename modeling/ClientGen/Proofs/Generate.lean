import ClientGen.Generate
import ClientGen.Proofs.OrderedMap

/-!
# How generating ends

A client is generated in stages: the format of the profile must be complete, its fragments and then
its templates must compile, and each template must render. The first thing that goes wrong, in the
order of the declarations, decides the error. If nothing goes wrong there is a file for each
template, and what is in it depends on no other file.
-/

namespace ClientGen

open Template (Statement)

/-! ## The first failure -/

section Failing

variable {α β ε : Type} {f : α → Except ε β} {items : List α} {item : α} {e : ε}

/-- An item fails and those before it do not. -/
def FirstFails (f : α → Except ε β) (items : List α) (item : α) (e : ε) : Prop :=
  f item = .error e ∧ ∃ pre post, items = pre ++ item :: post ∧
    ∀ other ∈ pre, ∃ result, f other = .ok result

/-- Some item is the first to fail, or none fails. -/
theorem exists_firstFails_or (f : α → Except ε β) (items : List α) :
    (∃ item e, FirstFails f items item e) ∨ ∀ item ∈ items, ∃ result, f item = .ok result := by
  induction items with
  | nil => exact Or.inr fun _ h => by cases h
  | cons first rest ih =>
    cases hfirst : f first with
    | error e => exact Or.inl ⟨first, e, hfirst, [], rest, rfl, fun _ h => by cases h⟩
    | ok result =>
      rcases ih with ⟨item, e, hitem, pre, post, rfl, hpre⟩ | hrest
      · refine Or.inl ⟨item, e, hitem, first :: pre, post, rfl, ?_⟩
        exact List.forall_mem_cons.mpr ⟨⟨result, hfirst⟩, hpre⟩
      · exact Or.inr (List.forall_mem_cons.mpr ⟨⟨result, hfirst⟩, hrest⟩)

variable {γ : Type} {entries : List (String × γ)}
  {step : OrderedMap γ → α → Except ε (OrderedMap γ)}

/-- Steps each of which inserts an entry insert all of them. -/
theorem foldlM_insert
    (h : List.Forall₂ (fun item entry => ∀ m, step m item = .ok (m.insert entry.1 entry.2)) items
      entries) (m : OrderedMap γ) : items.foldlM step m = .ok (m.insertMany entries) := by
  induction h generalizing m with
  | nil => rfl
  | cons hfirst _ ih =>
    rw [List.foldlM_cons, hfirst]
    exact ih _

/-- Steps that go on until the first item that fails end with its error. -/
theorem FirstFails.foldlM {ε' : Type} {e' : ε'} {step : γ → α → Except ε' γ}
    (h : FirstFails f items item e) (herror : ∀ m, step m item = .error e')
    (hok : ∀ other result, f other = .ok result → ∀ m, ∃ m', step m other = .ok m') (m : γ) :
    items.foldlM step m = .error e' := by
  obtain ⟨-, pre, post, rfl, hpre⟩ := h
  induction pre generalizing m with
  | nil =>
    rw [List.nil_append, List.foldlM_cons, herror]
    rfl
  | cons first rest ih =>
    obtain ⟨⟨result, hfirst⟩, hrest⟩ := List.forall_mem_cons.mp hpre
    obtain ⟨m', hm'⟩ := hok first result hfirst m
    rw [List.cons_append, List.foldlM_cons, hm']
    exact ih m' hrest

end Failing

/-! ## Compiling -/

section Compiling

variable {profile : Profile} {name source : String} {cause : TemplateError}
  {entries : OrderedMap String}

/-- All texts compile. -/
def AllCompile (entries : OrderedMap String) : Prop :=
  ∀ entry ∈ entries.entries, ∃ statements, Template.parse entry.2 = .ok statements

/-- A text is the first one that does not compile. -/
def FirstBroken (entries : OrderedMap String) (name : String) (cause : TemplateError) : Prop :=
  ∃ source, FirstFails (fun entry => Template.parse entry.2) entries.entries (name, source) cause

/-- The name of a template with its text, if it is given as one. -/
def templateSource? (entry : String × TemplateBody) : Option (String × String) :=
  match entry.2 with
  | .source text => some (entry.1, text)
  | .native _ => none

/-- An entry has a source if its body is one. -/
theorem templateSource?_eq_some_iff {entry : String × TemplateBody} :
    templateSource? entry = some (name, source) ↔ entry = (name, .source source) := by
  obtain ⟨key, _ | _⟩ := entry <;> simp [templateSource?]

/-- Templates with a source are listed in the order of all templates. -/
theorem keys_filterMap_sublist (entries : List (String × TemplateBody)) :
    ((entries.filterMap templateSource?).map Prod.fst).Sublist (entries.map Prod.fst) := by
  induction entries with
  | nil => exact .slnil
  | cons entry rest ih =>
    obtain ⟨key, text | write⟩ := entry
    · exact ih.cons_cons key
    · exact ih.cons key

/-- The templates that are given as texts. -/
def Profile.sourceTemplates (profile : Profile) : OrderedMap String where
  entries := profile.templates.entries.filterMap templateSource?
  nodup_keys := profile.templates.nodup_keys.sublist (keys_filterMap_sublist _)

/-- The text that a name leads to in other templates: a template comes before a fragment. -/
def Profile.sourceOf? (profile : Profile) (name : String) : Option String :=
  (profile.sourceTemplates.get? name).or (profile.fragments.get? name)

/-- The source of a template is found under the name of the template. -/
theorem get?_sourceTemplates_eq_some_iff :
    profile.sourceTemplates.get? name = some source ↔
      profile.templates.get? name = some (.source source) := by
  rw [OrderedMap.get?_eq_some_iff, OrderedMap.get?_eq_some_iff, Profile.sourceTemplates,
    List.mem_filterMap]
  simp only [templateSource?_eq_some_iff, exists_eq_right]

/-- Of any sources there is a first one that does not compile, or all do. -/
theorem firstBroken_or_allCompile (entries : OrderedMap String) :
    (∃ name cause, FirstBroken entries name cause) ∨ AllCompile entries := by
  rcases exists_firstFails_or (fun entry => Template.parse entry.2) entries.entries with
    ⟨⟨name, source⟩, cause, h⟩ | h
  · exact Or.inl ⟨name, cause, source, h⟩
  · exact Or.inr h

/-- A source that compiles is added under its name. -/
theorem compileInto_eq {statements : List Statement} (h : Template.parse source = .ok statements)
    (compiled : OrderedMap (List Statement)) :
    compileInto compiled name source = .ok (compiled.insert name statements) := by
  delta compileInto
  rw [h]

/-- What texts are read as. -/
def statementsOf (entries : OrderedMap String) : OrderedMap (List Statement) :=
  entries.mapEntries fun _ source => (Template.parse source).toOption.getD []

/-- Sources that all compile are added one after the other. -/
theorem AllCompile.foldlM (h : AllCompile entries) (compiled : OrderedMap (List Statement)) :
    entries.entries.foldlM (fun m entry => compileInto m entry.1 entry.2) compiled =
      .ok (compiled.insertMany (statementsOf entries).entries) := by
  refine foldlM_insert (List.forall₂_map_right_iff.mpr (List.forall₂_same.mpr ?_)) compiled
  intro entry hentry m
  obtain ⟨statements, hstatements⟩ := h entry hentry
  have hread : (Template.parse entry.2).toOption.getD [] = statements := by
    rw [hstatements]
    rfl
  show _ = Except.ok (m.insert entry.1 ((Template.parse entry.2).toOption.getD []))
  rw [compileInto_eq hstatements, hread]

/-- Under the name of a source are the statements that it compiles to. -/
theorem AllCompile.get?_statementsOf (h : AllCompile entries) (name : String) :
    (statementsOf entries).get? name =
      (entries.get? name).bind fun source => (Template.parse source).toOption := by
  rw [statementsOf, OrderedMap.get?_mapEntries]
  cases hsource : entries.get? name with
  | none => rfl
  | some source =>
    obtain ⟨statements, hstatements⟩ := h _ (OrderedMap.get?_eq_some_iff.mp hsource)
    simp only [Option.map_some, Option.bind_some]
    rw [hstatements]
    rfl

/-- Compiling stops at the first source that does not compile. -/
theorem FirstBroken.foldlM (h : FirstBroken entries name cause)
    (compiled : OrderedMap (List Statement)) :
    entries.entries.foldlM (fun m entry => compileInto m entry.1 entry.2) compiled =
      .error (.render name cause) := by
  obtain ⟨source, h⟩ := h
  refine h.foldlM (fun m => ?_) (fun entry statements hstatements m => ?_) compiled
  · have hsource : Template.parse source = .error cause := h.1
    delta compileInto
    rw [hsource]
  · exact ⟨_, compileInto_eq hstatements m⟩

/-- The fragments are compiled first. -/
theorem Profile.compile_eq (profile : Profile) : profile.compile =
    (profile.fragments.entries.foldlM (fun m entry => compileInto m entry.1 entry.2) .empty >>=
      profile.sourceTemplates.entries.foldlM fun m entry => compileInto m entry.1 entry.2) :=
  List.foldlM_append

/-- The first fragment that does not compile decides the error. -/
theorem FirstBroken.compile_fragments (h : FirstBroken profile.fragments name cause) :
    profile.compile = .error (.render name cause) := by
  rw [Profile.compile_eq, h.foldlM]
  rfl

/-- If the fragments compile, the first template that does not compile decides the error. -/
theorem FirstBroken.compile_templates (h : FirstBroken profile.sourceTemplates name cause)
    (hfragments : AllCompile profile.fragments) :
    profile.compile = .error (.render name cause) := by
  rw [Profile.compile_eq, hfragments.foldlM]
  exact h.foldlM _

/-- Compiled texts are found under their names, templates before fragments. -/
theorem exists_compile (hfragments : AllCompile profile.fragments)
    (htemplates : AllCompile profile.sourceTemplates) :
    ∃ compiled, profile.compile = .ok compiled ∧ ∀ name, compiled.get? name =
      (profile.sourceOf? name).bind fun source => (Template.parse source).toOption := by
  refine ⟨(OrderedMap.empty.insertMany (statementsOf profile.fragments).entries).insertMany
    (statementsOf profile.sourceTemplates).entries, ?_, fun name => ?_⟩
  · rw [Profile.compile_eq, hfragments.foldlM]
    exact htemplates.foldlM _
  · rw [OrderedMap.get?_insertMany, OrderedMap.get?_insertMany, htemplates.get?_statementsOf,
      hfragments.get?_statementsOf, Profile.sourceOf?]
    cases hsource : profile.sourceTemplates.get? name with
    | none => simp [OrderedMap.get?]
    | some source =>
      obtain ⟨statements, hstatements⟩ := htemplates _ (OrderedMap.get?_eq_some_iff.mp hsource)
      simp only [Option.bind_some, Option.some_or]
      rw [hstatements]
      rfl

end Compiling

/-! ## Rendering -/

section Rendering

variable {spec : Specification} {profile : Profile} {user : Options} {renderer : Renderer}
  {env : Template.Environment}

/-- What the templates of a profile are bound to, and what each of them writes. -/
structure Bound (spec : Specification) (profile : Profile) (user : Options)
    (env : Template.Environment) (renderer : Renderer) : Prop where
  context_eq : ∃ format, profile.format.resolve? = some format ∧
    env.context = (Context.build format spec .fresh).1
  options_eq : env.options = profile.options.overlay user
  helpers_eq : env.helpers = ⟨profile.helpers⟩
  get?_templates : ∀ name, env.templates.get? name =
    (profile.sourceOf? name).bind fun source => (Template.parse source).toOption
  renderer_eq : profile.renderer env.context env.options = .ok renderer
  names_eq : renderer.names = profile.templates.keys
  /-- A template that is given as a text fails with an error that names its file. -/
  render_source : ∀ {file source}, profile.templates.get? file = some (.source source) →
    ∃ statements, Template.parse source = .ok statements ∧ renderer.render file =
      (Template.render env (Template.escapes file) statements).mapError (.render file)
  /-- A function fails with its own error. -/
  render_native : ∀ {file write}, profile.templates.get? file = some (.native write) →
    renderer.render file = write env.context env.options

/-- A compiled template fails with the name of its file. -/
theorem renderCompiled_eq (env : Template.Environment) (file : String) (escape : Bool)
    (statements : List Statement) : renderCompiled env file escape statements =
      (Template.render env escape statements).mapError (.render file) := by
  rw [renderCompiled]
  cases Template.render env escape statements <;> rfl

/-- If everything compiles, the templates are bound. -/
theorem exists_bound {format : Format} (hformat : profile.format.resolve? = some format)
    (hfragments : AllCompile profile.fragments) (htemplates : AllCompile profile.sourceTemplates)
    (spec : Specification) (user : Options) :
    ∃ env renderer, Bound spec profile user env renderer := by
  obtain ⟨compiled, hcompiled, hget⟩ := exists_compile hfragments htemplates
  let env : Template.Environment := {
    context := (Context.build format spec .fresh).1
    options := profile.options.overlay user
    helpers := ⟨profile.helpers⟩
    templates := compiled }
  refine ⟨env, ⟨profile.templates.keys, profile.renderFile env, renderSource env⟩,
    ⟨format, hformat, rfl⟩, rfl, rfl, hget, ?_, rfl, fun {file source} hfile => ?_,
    fun {file write} hfile => ?_⟩
  · rw [Profile.renderer, hcompiled]
    rfl
  · have hsource := get?_sourceTemplates_eq_some_iff.mpr hfile
    obtain ⟨statements, hstatements⟩ := htemplates _ (OrderedMap.get?_eq_some_iff.mp hsource)
    have hfound : env.templates.get? file = some statements := by
      rw [hget file, Profile.sourceOf?, hsource]
      show (Template.parse source).toOption = some statements
      rw [hstatements]
      rfl
    refine ⟨statements, hstatements, ?_⟩
    simp only [Profile.renderFile, hfile, hfound, renderCompiled_eq]
  · simp only [Profile.renderFile, hfile]

/-- Files are what a renderer writes: one for each name, with what is rendered for it alone. -/
structure Produces (renderer : Renderer) (names : List String) (files : Files) : Prop where
  keys_eq : files.keys = names
  get?_eq_some_iff : ∀ {file text}, files.get? file = some text ↔
    file ∈ names ∧ renderer.render file = .ok text

variable {names : List String} {files : Files} {file : String} {e : GenerationError}

/-- Rendering in another order leads to the same texts under the same names. -/
theorem Produces.get?_eq {other : Files} {order : List String}
    (h : Produces renderer names files) (hother : Produces renderer order other)
    (horder : order.Perm names) (file : String) : other.get? file = files.get? file := by
  ext text
  rw [h.get?_eq_some_iff, hother.get?_eq_some_iff, horder.mem_iff]

/-- Rendering names in one order leads to one collection of files. -/
theorem Produces.unique {other : Files} (h : Produces renderer names files)
    (hother : Produces renderer names other) : other = files :=
  OrderedMap.eq_of_keys_eq (hother.keys_eq.trans h.keys_eq.symm) (h.get?_eq hother (.refl names))

/-- Names that all render lead to their files, in whatever order they are gone through. -/
theorem exists_produces (hnames : names.Nodup)
    (h : ∀ name ∈ names, ∃ text, renderer.render name = .ok text) :
    ∃ files, ({ renderer with names } : Renderer).renderAll = .ok files ∧
      Produces renderer names files := by
  let entries := names.map fun name => (name, (renderer.render name).toOption.getD "")
  have hkeys : entries.map Prod.fst = names := by
    rw [List.map_map]
    exact List.map_id _
  have hentries : (OrderedMap.empty.insertMany entries).entries = entries :=
    OrderedMap.entries_insertMany (m := .empty) (by rwa [OrderedMap.entries_empty,
      List.nil_append, hkeys])
  refine ⟨OrderedMap.empty.insertMany entries, ?_, ?_, ?_⟩
  · refine foldlM_insert (List.forall₂_map_right_iff.mpr (List.forall₂_same.mpr ?_)) .empty
    intro name hname files
    obtain ⟨text, htext⟩ := h name hname
    rw [htext]
    rfl
  · rw [OrderedMap.keys, hentries, hkeys]
  · intro file text
    rw [OrderedMap.get?_eq_some_iff, hentries, List.mem_map]
    constructor
    · rintro ⟨name, hname, heq⟩
      obtain ⟨text', htext⟩ := h name hname
      obtain ⟨rfl, rfl⟩ := Prod.mk.inj heq
      refine ⟨hname, ?_⟩
      rw [htext]
      rfl
    · rintro ⟨hname, htext⟩
      refine ⟨file, hname, ?_⟩
      rw [htext]
      rfl

/-- Every name that is produced renders. -/
theorem Produces.exists_text (h : Produces renderer names files) :
    ∀ name ∈ names, ∃ text, renderer.render name = .ok text := by
  intro name hname
  rw [← h.keys_eq] at hname
  obtain ⟨⟨key, text⟩, hentry, rfl⟩ := List.mem_map.mp hname
  exact ⟨text, (h.get?_eq_some_iff.mp (OrderedMap.get?_eq_some_iff.mpr hentry)).2⟩

/-- Files that are produced for all names are what is rendered. -/
theorem Produces.renderAll_eq (h : Produces renderer renderer.names files) :
    renderer.renderAll = .ok files := by
  have hnodup : renderer.names.Nodup := h.keys_eq ▸ files.nodup_keys
  obtain ⟨other, hother, hproduces⟩ := exists_produces hnodup h.exists_text
  rw [← h.unique hproduces]
  exact hother

/-- Rendering stops at the first name that fails. -/
theorem FirstFails.renderAll (h : FirstFails renderer.render renderer.names file e) :
    renderer.renderAll = .error e := by
  refine h.foldlM (fun m => ?_) (fun other text htext m => ?_) OrderedMap.empty
  · rw [h.1]
    rfl
  · rw [htext]
    exact ⟨_, rfl⟩

/-- Bound templates are rendered, unless the profile produces its files in its own way. -/
theorem Bound.generate_eq (h : Bound spec profile user env renderer)
    (hfiles : profile.files = none) : generate spec profile user =
      renderer.renderAll.map fun files => ⟨files, env.context, env.options⟩ := by
  obtain ⟨format, hformat, hcontext⟩ := h.context_eq
  simp only [generate, hformat, ← hcontext, ← h.options_eq, h.renderer_eq, hfiles]
  show (renderer.renderAll >>= fun files => _) = _
  cases renderer.renderAll <;> rfl

end Rendering

/-! ## Ends -/

/-- How generating ends. -/
inductive Outcome (spec : Specification) (profile : Profile) (user : Options) :
    Except GenerationError Client → Prop where
  /-- There is no way to write names. Nothing else matters then. -/
  | incomplete (h : profile.format.writeName = none) :
    Outcome spec profile user (.error .incompleteFormat)
  /-- A fragment is the first one that does not compile. -/
  | fragment {name : String} {cause : TemplateError} (hformat : profile.format.writeName ≠ none)
      (h : FirstBroken profile.fragments name cause) :
    Outcome spec profile user (.error (.render name cause))
  /-- The fragments compile, and a template is the first one that does not. -/
  | template {file : String} {cause : TemplateError} (hformat : profile.format.writeName ≠ none)
      (hfragments : AllCompile profile.fragments)
      (h : FirstBroken profile.sourceTemplates file cause) :
    Outcome spec profile user (.error (.render file cause))
  /-- Everything compiles, and a template is the first one that does not render. -/
  | rendering {env : Template.Environment} {renderer : Renderer} {file : String}
      {e : GenerationError} (hfragments : AllCompile profile.fragments)
      (htemplates : AllCompile profile.sourceTemplates)
      (hbound : Bound spec profile user env renderer)
      (h : FirstFails renderer.render profile.templates.keys file e) :
    Outcome spec profile user (.error e)
  /-- There is a file for each template. The order of rendering makes no difference to any. -/
  | done {env : Template.Environment} {renderer : Renderer} {files : Files}
      (hfragments : AllCompile profile.fragments)
      (htemplates : AllCompile profile.sourceTemplates)
      (hbound : Bound spec profile user env renderer)
      (h : Produces renderer profile.templates.keys files)
      (horder : ∀ order, order.Perm profile.templates.keys → ∃ other,
        ({ renderer with names := order } : Renderer).renderAll = .ok other ∧
          ∀ file, other.get? file = files.get? file) :
    Outcome spec profile user (.ok ⟨files, env.context, env.options⟩)

variable {spec : Specification} {profile : Profile} {user : Options}
  {result : Except GenerationError Client} {cause : GenerationError}

/-- A profile that says how names are written has a format. -/
theorem exists_format (h : profile.format.writeName ≠ none) :
    ∃ format, profile.format.resolve? = some format :=
  Option.ne_none_iff_exists'.mp fun hnone => h (FormatChoices.resolve?_eq_none_iff.mp hnone)

/-- If the templates do not compile, there is no client. -/
theorem generate_of_compile_error (hformat : profile.format.writeName ≠ none)
    (h : profile.compile = .error cause) : generate spec profile user = .error cause := by
  obtain ⟨format, hformat⟩ := exists_format hformat
  simp only [generate, hformat, Profile.renderer, h]
  rfl

/-- What a profile without files of its own generates is its outcome. -/
theorem Outcome.generate_eq (h : Outcome spec profile user result) (hfiles : profile.files = none) :
    generate spec profile user = result := by
  cases h with
  | incomplete h => rw [generate, FormatChoices.resolve?_eq_none_iff.mpr h]
  | fragment hformat h => exact generate_of_compile_error hformat h.compile_fragments
  | template hformat hfragments h =>
    exact generate_of_compile_error hformat (h.compile_templates hfragments)
  | rendering _ _ hbound h =>
    rw [← hbound.names_eq] at h
    rw [hbound.generate_eq hfiles, h.renderAll]
    rfl
  | done _ _ hbound h _ =>
    rw [← hbound.names_eq] at h
    rw [hbound.generate_eq hfiles, h.renderAll_eq]
    rfl

/-- Every profile has an outcome for every description. -/
theorem exists_outcome (spec : Specification) (profile : Profile) (user : Options) :
    ∃ result, Outcome spec profile user result := by
  by_cases hformat : profile.format.writeName = none
  · exact ⟨_, .incomplete hformat⟩
  rcases firstBroken_or_allCompile profile.fragments with ⟨name, cause, h⟩ | hfragments
  · exact ⟨_, .fragment hformat h⟩
  rcases firstBroken_or_allCompile profile.sourceTemplates with ⟨file, cause, h⟩ | htemplates
  · exact ⟨_, .template hformat hfragments h⟩
  obtain ⟨format, hformat⟩ := exists_format hformat
  obtain ⟨env, renderer, hbound⟩ := exists_bound hformat hfragments htemplates spec user
  rcases exists_firstFails_or renderer.render profile.templates.keys with ⟨file, e, h⟩ | hall
  · exact ⟨_, .rendering hfragments htemplates hbound h⟩
  obtain ⟨files, -, hproduces⟩ := exists_produces profile.templates.nodup_keys hall
  refine ⟨_, .done hfragments htemplates hbound hproduces fun order horder => ?_⟩
  obtain ⟨other, hother, hproduced⟩ := exists_produces
    (horder.nodup_iff.mpr profile.templates.nodup_keys)
    fun name hname => hall name (horder.mem_iff.mp hname)
  exact ⟨other, hother, hproduces.get?_eq hproduced horder⟩

/-- Only a function among the templates fails as if the format were incomplete. -/
theorem exists_native_of_firstFails {env : Template.Environment} {renderer : Renderer}
    {file : String} (hbound : Bound spec profile user env renderer)
    (h : FirstFails renderer.render profile.templates.keys file .incompleteFormat) :
    ∃ write, profile.templates.get? file = some (.native write) ∧
      write env.context env.options = .error .incompleteFormat := by
  obtain ⟨hrender, pre, post, hkeys, -⟩ := h
  have hmem : file ∈ profile.templates.keys := by
    rw [hkeys]
    exact List.mem_append_right pre List.mem_cons_self
  obtain ⟨⟨key, body⟩, hentry, rfl⟩ := List.mem_map.mp hmem
  have hbody := OrderedMap.get?_eq_some_iff.mpr hentry
  cases body with
  | source text =>
    obtain ⟨statements, -, hsource⟩ := hbound.render_source hbody
    rw [hsource] at hrender
    cases hresult : Template.render env (Template.escapes key) statements with
    | ok text => rw [hresult] at hrender; cases hrender
    | error cause => rw [hresult] at hrender; cases hrender
  | native write => exact ⟨write, hbody, (hbound.render_native hbody).symm.trans hrender⟩

/-- Generating ends exactly as the stages say. The format of the profile is to blame exactly if it
has no way to write names, unless a function among the templates puts the blame on it. -/
theorem generate_eq_iff (hfiles : profile.files = none) (spec : Specification) (user : Options) :
    (∀ result, generate spec profile user = result ↔ Outcome spec profile user result) ∧
    ((∀ file write, profile.templates.get? file = some (.native write) →
        ∀ context options, write context options ≠ .error .incompleteFormat) →
      (generate spec profile user = .error .incompleteFormat ↔
        profile.format.writeName = none)) := by
  obtain ⟨outcome, houtcome⟩ := exists_outcome spec profile user
  have hiff (result : Except GenerationError Client) :
      generate spec profile user = result ↔ Outcome spec profile user result := by
    refine ⟨?_, fun h => h.generate_eq hfiles⟩
    rintro rfl
    rwa [houtcome.generate_eq hfiles]
  refine ⟨hiff, fun hnative => ?_⟩
  rw [hiff]
  constructor
  · intro h
    cases h with
    | incomplete h => exact h
    | rendering _ _ hbound h =>
      obtain ⟨write, hwrite, herror⟩ := exists_native_of_firstFails hbound h
      exact absurd herror (hnative _ write hwrite _ _)
  · exact .incomplete

/-- A profile with a fragment and with functions among its templates, two of which fail. -/
def reportingProfile : Profile where
  name := "report"
  templates := .ofList [
    ("count.txt", .native fun context _ => .ok (toString context.allMethods.length)),
    ("title.txt", .source "Title"),
    ("fault.txt", .native fun _ _ => .error (.template "nothing to report")),
    ("last.txt", .native fun _ _ => .error .incompleteFormat)]
  fragments := .ofList [("mark", "-")]
  helpers := .empty
  format := { writeUri := none, writeName := some id, numbering := none }
  options := .empty
  files := none

/-- The first function that fails decides how generating ends. -/
theorem reportingProfile_outcome : reportingProfile.files = none ∧
    generate {} reportingProfile .empty = .error (.template "nothing to report") ∧
    Outcome {} reportingProfile .empty (.error (.template "nothing to report")) := by
  have hend : generate {} reportingProfile .empty = .error (.template "nothing to report") := rfl
  have hiff := @generate_eq_iff reportingProfile rfl {} .empty
  exact ⟨rfl, hend, (hiff.1 _).mp hend⟩

end ClientGen
