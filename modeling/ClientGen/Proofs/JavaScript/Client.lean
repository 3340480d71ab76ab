import ClientGen.Proofs.Generate
import ClientGen.Proofs.JavaScript.Rendering
import ClientGen.Proofs.JavaScript.Requests

/-!
# JavaScript clients

Whatever is described and whatever options are given, a JavaScript client is generated: none of its
templates fails, and its files have the texts that are written down for them. In the module every
method that a resource has is written once, with a request under the name on the wire of the method
that its verb names, and every resource but the root is made once, in the class of its parent.
-/

namespace ClientGen.JavaScript

open Template

/-! ## The context -/

/-- The format of a JavaScript client. -/
def format : Format where
  writeUri := id
  writeName := propertyName
  numbering := none

/-- Everything that a built context lists is there. -/
theorem build_complete (format : Format) (spec : Specification) (ids : Identifiers) :
    Complete (Context.build format spec ids).1 := by
  let context := (Context.build format spec ids).1
  have hlists : context.Listed := Context.build_listed format spec ids
  have hwf := hlists.wellFormed
  have howns := hlists.ownsMethods
  have hrefers {n : Nat} (hn : n < context.tree.nodes.size) {entry : String × Nat}
      (hentry : entry ∈ (resourceAt context n).methods.entries) :
      context.tree.Refers n entry.1 entry.2 :=
    ⟨_, getElem?_resourceAt hn, OrderedMap.get?_eq_some_iff.mpr hentry⟩
  refine ⟨hwf, fun n hn => hlists.mem_allResources_iff.mp hn, fun n hn entry hentry => ?_,
    fun n hn entry hentry => ?_, fun m hm => ?_⟩
  · exact (hwf.lt_child
      (Tree.child?_eq_some_iff.mpr ⟨_, getElem?_resourceAt hn, hentry⟩)).2
  · exact (howns.records (hrefers hn hentry)).lt_size
  · obtain ⟨n, key, href⟩ := (howns.mem_listed m).mp hm
    obtain ⟨method, hmethod, rfl, -⟩ := howns.records href
    exact ⟨method, hmethod, href.lt_size⟩

/-- The children of all resources are all resources but the root, each of them once. -/
theorem perm_children {context : Context} (hwf : context.tree.WellFormed) {listed : List Nat}
    (hlisted : listed.Perm (List.range context.tree.nodes.size)) :
    (listed.flatMap fun n => (resourceAt context n).children.values).Perm
      (List.range' 1 (context.tree.nodes.size - 1)) := by
  have hlt {n : Nat} (hn : n ∈ listed) : n < context.tree.nodes.size :=
    List.mem_range.mp (hlisted.mem_iff.mp hn)
  have hchild {n c : Nat} (hn : n ∈ listed) (hc : c ∈ (resourceAt context n).children.values) :
      c < context.tree.nodes.size ∧ (resourceAt context c).parent = some n := by
    have hc' := hwf.rooted.child_lt (getElem?_resourceAt (hlt hn)) c hc
    exact ⟨hc', (hwf.mem_children_iff (getElem?_resourceAt hc')
      (getElem?_resourceAt (hlt hn))).mp hc⟩
  have hnodup : (listed.flatMap fun n => (resourceAt context n).children.values).Nodup := by
    rw [List.nodup_flatMap]
    refine ⟨fun n hn => hwf.nodup_children (getElem?_resourceAt (hlt hn)), ?_⟩
    have hne : listed.Nodup := hlisted.nodup_iff.mpr List.nodup_range
    refine hne.imp_of_mem fun {n i} hn hi hne c hc hc' => hne ?_
    exact Option.some.inj ((hchild hn hc).2.symm.trans (hchild hi hc').2)
  refine (List.perm_ext_iff_of_nodup hnodup List.nodup_range').mpr fun c => ?_
  rw [List.mem_flatMap, List.mem_range'_1]
  constructor
  · rintro ⟨n, hn, hc⟩
    obtain ⟨hc', hparent⟩ := hchild hn hc
    have := (hwf.child?_of_parent (getElem?_resourceAt hc') hparent).1
    omega
  · rintro ⟨hpos, hsize⟩
    have hc : c < context.tree.nodes.size := by omega
    obtain rfl | ⟨p, hparent, hp, -⟩ := hwf.root_or_child (getElem?_resourceAt hc)
    · exact absurd hpos (by decide)
    · have hin := (hwf.mem_children_iff (getElem?_resourceAt hc)
        (getElem?_resourceAt (Nat.lt_trans hp hc))).mpr hparent
      exact ⟨p, hlisted.mem_iff.mpr (List.mem_range.mpr (Nat.lt_trans hp hc)), hin⟩

/-! ## The files -/

/-- The templates of the profile compile. -/
theorem compile_profile : profile.compile = .ok compiledTemplates := by
  have hsources : profile.sources = [("header", headerTemplate), ("method", methodTemplate),
      ("index.js", indexTemplate), ("package.json", packageTemplate),
      ("README.md", readmeTemplate)] := rfl
  have hcompile : List.Forall₂ (fun source compiled => ∀ m,
      compileInto m source.1 source.2 = .ok (m.insert compiled.1 compiled.2)) profile.sources
      [("header", headerStatements), ("method", methodStatements), ("index.js", indexStatements),
        ("package.json", packageStatements), ("README.md", introductionStatements)] := by
    rw [hsources]
    refine .cons (compileInto_eq parse_header) ?_
    refine .cons (compileInto_eq parse_method) ?_
    refine .cons (compileInto_eq parse_index) ?_
    refine .cons (compileInto_eq parse_package) ?_
    exact .cons (compileInto_eq parse_introduction) .nil
  rw [Profile.compile, foldlM_insert hcompile]
  rfl

/-- A template that prints a text renders to it. -/
theorem renderFile_eq {context : Context} {options : Options} {file source text : String}
    {statements : List Statement}
    (hsource : profile.templates.get? file = some (.source source))
    (hcompiled : compiledTemplates.get? file = some statements) (hescapes : escapes file = false)
    (h : Prints context options (meaningAt? (environment context options) 100) 1 [outermost]
      statements text) :
    profile.renderFile (environment context options) file = .ok text := by
  have hrender : render (environment context options) false statements = .ok text := render_eq h
  have hfound : (environment context options).templates.get? file = some statements := hcompiled
  simp only [Profile.renderFile, hsource, hfound, hescapes, renderCompiled, hrender]

/-- The files of a client. -/
def filesOf (context : Context) (options : Options) : Files := .ofList [
  ("index.js", moduleText context options), ("package.json", packageText context options),
  ("README.md", introductionText context options)]

/-- The templates of the profile, bound to a context. -/
def boundRenderer (context : Context) (options : Options) : Renderer where
  names := profile.templates.keys
  render := profile.renderFile (environment context options)
  renderText := renderSource (environment context options)

/-- The profile renders with its compiled templates. -/
theorem renderer_profile (context : Context) (options : Options) :
    profile.renderer context options = .ok (boundRenderer context options) := by
  rw [Profile.renderer, compile_profile]
  rfl

/-- All files of a client render. -/
theorem renderAll_boundRenderer {context : Context} (options : Options) (h : Complete context) :
    (boundRenderer context options).renderAll = .ok (filesOf context options) := by
  have hindex : profile.renderFile (environment context options) "index.js" =
      .ok (moduleText context options) := renderFile_eq rfl rfl (by decide) (prints_index h)
  have hpackage : profile.renderFile (environment context options) "package.json" =
      .ok (packageText context options) := renderFile_eq rfl rfl (by decide) (prints_package _ _)
  have hintroduction : profile.renderFile (environment context options) "README.md" =
      .ok (introductionText context options) :=
    renderFile_eq rfl rfl (by decide) (prints_introduction h (by decide))
  have hrender : List.Forall₂ (fun name file => ∀ files : Files,
      (do return files.insert name (← profile.renderFile (environment context options) name)) =
        Except.ok (files.insert file.1 file.2)) ["index.js", "package.json", "README.md"]
      [("index.js", moduleText context options), ("package.json", packageText context options),
        ("README.md", introductionText context options)] := by
    refine .cons ?_ (.cons ?_ (.cons ?_ .nil))
    · intro files
      rw [hindex]
      rfl
    · intro files
      rw [hpackage]
      rfl
    · intro files
      rw [hintroduction]
      rfl
  exact foldlM_insert hrender .empty

/-- The client for what is described and the options given. -/
def clientOf (spec : Specification) (user : Options) : Client :=
  let context := (Context.build format spec .fresh).1
  let options := Options.overlay profile.options user
  ⟨filesOf context options, context, options⟩

/-- Whatever is described and whatever options are given, a client is generated. -/
theorem generate_eq (spec : Specification) (user : Options) :
    generate spec profile user = .ok (clientOf spec user) := by
  have hformat : profile.format.resolve? = some format := rfl
  simp only [generate, hformat, renderer_profile]
  show (do
    let files ← (boundRenderer (Context.build format spec .fresh).1 _).renderAll
    return Client.mk files (Context.build format spec .fresh).1 _) = _
  rw [renderAll_boundRenderer _ (build_complete format spec .fresh)]
  rfl

/-- What a JavaScript client consists of. -/
structure Rendered (spec : Specification) (user : Options) (client : Client) : Prop where
  context_eq : client.context = (Context.build format spec .fresh).1
  options_eq : client.options = Options.overlay profile.options user
  keys_eq : client.files.keys = ["index.js", "package.json", "README.md"]
  module_eq : client.files.get? "index.js" = some (moduleText client.context client.options)
  package_eq : client.files.get? "package.json" = some (packageText client.context client.options)
  introduction_eq : client.files.get? "README.md" =
    some (introductionText client.context client.options)
  /-- Every resource has one class. -/
  classes : client.context.allResources.Perm (List.range client.context.tree.nodes.size)
  /-- The methods of the classes are the listed methods, and all of them exist. -/
  methods : (client.context.allResources.flatMap fun n =>
      (resourceAt client.context n).methods.values) = client.context.allMethods ∧
    ∀ m ∈ client.context.allMethods, m < client.context.tree.methods.size
  /-- No method is written twice. -/
  nodup_methods : client.context.allMethods.Nodup
  /-- Every method that a resource refers to is written. -/
  mem_methods : ∀ m, m ∈ client.context.allMethods ↔
    ∃ n key, client.context.tree.Refers n key m
  /-- The text of a method is in the module, and where its verb names a method of HTTP, the text
  calls it by its name on the wire. -/
  requests : ∀ {n : Nat} {key : String} {m : Nat} {method : Method} {http : HttpMethod},
    client.context.tree.Refers n key m → client.context.tree.methods[m]? = some method →
    HttpMethod.ofVerb? method.verb = some http →
    (callText http).toList <:+: (methodText client.context n key method).toList ∧
      (methodText client.context n key method).toList <:+:
        (moduleText client.context client.options).toList
  /-- Every resource but the root is made once. -/
  children : (client.context.allResources.flatMap fun n =>
      (resourceAt client.context n).children.values).Perm
    (List.range' 1 (client.context.tree.nodes.size - 1))
  /-- A resource is made in the class of its parent. -/
  parent_eq : ∀ n ∈ client.context.allResources,
    ∀ child ∈ (resourceAt client.context n).children.values,
      (resourceAt client.context child).parent = some n

/-- The client of a description consists of the files that are written down for it. -/
theorem rendered_clientOf (spec : Specification) (user : Options) :
    Rendered spec user (clientOf spec user) := by
  let context := (Context.build format spec .fresh).1
  have hlists : context.Listed := Context.build_listed format spec .fresh
  have hwf := hlists.wellFormed
  have howns := hlists.ownsMethods
  have hlisted : context.allResources.Perm (List.range context.tree.nodes.size) := by
    rw [hlists.allResources_eq]
    exact hwf.preorder_root_perm
  have hlt {n : Nat} (hn : n ∈ context.allResources) : n < context.tree.nodes.size :=
    hlists.mem_allResources_iff.mp hn
  refine ⟨rfl, rfl, rfl, rfl, rfl, rfl, hlisted, ⟨?_, fun m hm => ?_⟩, howns.nodup_listed,
    howns.mem_listed, ?_, perm_children hwf hlisted, fun n hn child hchild => ?_⟩
  · rw [clientOf, howns.listed]
    refine List.flatMap_congr fun n hn => ?_
    rw [Tree.methodsAt, getElem?_resourceAt (hlt hn)]
    rfl
  · obtain ⟨n, key, href⟩ := (howns.mem_listed m).mp hm
    exact (howns.records href).lt_size
  · intro n key m method http href hmethod hverb
    have hn : n ∈ context.allResources := hlists.mem_allResources_iff.mpr href.lt_size
    exact ⟨isInfix_callText context n key hverb, isInfix_methodText _ hn href hmethod⟩
  · have hlt' := hwf.rooted.child_lt (getElem?_resourceAt (hlt hn)) child hchild
    exact (hwf.mem_children_iff (getElem?_resourceAt hlt') (getElem?_resourceAt (hlt hn))).mp hchild

/-- Every description and all options lead to a client, whose module has one class for each resource
in the order of the listing. -/
theorem generate_rendered (spec : Specification) (user : Options) :
    ∃ client, generate spec profile user = .ok client ∧ Rendered spec user client :=
  ⟨clientOf spec user, generate_eq spec user, rendered_clientOf spec user⟩

end ClientGen.JavaScript
