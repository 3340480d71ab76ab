import ClientGen.Proofs.JavaScript.Client
import ClientGen.Proofs.Text.Underscore
import ClientGen.Proofs.Tree.Faithful

/-!
# Parameters of child functions

A child whose URI has parameters is made by a function of them. The body of the function takes
`client`, `path` and `template` from around it, so no parameter may be called so, and every argument
is to reach its own placeholder, so no two parameters may have one name. Underscores in front of
reserved words do not get in the way, because property names have no underscores. But they are put
in front of reserved words only, and names are told apart before they are written in camel case.
-/

namespace ClientGen.JavaScript

variable {name other : String} {bindings : List String}

/-! ## Names of parameters -/

/-- Property names have no underscores. -/
theorem underscore_not_mem_propertyName (name : String) : '_' ∉ (propertyName name).toList :=
  Text.underscore_not_mem_apply (by decide) name

/-- The name of a property never starts with an underscore. -/
theorem underscore_append_ne_propertyName (s name : String) : "_" ++ s ≠ propertyName name := by
  intro heq
  refine underscore_not_mem_propertyName name ?_
  rw [← heq, String.toList_append]
  exact List.mem_append_left _ (by decide)

/-- A parameter is called by the property name, with or without an underscore. -/
theorem bindingName_cases (name : String) : bindingName name = propertyName name ∨
    bindingName name = "_" ++ propertyName name ∧ (propertyName name = "" ∨
      startsWithDigit (propertyName name) = true ∨ propertyName name ∈ reservedWords) := by
  rw [bindingName]
  split
  next h => exact Or.inr ⟨rfl, h⟩
  next => exact Or.inl rfl

/-- Names are bound to one parameter exactly if they have one property name. -/
theorem bindingName_eq_iff :
    bindingName name = bindingName other ↔ propertyName name = propertyName other := by
  constructor
  · intro heq
    rcases bindingName_cases name with hname | ⟨hname, -⟩ <;>
      rcases bindingName_cases other with hother | ⟨hother, -⟩ <;> rw [hname, hother] at heq
    · exact heq
    · exact absurd heq.symm (underscore_append_ne_propertyName _ _)
    · exact absurd heq (underscore_append_ne_propertyName _ _)
    · exact String.append_right_inj "_" |>.mp heq
  · intro heq
    rw [bindingName, bindingName, heq]

/-! ## Hygiene -/

/-- The names that the body of a child function takes from around it. -/
def scopeNames : List String := ["client", "path", "template"]

/-- The parameters of a child function are told apart, and hide nothing that its body needs. -/
structure Hygienic (bindings : List String) : Prop where
  nodup : bindings.Nodup
  avoids : ∀ name ∈ scopeNames, name ∉ bindings

instance : Decidable (Hygienic bindings) :=
  decidable_of_iff (bindings.Nodup ∧ ∀ name ∈ scopeNames, name ∉ bindings)
    ⟨fun h => ⟨h.1, h.2⟩, fun h => ⟨h.nodup, h.avoids⟩⟩

/-- No parameter is called like one of the names that a body takes from around it, unless a property
is. -/
theorem bindingName_mem_scopeNames_iff :
    bindingName name ∈ scopeNames ↔ propertyName name ∈ scopeNames := by
  rcases bindingName_cases name with heq | ⟨heq, hmarked⟩
  · rw [heq]
  · have hplain : ∀ s ∈ scopeNames, '_' ∉ s.toList ∧
        ¬(s = "" ∨ startsWithDigit s = true ∨ s ∈ reservedWords) := by decide
    constructor
    · intro hmem
      rw [heq] at hmem
      exact absurd (by simp) (hplain _ hmem).1
    · intro hmem
      exact absurd hmarked (hplain _ hmem).2

/-- Bindings are hygienic exactly if the names of properties differ and none is that of the
scope. -/
theorem hygienic_map_bindingName_iff (names : List String) :
    Hygienic (names.map bindingName) ↔ (names.map propertyName).Nodup ∧
      ∀ name ∈ names, propertyName name ∉ scopeNames := by
  have hnodup : (names.map bindingName).Nodup ↔ (names.map propertyName).Nodup := by
    simp only [List.Nodup, List.pairwise_map, ne_eq, bindingName_eq_iff]
  have havoids : (∀ name ∈ scopeNames, name ∉ names.map bindingName) ↔
      ∀ name ∈ names, propertyName name ∉ scopeNames := by
    simp only [List.mem_map, not_exists, not_and]
    constructor
    · intro h name hname hmem
      exact h _ (bindingName_mem_scopeNames_iff.mpr hmem) name hname rfl
    · rintro h _ hmem name hname rfl
      exact h name hname (bindingName_mem_scopeNames_iff.mp hmem)
  rw [← hnodup, ← havoids]
  exact ⟨fun h => ⟨h.nodup, h.avoids⟩, fun h => ⟨h.1, h.2⟩⟩

/-! ## Calls -/

section Calls

variable {α : Type} {outer : String → α} {args : List α}

/-- What names stand for in the body of a function that is called with arguments: what they stand
for around the function, unless a parameter is called so. Of two parameters with one name the later
counts. -/
def insideCall (outer : String → α) : List String → List α → String → α
  | binding :: bindings, arg :: args => insideCall (Function.update outer binding arg) bindings args
  | _, _ => outer

/-- A name that is not bound stands for the same in the body as around it. -/
theorem insideCall_of_not_mem (h : name ∉ bindings) :
    insideCall outer bindings args name = outer name := by
  fun_induction insideCall outer bindings args with
  | case1 outer binding bindings arg args ih =>
    rw [List.mem_cons, not_or] at h
    rw [ih h.2, Function.update_of_ne h.1]
  | case2 => rfl

/-- Parameters with different names stand for their arguments. -/
theorem map_insideCall (h : bindings.Nodup) (hlength : args.length = bindings.length) :
    bindings.map (insideCall outer bindings args) = args := by
  fun_induction insideCall outer bindings args with
  | case1 outer binding bindings arg args ih =>
    rw [List.nodup_cons] at h
    rw [List.map_cons, insideCall_of_not_mem h.1, Function.update_self,
      ih h.2 (Nat.succ.inj hlength)]
  | case2 bindings args outer hends =>
    cases bindings with
    | nil => exact (List.length_eq_zero_iff.mp hlength).symm
    | cons binding bindings =>
      obtain ⟨arg, args, rfl⟩ := List.exists_cons_of_length_eq_add_one hlength
      exact absurd rfl (hends _ _ _ _ rfl)

end Calls

/-- The body of a function finds all that it needs exactly if the parameters are hygienic.
Arguments that differ from each other and from all that is outside tell what is read. -/
theorem hygienic_iff_insideCall : Hygienic bindings ↔ ∀ (outer : String → Nat) (args : List Nat),
    args.length = bindings.length →
      (∀ name ∈ scopeNames, insideCall outer bindings args name = outer name) ∧
        bindings.map (insideCall outer bindings args) = args := by
  constructor
  · intro h outer args hlength
    exact ⟨fun name hname => insideCall_of_not_mem (h.avoids name hname),
      map_insideCall h.nodup hlength⟩
  · intro h
    obtain ⟨houter, hargs⟩ := h (fun _ => bindings.length) (List.range bindings.length) (by simp)
    refine ⟨List.Nodup.of_map _ (hargs ▸ List.nodup_range), fun name hname hmem => ?_⟩
    have hread : bindings.length ∈ List.range bindings.length := by
      rw [← hargs]
      exact List.mem_map.mpr ⟨name, hmem, houter name hname⟩
    exact absurd (List.mem_range.mp hread) (Nat.lt_irrefl _)

/-! ## Children of a built client -/

/-- The parameters of the function that makes a child. -/
def bindingsOf (node : Node) : List String :=
  node.uriParameters.map fun param => bindingName param.name

/-- The function that makes a child has one parameter for each placeholder of its segment. -/
theorem bindingsOf_build {spec : Specification} {ids : Identifiers} {n : Nat} {node : Node}
    (hnode : (Context.build format spec ids).1.tree.nodes[n]? = some node) :
    bindingsOf node = (Uri.placeholderNames node.segment).map bindingName := by
  have hfaithful : (Context.build format spec ids).1.tree.Faithful format :=
    Tree.build_faithful _ _ _
  have hnames : node.uriParameters.map Parameter.name = Uri.placeholderNames node.segment := by
    by_cases hn : n = Tree.root
    · subst hn
      obtain ⟨hsegment, -, hnone⟩ := hfaithful.root node hnode
      rw [hsegment, hnone]
      simp [Uri.placeholderNames, Uri.pieces, Uri.names]
    · exact (hfaithful.others hnode hn).names_eq
  rw [bindingsOf, ← hnames, List.map_map]
  rfl

/-- The parameters of the function that makes a child are as the helper for parameter lists writes
them. They are hygienic exactly if the placeholders of its segment have different names in camel
case, none of them one that the body of the function takes from around it, and exactly if the body
always finds these names as they are around it and every argument at its own parameter. -/
theorem parameters_hygienic_iff {spec : Specification} {ids : Identifiers} {n : Nat} {node : Node}
    (hnode : (Context.build format spec ids).1.tree.nodes[n]? = some node) :
    parameterHelper (Context.build format spec ids).1 [.view (.resource n)] =
        .ok (.text (", ".intercalate (bindingsOf node))) ∧
      (Hygienic (bindingsOf node) ↔
        ((Uri.placeholderNames node.segment).map propertyName).Nodup ∧
          ∀ name ∈ Uri.placeholderNames node.segment, propertyName name ∉ scopeNames) ∧
      (Hygienic (bindingsOf node) ↔ ∀ (outer : String → Nat) (args : List Nat),
        args.length = (bindingsOf node).length →
          (∀ name ∈ scopeNames, insideCall outer (bindingsOf node) args name = outer name) ∧
            (bindingsOf node).map (insideCall outer (bindingsOf node) args) = args) := by
  refine ⟨?_, ?_, hygienic_iff_insideCall⟩
  · rw [parameterHelper_resource hnode, parameterList, List.map_map]
    rfl
  · rw [bindingsOf_build hnode]
    exact hygienic_map_bindingName_iff _

/-- Loans have parameters with different names, one of them a reserved word. -/
def loansSpec : Specification where
  resources := [{ relativeUri := "/loans\x7bisbn\x7d\x7bclass\x7d" }]

/-- The parameters of loans are hygienic. -/
theorem loansSpec_hygienic :
    1 < (Context.build format loansSpec .fresh).1.tree.nodes.size ∧
      parameterHelper (Context.build format loansSpec .fresh).1 [.view (.resource 1)] =
        .ok (.text "isbn, _class") ∧
      Hygienic (bindingsOf (resourceAt (Context.build format loansSpec .fresh).1 1)) := by
  have hsize : 1 < (Context.build format loansSpec .fresh).1.tree.nodes.size := by decide +kernel
  obtain ⟨hhelper, hhygienic, -⟩ := parameters_hygienic_iff (getElem?_resourceAt hsize)
  have hbindings : bindingsOf (resourceAt (Context.build format loansSpec .fresh).1 1) =
      ["isbn", "_class"] := by decide +kernel
  have hnames : Uri.placeholderNames
      (resourceAt (Context.build format loansSpec .fresh).1 1).segment = ["isbn", "class"] := by
    decide +kernel
  refine ⟨hsize, ?_, hhygienic.mpr ?_⟩
  · rw [hhelper, hbindings]
    rfl
  · rw [hnames]
    decide +kernel

/-- One child has a parameter that is called like a name in scope, the other one has two parameters
whose names differ in their case only. -/
def capturingSpec : Specification where
  resources :=
    [{ relativeUri := "/\x7bclient\x7d" }, { relativeUri := "/users\x7bid\x7d\x7bID\x7d" }]

/-- The function for the first child hides the client from its own body, and the function for the
second one has two parameters of one name. -/
theorem capturingSpec_not_hygienic :
    (Context.build format capturingSpec .fresh).1.warnings = [] ∧
      (Context.build format capturingSpec .fresh).1.tree.nodes.toList.map bindingsOf =
        [[], ["client"], ["id", "id"]] ∧
      ¬Hygienic ["client"] ∧ ¬Hygienic ["id", "id"] ∧
      childText "client" (resourceAt (Context.build format capturingSpec .fresh).1 1) =
        "    this[\"client\"] = (client) => new Resource1(client, path + " ++
          "template(\"/\x7b0\x7d\", [client]))\n" := by
  refine ⟨by decide +kernel, by decide +kernel, by decide, by decide, ?_⟩
  decide +kernel

end ClientGen.JavaScript
