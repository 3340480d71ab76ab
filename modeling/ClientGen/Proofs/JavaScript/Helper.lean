import ClientGen.Proofs.Context
import ClientGen.Proofs.JavaScript.Printed
import ClientGen.Proofs.Value

/-!
# Helpers of JavaScript clients on a context

What the helpers make of texts, resources and parameters that a context holds. None of them fails
there, and the way from a resource to the root is short enough for its full URI.
-/

namespace ClientGen.JavaScript

variable {context : Context} {node : Node} {n : Nat}

/-! ## Members -/

/-- There is a resource at every position of the tree. -/
theorem getElem?_resourceAt (hn : n < context.tree.nodes.size) :
    context.tree.nodes[n]? = some (resourceAt context n) := by
  rw [resourceAt, Array.getElem?_eq_getElem hn, Option.getD_some]

/-- A member of a resource that a context holds. -/
theorem member_resource (hnode : context.tree.nodes[n]? = some node) (name : String) {value : Value}
    (hvalue : Context.resourceMember? node name = some value) :
    (Value.view (.resource n)).member context name = .ok value := by
  simp only [Value.member, Value.member?, Context.viewMember?, hnode, Option.bind_some, hvalue]

/-- A member of a method that a context holds. -/
theorem member_method {method : Method} {m : Nat} (hmethod : context.tree.methods[m]? = some method)
    (name : String) {value : Value} (hvalue : Context.methodMember? method name = some value) :
    (Value.view (.method m)).member context name = .ok value := by
  simp only [Value.member, Value.member?, Context.viewMember?, hmethod, Option.bind_some, hvalue]

section Parameters

variable (context) (param : Parameter)

/-- A parameter has its name as a member. -/
theorem member_name :
    (Value.ofJson param.toJson).member context "name" = .ok (.text param.name) := rfl

/-- A parameter has its type as a member. -/
theorem member_type :
    (Value.ofJson param.toJson).member context "type" = .ok (.text param.type) := rfl

/-- A parameter has its description as a member, empty where there is none. -/
theorem member_description :
    (Value.ofJson param.toJson).member context "description" = .ok (.text param.description) := by
  rw [Parameter.toJson, Value.member_object]
  simp [OrderedMap.lookup_cons_eq_ite, Value.lookup_memberIfSet_append, Value.ofJson]

/-- A default that is not set is undefined. -/
theorem member_default : (Value.ofJson param.toJson).member context "default" =
    .ok ((param.default.map Value.ofJson).getD .undefined) := by
  rw [Parameter.toJson, Value.member_object]
  simp [OrderedMap.lookup_cons_eq_ite, Value.lookup_memberIfSet_append,
    Value.lookup_memberIfSet_append_self]

end Parameters

/-! ## Texts -/

/-- A value that JSON allows is written in its compact form. -/
theorem stringify_value {value : Value} {json : Json} (h : value.toJson? context = some json) :
    StandardHelper.stringify.call context [value] = .ok (.text json.compact) := by
  show (StandardHelper.jsonText context 0 value).map Value.text = _
  rw [StandardHelper.jsonText, h]
  rfl

/-! ## URIs -/

/-- The names of the parameters of a resource. -/
theorem uriParameterNames_resource (hnode : context.tree.nodes[n]? = some node) :
    uriParameterNames context (.view (.resource n)) =
      .ok (node.uriParameters.map Parameter.name) := by
  rw [uriParameterNames, member_resource hnode _ rfl]
  show (node.uriParameters.map fun param => Value.ofJson param.toJson).mapM (fun item => do
    return (← item.member context "name").display context) = _
  induction node.uriParameters with
  | nil => rfl
  | cons param rest ih =>
    rw [List.map_cons, List.mapM_cons, member_name, ih]
    rfl

/-- The helper for parameter lists. -/
theorem parameterHelper_resource (hnode : context.tree.nodes[n]? = some node) :
    parameterHelper context [.view (.resource n)] =
      .ok (.text (parameterList (node.uriParameters.map Parameter.name))) := by
  show (do
    return Value.text (parameterList (← uriParameterNames context (.view (.resource n))))) = _
  rw [uriParameterNames_resource hnode]
  rfl

/-- The relative URI of a resource with the names of its parameters. -/
theorem namedUri_resource (hnode : context.tree.nodes[n]? = some node) :
    namedUri context (.view (.resource n)) =
      .ok (fillPlaceholders node.relativeUri (node.uriParameters.map Parameter.name)) := by
  rw [namedUri, member_resource hnode _ rfl, uriParameterNames_resource hnode]
  rfl

/-- More steps than the position of a resource lead past the root, and collect the URIs along the
path of the resource. -/
theorem urisAbove_resource (hwf : context.tree.WellFormed) {steps : Nat} (hsteps : n < steps)
    (hnode : context.tree.nodes[n]? = some node) :
    urisAbove context steps (.view (.resource n)) = .ok (pathText context n) := by
  induction n using Nat.strongRecOn generalizing node steps with
  | ind n ih =>
    obtain ⟨steps, rfl⟩ : ∃ rest, steps = rest + 1 := ⟨steps - 1, by omega⟩
    rw [urisAbove, if_neg (by simp [Value.isAbsent]), namedUri_resource hnode,
      member_resource hnode _ rfl]
    rcases hwf.root_or_child hnode with rfl | ⟨p, hparent, hlt, hchild⟩
    · have habove : urisAbove context steps .none = .ok "" := by cases steps <;> rfl
      rw [pathText, hwf.pathTo_root hnode, hwf.root_parent hnode]
      simp only [Option.map_none, Option.getD_none, bind, Except.bind, habove]
      simp [pure, Except.pure]
    · obtain ⟨pnode, hpnode⟩ : ∃ pnode, context.tree.nodes[p]? = some pnode :=
        ⟨_, Array.getElem?_eq_getElem (Nat.lt_trans hlt (hwf.lt_child hchild).2)⟩
      rw [hparent, Option.map_some, Option.getD_some]
      simp only [bind, Except.bind]
      rw [ih p hlt (by omega) hpnode, pathText, pathText, hwf.pathTo_child hchild hnode]
      simp [pure, Except.pure, String.join_append]

/-- The helper for full URIs. -/
theorem uriHelper_resource (hwf : context.tree.WellFormed)
    (hnode : context.tree.nodes[n]? = some node) :
    uriHelper context [.view (.resource n)] = .ok (.text (documentedUri context n)) := by
  have hn := (Array.getElem?_eq_some_iff.mp hnode).1
  have huri : fullUri context (.view (.resource n)) = .ok (documentedUri context n) := by
    rw [fullUri, urisAbove_resource hwf (by omega) hnode]
    rfl
  show (do return Value.text (← fullUri context (.view (.resource n)))) = _
  rw [huri]
  rfl

end ClientGen.JavaScript
