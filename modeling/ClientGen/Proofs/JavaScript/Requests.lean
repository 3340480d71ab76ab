import ClientGen.Proofs.Http
import ClientGen.Proofs.JavaScript.Printed
import ClientGen.Proofs.Tree.Ownership

/-!
# The requests of a module

A module has the text of every method of every listed resource. A method whose verb names a method
of HTTP sends its requests under the name on the wire.
-/

namespace ClientGen.JavaScript

variable {context : Context} {method : Method} {http : HttpMethod} {n m : Nat} {key : String}

/-- A text is within the texts that it is joined with. -/
theorem infix_join {s : String} {l : List String} (h : s ∈ l) :
    s.toList <:+: (String.join l).toList := by
  rw [String.toList_join, List.flatMap_def]
  exact List.infix_of_mem_flatten (List.mem_map_of_mem h)

/-- A module has a text for each method. -/
theorem isInfix_methodText (options : Options) (hn : n ∈ context.allResources)
    (href : context.tree.Refers n key m) (hmethod : context.tree.methods[m]? = some method) :
    (methodText context n key method).toList <:+: (moduleText context options).toList := by
  obtain ⟨node, hnode, hentry⟩ := href
  have hmem : (key, m) ∈ (resourceAt context n).methods.entries := by
    rw [resourceAt, hnode, Option.getD_some]
    exact OrderedMap.get?_eq_some_iff.mp hentry
  have hblock : (methodText context n key method).toList <:+:
      (methodBlock context n (key, m)).toList := by
    rw [methodBlock, hmethod, Option.map_some, Option.getD_some, String.toList_append]
    exact (List.suffix_append _ _).isInfix
  have hclass : (methodBlock context n (key, m)).toList <:+: (classText context n).toList := by
    delta classText
    rw [String.toList_append, String.toList_append]
    exact (infix_join (List.mem_map_of_mem hmem)).trans (List.infix_append _ _ _)
  have hmodule : (classText context n).toList <:+: (moduleText context options).toList := by
    delta moduleText
    rw [String.toList_append, String.toList_append]
    exact (infix_join (List.mem_map_of_mem hn)).trans (List.infix_append _ _ _)
  exact (hblock.trans hclass).trans hmodule

/-- How a method starts a request with a method of HTTP. -/
def callText (http : HttpMethod) : String :=
  "this._client.request(" ++ quoted http.wireName ++ ", this._path, "

/-- A method whose verb names a method of HTTP sends its requests under the name on the wire. -/
theorem isInfix_callText (context : Context) (n : Nat) (key : String)
    (hverb : HttpMethod.ofVerb? method.verb = some http) :
    (callText http).toList <:+: (methodText context n key method).toList := by
  have hopen : "options = \x7b\x7d) \x7b\n    return this._client.request(" =
      "options = \x7b\x7d) \x7b\n    return " ++ "this._client.request(" := rfl
  have htext : methodText context n key method =
      remarkText context n method ++ "  [" ++ quoted key ++ "] (" ++
        (if takesBody method then "body, " else "") ++ "options = \x7b\x7d) \x7b\n    return " ++
        callText http ++
        ((if takesBody method then "\x7b ...options, body \x7d" else "options") ++
          ")\n  \x7d\n") := by
    delta methodText callText
    rw [HttpMethod.upper_of_ofVerb? hverb, hopen]
    simp only [String.append_assoc, -String.reduceAppend]
  rw [htext, String.toList_append, String.toList_append]
  exact List.infix_append _ _ _

end ClientGen.JavaScript
