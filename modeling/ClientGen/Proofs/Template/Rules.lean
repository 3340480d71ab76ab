import ClientGen.Proofs.Template.Meaning
import ClientGen.Proofs.Value

/-!
# Rules for meanings

What names, filters and statements mean in the scopes that templates build: the rounds of loops
around the context, with nothing declared in them.
-/

namespace ClientGen.Template

variable {env : Environment} {frames : List Frame} {name : String} {value : Value}

/-! ## Names -/

section Names

variable {items : List Value} {count : Option Nat} {index : Nat} {bound : List (String × Value)}

/-- What a round binds is what its names mean. -/
theorem nameMeaning?_bound (h : bound.lookup name = some value) :
    nameMeaning? env (roundFrame items count index bound :: frames) name = some value := by
  simp [nameMeaning?, Run.lookupIn, roundFrame, openFrame, h]

/-- A name that a round does not bind means what it means around the loop. -/
theorem nameMeaning?_around (h : bound.lookup name = none) (hname : name ≠ "loop") :
    nameMeaning? env (roundFrame items count index bound :: frames) name =
      nameMeaning? env frames name := by
  simp [nameMeaning?, Run.lookupIn, roundFrame, openFrame, h, hname, Run.lookupBase]

/-- Outside of all loops a name means what the context has under it. -/
theorem nameMeaning?_context (h : env.context.member? env.options name = some value) :
    nameMeaning? env [outermost] name = some value := by
  simp [nameMeaning?, Run.lookupIn, outermost, openFrame, Run.lookupBase, h]

/-- A name that the context does not have is that of a helper. -/
theorem nameMeaning?_helper (h : env.context.member? env.options name = none)
    (hname : name ≠ "loop") (hfound : (env.helpers.lookup? name).isSome) :
    nameMeaning? env [outermost] name = some (.helper name) := by
  obtain ⟨found, hfound⟩ := Option.isSome_iff_exists.mp hfound
  simp [nameMeaning?, Run.lookupIn, outermost, openFrame, Run.lookupBase, h, hname, hfound]

end Names

/-! ## Expressions -/

/-- A name means what it stands for. -/
theorem Expression.meaning?_name (h : nameMeaning? env frames name = some value) :
    (Expression.name name).meaning? env frames = some value := by
  rw [Expression.meaning?, h, Option.getD_some]

/-- The member of what an expression means. -/
theorem Expression.meaning?_member {whole : Expression} {member : String} {part : Value}
    (hwhole : whole.meaning? env frames = some value)
    (hpart : value.member env.context member = .ok part) :
    (Expression.member whole member).meaning? env frames = some part := by
  rw [Expression.meaning?, hwhole, Option.bind_eq_bind, Option.bind_some, hpart]
  rfl

/-- Two values of which the first one decides. -/
theorem Expression.meaning?_both {left right : Expression} {first second : Value}
    (hleft : left.meaning? env frames = some first)
    (hright : right.meaning? env frames = some second) :
    (Expression.both left right).meaning? env frames =
      some (if first.isTrue then second else first) := by
  rw [Expression.meaning?, hleft, hright, Option.bind_eq_bind, Option.bind_some]
  split <;> rfl

/-- Both of two values are needed for a true one. -/
theorem isTrue_both (first second : Value) :
    (if first.isTrue then second else first).isTrue = (first.isTrue && second.isTrue) := by
  cases h : first.isTrue <;> simp [h]

/-- Two values of which the second one stands in for the first. -/
theorem Expression.meaning?_either {left right : Expression} {first second : Value}
    (hleft : left.meaning? env frames = some first)
    (hright : right.meaning? env frames = some second) :
    (Expression.either left right).meaning? env frames =
      some (if first.isTrue then first else second) := by
  rw [Expression.meaning?, hleft, hright, Option.bind_eq_bind, Option.bind_some]
  split <;> rfl

/-- A helper is a filter. -/
theorem applyFilter_of_lookup? {helpers : HelperSet} {context : Context} {found : HelperSet.Found}
    (h : helpers.lookup? name = some found) :
    applyFilter helpers context name value .empty = found.function context [value] := by
  have hmap : ¬(name = "map" ∧ (helpers.lookup? name).isNone) := by simp [h]
  rw [applyFilter, if_neg hmap]
  simp only [applySimple, h]
  rfl

/-- What a helper makes of what an expression means. -/
theorem Expression.meaning?_filter {input : Expression} {found : HelperSet.Found} {result : Value}
    (hinput : input.meaning? env frames = some value)
    (hfound : env.helpers.lookup? name = some found)
    (hresult : found.function env.context [value] = .ok result) :
    (Expression.filter input name []).meaning? env frames = some result := by
  rw [Expression.meaning?, hinput, Option.bind_eq_bind, Option.bind_some, meaningOfPassed?,
    Option.bind_eq_bind, Option.bind_some, applyFilter_of_lookup? hfound, hresult]
  rfl

/-- The entries of a table, where no helper takes the place of their filter. -/
theorem Expression.meaning?_items {input : Expression} {table : OrderedMap Value}
    (hinput : input.meaning? env frames = some (.record table.entries))
    (hfree : env.helpers.lookup? "items" = none) :
    (Expression.filter input "items" []).meaning? env frames =
      some (.series (table.entries.map fun entry => .list [.text entry.1, entry.2])) := by
  have hmap : ¬("items" = "map" ∧ (env.helpers.lookup? "items").isNone) :=
    fun h => absurd h.1 (by decide)
  rw [Expression.meaning?, hinput, Option.bind_eq_bind, Option.bind_some, meaningOfPassed?,
    Option.bind_eq_bind, Option.bind_some, applyFilter, if_neg hmap]
  simp only [applySimple, hfree, Arguments.empty, Value.pairs?_record]
  rfl

/-! ## Statements -/

section Statements

variable {below : Nested} {escape : Bool} {depth : Nat}

/-- Text outside of all tags means itself. -/
@[simp] theorem Statement.meaning?_content (text : String) :
    (Statement.content text).meaning? env below escape depth frames = some text := by
  rw [Statement.meaning?]

/-- Statements mean the text of the first one and those of the others. -/
theorem meaningOfAll?_cons {statement : Statement} {rest : List Statement} {first others : String}
    (hfirst : statement.meaning? env below escape depth frames = some first)
    (hothers : meaningOfAll? env below escape depth frames rest = some others) :
    meaningOfAll? env below escape depth frames (statement :: rest) = some (first ++ others) := by
  rw [meaningOfAll?, hfirst, hothers]
  rfl

/-- A branch means one of its sides. -/
theorem Statement.meaning?_branch {condition : Expression} {yes no : List Statement}
    {yesText noText : String} (hcondition : condition.meaning? env frames = some value)
    (hyes : meaningOfAll? env below escape depth frames yes = some yesText)
    (hno : meaningOfAll? env below escape depth frames no = some noText) :
    (Statement.branch condition yes no).meaning? env below escape depth frames =
      some (if value.isTrue then yesText else noText) := by
  rw [Statement.meaning?, hcondition, Option.bind_eq_bind, Option.bind_some, hyes, hno]
  split <;> rfl

/-- Rounds with one meaning each, whatever their place in the loop, have these meanings together. -/
theorem mapM_zipIdx_eq {α : Type} {items : List α} (meaning : Value × Nat → Option String)
    {encode : α → Value} {text : α → String}
    (h : ∀ item ∈ items, ∀ index, meaning (encode item, index) = some (text item)) (start : Nat) :
    ((items.map encode).zipIdx start).mapM meaning = some (items.map text) := by
  induction items generalizing start with
  | nil => rfl
  | cons item rest ih =>
    rw [List.map_cons, List.zipIdx_cons, List.mapM_cons, h item List.mem_cons_self,
      ih (fun item hitem => h item (List.mem_cons_of_mem _ hitem))]
    rfl

/-- A loop means the texts of its rounds one after the other. -/
theorem Statement.meaning?_loop {α : Type} {target : Target} {source : Expression}
    {body : List Statement} {items : List α} {encode : α → Value} {text : α → String}
    (hsource : source.meaning? env frames = some value)
    (hitems : value.iterate? = some (items.map encode)) (hdepth : ¬Run.depthLimit < depth + 1)
    (hround : ∀ item ∈ items, ∃ bound, target.bound? [] (encode item) = some bound ∧
      ∀ all count index, meaningOfAll? env below escape (depth + 1)
        (roundFrame all count index bound :: frames) body = some (text item)) :
    (Statement.loop target source none body []).meaning? env below escape depth frames =
      some (String.join (items.map text)) := by
  rw [Statement.meaning?, hsource, Option.bind_eq_bind, Option.bind_some, hitems,
    Option.bind_eq_bind, Option.bind_some, if_neg hdepth]
  cases items with
  | nil => rfl
  | cons item rest =>
    have hrounds (count : Option Nat) := mapM_zipIdx_eq
      (fun entry => do
        let bound ← target.bound? [] entry.1
        meaningOfAll? env below escape (depth + 1)
          (roundFrame ((item :: rest).map encode) count entry.2 bound :: frames) body)
      (fun item hitem index => by
        obtain ⟨bound, hbound, hbody⟩ := hround item hitem
        rw [hbound]
        exact hbody _ _ _) 0
    show (do
      let rounds ← _
      return String.join rounds : Option String) = _
    rw [hrounds]
    rfl

/-- An included template means what it means on the level below. -/
theorem Statement.meaning?_include {body : List Statement} {text : String}
    (hbody : env.templates.get? name = some body)
    (hdepth : ¬Run.depthLimit < depth + Run.includeDepth)
    (htext : below (depth + Run.includeDepth) (escapes name) frames body = some text) :
    (Statement.includeFirst (.literal (.text name)) false).meaning? env below escape depth frames =
      some text := by
  rw [Statement.meaning?, Expression.meaning?, Option.bind_eq_bind, Option.bind_some]
  simp only [if_neg hdepth, hbody, Option.bind_eq_bind, Option.bind_some, htext]

end Statements

end ClientGen.Template
