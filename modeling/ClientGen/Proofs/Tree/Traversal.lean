import ClientGen.Proofs.Tree.Walk

/-!
# Placing declarations in any state

In which order declarations are placed, walk and land does not depend on the state that is built
meanwhile. A visitor says how a state goes a step and how a declaration lands in it; the draft of a
tree is one such state. Whatever the visitor, states stay related if steps and landings keep them
related, and what steps and landings keep is kept.
-/

namespace ClientGen.Tree

/-- How a state goes one step along a segment with the parameters of a declaration, and how the
declaration lands on a node in it. -/
structure Visitor (State : Type) where
  step : ResourceDecl → OrderedMap Parameter → Nat → String → State → State × Option Nat
  land : ResourceDecl → Nat → State → State

namespace Visitor

variable {State Other : Type}

mutual

/-- Places a declaration and what it nests in a state. -/
def visit (visitor : Visitor State) : ResourceDecl → Nat → State → State
  | ⟨relativeUri, displayName, uriParameters, methods, description, resources⟩, start, state =>
    let decl : ResourceDecl :=
      ⟨relativeUri, displayName, uriParameters, methods, description, resources⟩
    walk (visitor.step decl)
      (fun n state => visitAll visitor resources n (visitor.land decl n state))
      (Uri.segments relativeUri) (Parameter.ofTable uriParameters) start state

/-- Places declarations one after the other in a state. -/
def visitAll (visitor : Visitor State) : List ResourceDecl → Nat → State → State
  | [], _, state => state
  | decl :: rest, start, state => visitAll visitor rest start (visit visitor decl start state)

end

/-- Drafts of a tree go steps and take in declarations as the build does. -/
def drafts (format : Format) : Visitor Draft where
  step decl params n segment draft := draft.step format decl.relativeUri params n segment
  land decl n draft := draft.populate format n decl

mutual

/-- The build is a visit of drafts. -/
theorem visit_drafts (format : Format) (decl : ResourceDecl) (start : Nat) (draft : Draft) :
    (drafts format).visit decl start draft = place format decl start draft := by
  obtain ⟨relativeUri, displayName, uriParameters, methods, description, resources⟩ := decl
  rw [visit, place]
  congr 1
  funext n draft
  exact visitAll_drafts format resources n _

/-- The visitor of drafts places declarations. -/
theorem visitAll_drafts (format : Format) (resources : List ResourceDecl) (start : Nat)
    (draft : Draft) :
    (drafts format).visitAll resources start draft = placeAll format resources start draft := by
  cases resources with
  | nil => rfl
  | cons decl rest =>
    rw [visitAll, placeAll, visit_drafts format decl start, visitAll_drafts format rest start]

end

/-! ## States that stay related -/

/-- Two visitors keep their states related, and go to the same nodes. -/
structure Related (visitor : Visitor State) (other : Visitor Other) (R : State → Other → Prop) :
    Prop where
  step : ∀ {decl : ResourceDecl} {params : OrderedMap Parameter} {n : Nat} {segment : String}
    {s : State} {t : Other}, R s t →
      R (visitor.step decl params n segment s).1 (other.step decl params n segment t).1 ∧
        (visitor.step decl params n segment s).2 = (other.step decl params n segment t).2
  land : ∀ {decl : ResourceDecl} {n : Nat} {s : State} {t : Other}, R s t →
    R (visitor.land decl n s) (other.land decl n t)

variable {visitor : Visitor State} {other : Visitor Other} {R : State → Other → Prop}

mutual

/-- Related states stay related while a declaration is placed in both. -/
theorem Related.visit (h : visitor.Related other R) (decl : ResourceDecl) (start : Nat) {s : State}
    {t : Other} (hst : R s t) : R (visitor.visit decl start s) (other.visit decl start t) := by
  obtain ⟨relativeUri, displayName, uriParameters, methods, description, resources⟩ := decl
  rw [Visitor.visit, Visitor.visit]
  refine walk_related ?_ ?_ _ _ _ _ _ hst
  · exact fun _ _ _ _ _ hst => h.step hst
  · exact fun n _ _ hst => h.visitAll resources n (h.land hst)

/-- Related visitors keep their states related over many declarations. -/
theorem Related.visitAll (h : visitor.Related other R) (resources : List ResourceDecl)
    (start : Nat) {s : State} {t : Other} (hst : R s t) :
    R (visitor.visitAll resources start s) (other.visitAll resources start t) := by
  cases resources with
  | nil => exact hst
  | cons decl rest =>
    rw [Visitor.visitAll, Visitor.visitAll]
    exact h.visitAll rest start (h.visit decl start hst)

end

/-! ## What is kept -/

/-- A visitor keeps what holds of a state and a node: its steps keep it of all nodes and lead to
nodes of which it holds, and its landings keep it of all nodes. -/
structure Keeps (visitor : Visitor State) (resources : List ResourceDecl)
    (K : State → Nat → Prop) : Prop where
  step : ∀ {decl : ResourceDecl} {chain : List ResourceDecl} {params : OrderedMap Parameter}
    {n m : Nat} {segment : String} {state : State}, Lineage resources (decl :: chain) →
      decl.Offers params → K state n → K state m →
      K (visitor.step decl params n segment state).1 m
  leads : ∀ {decl : ResourceDecl} {chain : List ResourceDecl} {params : OrderedMap Parameter}
    {n last : Nat} {segment : String} {state : State}, Lineage resources (decl :: chain) →
      decl.Offers params → K state n →
      (visitor.step decl params n segment state).2 = some last →
      K (visitor.step decl params n segment state).1 last
  land : ∀ {decl : ResourceDecl} {chain : List ResourceDecl} {n m : Nat} {state : State},
    Lineage resources (decl :: chain) → K state n → K state m → K (visitor.land decl n state) m

variable {resources : List ResourceDecl} {K : State → Nat → Prop} {decl : ResourceDecl}
  {chain : List ResourceDecl} {params : OrderedMap Parameter} {n m : Nat} {state : State}
  {land : Nat → State → State}

/-- Going on after a step keeps what is kept wherever one goes on. -/
theorem Keeps.goOn (h : visitor.Keeps resources K) (hlineage : Lineage resources (decl :: chain))
    (hoffers : decl.Offers params)
    (hland : ∀ n m state, K state n → K state m → K (land n state) m) (segment : String)
    (hn : K state n) (hm : K state m) :
    K (goOn land (visitor.step decl params n segment state)) m := by
  have hstep : K (visitor.step decl params n segment state).1 m := h.step hlineage hoffers hn hm
  have hleads : ∀ last, (visitor.step decl params n segment state).2 = some last →
      K (visitor.step decl params n segment state).1 last :=
    fun last => h.leads hlineage hoffers hn
  generalize visitor.step decl params n segment state = result at hstep hleads ⊢
  obtain ⟨went, next⟩ := result
  cases next with
  | none => exact hstep
  | some last => exact hland last m went (hleads last rfl) hstep

/-- A walk keeps what steps and landings keep. -/
theorem Keeps.walk (h : visitor.Keeps resources K) (hlineage : Lineage resources (decl :: chain))
    (hland : ∀ n m state, K state n → K state m → K (land n state) m) (segments : List String)
    (hoffers : decl.Offers params) (hn : K state n) (hm : K state m) :
    K (walk (visitor.step decl) land segments params n state) m := by
  induction segments generalizing params n m state with
  | nil => exact hland n m state hn hm
  | cons segment rest ih =>
    have hoffers' := offers_fanOut hoffers segment
    rw [Tree.walk]
    generalize fanOut segment params = fan at hoffers' ⊢
    obtain ⟨values, segment, params⟩ := fan
    have hfan (m : Nat) (hm : K state m) : K (values.foldl (fun state value => Tree.goOn land
        (visitor.step decl params n (mediaTypeSegment value) state)) state) m := by
      have hboth := List.foldlRecOn (motive := fun state => K state n ∧ K state m) values
        (fun state value => Tree.goOn land
          (visitor.step decl params n (mediaTypeSegment value) state)) ⟨hn, hm⟩
        fun state hstate value _ =>
          ⟨h.goOn hlineage hoffers' hland _ hstate.1 hstate.1,
            h.goOn hlineage hoffers' hland _ hstate.1 hstate.2⟩
      exact hboth.2
    exact h.goOn hlineage hoffers' (fun _ _ _ hn hm => ih hoffers' hn hm) segment (hfan n hn)
      (hfan m hm)

mutual

/-- Placing a declaration keeps what steps and landings keep. -/
theorem Keeps.visit (h : visitor.Keeps resources K) (decl : ResourceDecl)
    (chain : List ResourceDecl) (hlineage : Lineage resources (decl :: chain)) (start m : Nat)
    (state : State) (hstart : K state start) (hm : K state m) :
    K (visitor.visit decl start state) m := by
  obtain ⟨relativeUri, displayName, uriParameters, methods, description, nested⟩ := decl
  rw [Visitor.visit]
  refine h.walk hlineage (fun n m state hn hm => ?_) _ (Or.inl rfl) hstart hm
  exact h.visitAll nested _ (fun inner hinner => .nested hlineage hinner) n m _
    (h.land hlineage hn hn) (h.land hlineage hn hm)

/-- What a visitor keeps holds after many declarations. -/
theorem Keeps.visitAll (h : visitor.Keeps resources K) (decls chain : List ResourceDecl)
    (hlineage : ∀ decl ∈ decls, Lineage resources (decl :: chain)) (start m : Nat)
    (state : State) (hstart : K state start) (hm : K state m) :
    K (visitor.visitAll decls start state) m := by
  cases decls with
  | nil => exact hm
  | cons decl rest =>
    have hfirst := fun m hm =>
      h.visit decl chain (hlineage decl List.mem_cons_self) start m state hstart hm
    rw [Visitor.visitAll]
    exact h.visitAll rest chain (fun inner hinner => hlineage inner (List.mem_cons_of_mem _ hinner))
      start m _ (hfirst start hstart) (hfirst m hm)

end

end Visitor

end ClientGen.Tree
