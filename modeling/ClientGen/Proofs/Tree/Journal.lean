import ClientGen.Proofs.Tree.Route

/-!
# The journal of a build

Which declaration landed on which node cannot be read off a finished tree. Here a tree is built by
the same walks while a journal of the landings is kept. Leaving the journal away gives the build
itself.
-/

namespace ClientGen.Tree

/-- A declaration that was placed from one node and landed on another one. -/
structure Landing where
  start : Nat
  node : Nat
  decl : ResourceDecl

/-- A draft with the landings that led to it, in their order. -/
structure Journal where
  draft : Draft
  landings : List Landing

namespace Journal

/-- The tree that a journal has led to. -/
def tree (journal : Journal) : Tree := journal.draft.tree

/-- The warnings that were given so far. -/
def warnings (journal : Journal) : List Warning := journal.draft.warnings

/-- One step of a walk. -/
def step (journal : Journal) (format : Format) (relativeUri : String)
    (params : OrderedMap Parameter) (n : Nat) (segment : String) : Journal × Option Nat :=
  let (draft, next) := journal.draft.step format relativeUri params n segment
  ({ journal with draft }, next)

/-- A declaration lands on a node: the landing is noted and the node populated. -/
def land (journal : Journal) (format : Format) (landing : Landing) : Journal where
  draft := journal.draft.populate format landing.node landing.decl
  landings := journal.landings ++ [landing]

end Journal

mutual

/-- Places a declared resource and what it nests, and keeps the journal. -/
def record (format : Format) : ResourceDecl → Nat → Journal → Journal
  | ⟨relativeUri, displayName, uriParameters, methods, description, resources⟩, start, journal =>
    let decl : ResourceDecl :=
      ⟨relativeUri, displayName, uriParameters, methods, description, resources⟩
    walk (fun params n segment journal => journal.step format relativeUri params n segment)
      (fun n journal => recordAll format resources n (journal.land format ⟨start, n, decl⟩))
      (Uri.segments relativeUri) (Parameter.ofTable uriParameters) start journal

/-- Places declared resources one after the other, and keeps the journal. -/
def recordAll (format : Format) : List ResourceDecl → Nat → Journal → Journal
  | [], _, journal => journal
  | decl :: rest, start, journal => recordAll format rest start (record format decl start journal)

end

/-- The journal of building the tree of declared resources. -/
def history (format : Format) (resources : List ResourceDecl) (ids : Identifiers) : Journal :=
  let (id, ids) := format.nextId ids "resource"
  recordAll format resources root ⟨{ tree := withRoot id, ids, warnings := [] }, []⟩

/-! ## The journal belongs to the build -/

section Walk

variable {σ τ : Type} {R : σ → τ → Prop}

/-- States stay related when both walks go on with the same node. -/
theorem goOn_related {next : Nat → σ → σ} {next' : Nat → τ → τ} {went : σ × Option Nat}
    {went' : τ × Option Nat} (hstate : R went.1 went'.1) (hnode : went.2 = went'.2)
    (hnext : ∀ n s t, R s t → R (next n s) (next' n t)) :
    R (goOn next went) (goOn next' went') := by
  obtain ⟨s, node⟩ := went
  obtain ⟨t, node'⟩ := went'
  obtain rfl : node = node' := hnode
  cases node with
  | none => exact hstate
  | some n => exact hnext n s t hstate

/-- Two walks over the same segments stay related if their steps and landings do. -/
theorem walk_related {step : OrderedMap Parameter → Nat → String → σ → σ × Option Nat}
    {step' : OrderedMap Parameter → Nat → String → τ → τ × Option Nat}
    {land : Nat → σ → σ} {land' : Nat → τ → τ}
    (hstep : ∀ params n segment s t, R s t →
      R (step params n segment s).1 (step' params n segment t).1 ∧
        (step params n segment s).2 = (step' params n segment t).2)
    (hland : ∀ n s t, R s t → R (land n s) (land' n t)) (segments : List String)
    (params : OrderedMap Parameter) (n : Nat) (s : σ) (t : τ) (h : R s t) :
    R (walk step land segments params n s) (walk step' land' segments params n t) := by
  induction segments generalizing params n s t with
  | nil => exact hland n s t h
  | cons segment rest ih =>
    simp only [walk]
    obtain ⟨values, segment, params⟩ := fanOut segment params
    have hfan := List.foldl_rel (l := values)
      (f := fun s value => goOn land (step params n (mediaTypeSegment value) s))
      (g := fun t value => goOn land' (step' params n (mediaTypeSegment value) t)) h
      fun value _ s t hst => goOn_related (hstep _ _ _ s t hst).1 (hstep _ _ _ s t hst).2 hland
    have hlast := hstep params n segment _ _ hfan
    exact goOn_related hlast.1 hlast.2 fun n s t hst => ih params n s t hst

end Walk

mutual

/-- Keeping the journal does not change how a declaration is placed. -/
theorem draft_record (format : Format) (decl : ResourceDecl) (start : Nat) (journal : Journal) :
    (record format decl start journal).draft = place format decl start journal.draft := by
  obtain ⟨relativeUri, displayName, uriParameters, methods, description, resources⟩ := decl
  rw [record, place]
  refine walk_related (R := fun (journal : Journal) draft => journal.draft = draft)
    ?_ ?_ _ _ _ _ _ rfl
  · rintro params n segment journal _ rfl
    exact ⟨rfl, rfl⟩
  · rintro n journal _ rfl
    exact draft_recordAll format resources n _

/-- The draft of a journal is built as it is without one. -/
theorem draft_recordAll (format : Format) (resources : List ResourceDecl) (start : Nat)
    (journal : Journal) :
    (recordAll format resources start journal).draft =
      placeAll format resources start journal.draft := by
  cases resources with
  | nil => rfl
  | cons decl rest =>
    rw [recordAll, placeAll, draft_recordAll format rest start, draft_record format decl start]

end

/-- The journal of a build ends with its result. -/
theorem draft_history (format : Format) (resources : List ResourceDecl) (ids : Identifiers) :
    (history format resources ids).draft = build format resources ids :=
  draft_recordAll format resources root _

end ClientGen.Tree
