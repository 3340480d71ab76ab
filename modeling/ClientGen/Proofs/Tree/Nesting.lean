import ClientGen.Proofs.Tree.Landing
import ClientGen.Proofs.Tree.Traversal

/-!
# Nested and flat declarations

A declaration that nests others can be replaced by a flat list: the declaration alone, followed by
what it nests under longer relative URIs. A walk along a longer URI starts with the segments of the
outer one. These were gone along before, so the walk finds all nodes there and adds none, and it
comes to the node where the outer declaration landed. If it was refused, it is refused again.
-/

namespace ClientGen

/-- A declaration under a longer relative URI. -/
def ResourceDecl.under (outer : String) (decl : ResourceDecl) : ResourceDecl :=
  { decl with relativeUri := outer ++ decl.relativeUri }

/-- A declaration without what it nests, followed by this under longer relative URIs. -/
def ResourceDecl.flattened (decl : ResourceDecl) : List ResourceDecl :=
  decl.alone :: decl.resources.map (ResourceDecl.under decl.relativeUri)

/-- A warning without the relative URI that it is about. -/
def Warning.withoutUri : Warning → Warning
  | .unmappableSegment _ segment => .unmappableSegment "" segment
  | .keyCollision key existingSegment segment => .keyCollision key existingSegment segment

namespace Tree

variable {format : Format} {draft draft' went later : Draft} {decl : ResourceDecl}
  {resources : List ResourceDecl} {params : OrderedMap Parameter} {n : Nat} {next : Option Nat}
  {segment relativeUri : String} {segments first : List String}

/-- To place a declaration is to walk along its segments. Where it lands, its methods are added and
what it nests is placed. -/
theorem place_eq (format : Format) (decl : ResourceDecl) (n : Nat) (draft : Draft) :
    place format decl n draft =
      walk (fun params n segment draft => draft.step format decl.relativeUri params n segment)
        (fun n draft => placeAll format decl.resources n (draft.populate format n decl.alone))
        (Uri.segments decl.relativeUri) (Parameter.ofTable decl.uriParameters) n draft := by
  obtain ⟨relativeUri, displayName, uriParameters, methods, description, resources⟩ := decl
  rw [place]
  rfl

/-! ## Drafts that agree -/

/-- Two drafts agree but for their warnings, which are in a relation. -/
structure Draft.Agrees (W : List Warning → List Warning → Prop) (draft draft' : Draft) : Prop where
  tree_eq : draft.tree = draft'.tree
  ids_eq : draft.ids = draft'.ids
  warnings : W draft.warnings draft'.warnings

/-- A relation of warnings is kept if warnings are given that differ at most in their URIs. -/
def KeepsPace (W : List Warning → List Warning → Prop) : Prop :=
  ∀ {ws ws' : List Warning} {w w' : Warning}, W ws ws' → w.withoutUri = w'.withoutUri →
    W (ws ++ [w]) (ws' ++ [w'])

variable {W : List Warning → List Warning → Prop}

/-- A step does not depend on the warnings, and on the relative URI only for the text of one. -/
theorem Draft.Agrees.step (hW : KeepsPace W) (h : Draft.Agrees W draft draft')
    (relativeUri' : String) :
    Draft.Agrees W (draft.step format relativeUri params n segment).1
        (draft'.step format relativeUri' params n segment).1 ∧
      (draft.step format relativeUri params n segment).2 =
        (draft'.step format relativeUri' params n segment).2 := by
  obtain ⟨tree, ids, warnings⟩ := draft
  obtain ⟨tree', ids', warnings'⟩ := draft'
  obtain ⟨rfl, rfl, hwarnings⟩ := h
  rw [Draft.step, Draft.step]
  by_cases hslash : segment = "/"
  · rw [if_pos hslash, if_pos hslash]
    exact ⟨⟨rfl, rfl, hwarnings⟩, rfl⟩
  · rw [if_neg hslash, if_neg hslash]
    cases Uri.segmentKey? format segment with
    | none => exact ⟨⟨rfl, rfl, hW hwarnings rfl⟩, rfl⟩
    | some key =>
      cases hchild : tree.child? n key with
      | none =>
        simp only [hchild]
        exact ⟨⟨rfl, rfl, hwarnings⟩, rfl⟩
      | some child =>
        simp only [hchild]
        split
        · exact ⟨⟨rfl, rfl, hwarnings⟩, rfl⟩
        · exact ⟨⟨rfl, rfl, hW hwarnings rfl⟩, rfl⟩

/-- Drafts agree after a node is populated in both. -/
theorem Draft.Agrees.populate (h : Draft.Agrees W draft draft') (format : Format) (n : Nat)
    (decl : ResourceDecl) :
    Draft.Agrees W (draft.populate format n decl) (draft'.populate format n decl) := by
  obtain ⟨tree, ids, warnings⟩ := draft
  obtain ⟨tree', ids', warnings'⟩ := draft'
  obtain ⟨rfl, rfl, hwarnings⟩ := h
  exact ⟨rfl, rfl, hwarnings⟩

/-- Placing declarations does not depend on the warnings given before. -/
theorem Draft.Agrees.related (hW : KeepsPace W) (format : Format) :
    (Visitor.drafts format).Related (.drafts format) (Draft.Agrees W) where
  step h := h.step hW _
  land h := h.populate format _ _

/-- Drafts agree after a declaration is placed in both. -/
theorem Draft.Agrees.place (hW : KeepsPace W) (format : Format) (decl : ResourceDecl) (n : Nat)
    (draft draft' : Draft) (h : Draft.Agrees W draft draft') :
    Draft.Agrees W (place format decl n draft) (place format decl n draft') := by
  rw [← Visitor.visit_drafts, ← Visitor.visit_drafts]
  exact (related hW format).visit decl n h

/-- Drafts agree after declarations are placed in both. -/
theorem Draft.Agrees.placeAll (hW : KeepsPace W) (format : Format) (resources : List ResourceDecl)
    (n : Nat) (draft draft' : Draft) (h : Draft.Agrees W draft draft') :
    Draft.Agrees W (placeAll format resources n draft) (placeAll format resources n draft') := by
  rw [← Visitor.visitAll_drafts, ← Visitor.visitAll_drafts]
  exact (related hW format).visitAll resources n h

/-! ## Going along segments again -/

/-- Goes along segments, as long as there is a node to go on from. -/
def advance {State : Type} (step : Nat → String → State → State × Option Nat) :
    List String → Nat → State → State × Option Nat
  | [], n, state => (state, some n)
  | segment :: rest, n, state =>
    match step n segment state with
    | (state, none) => (state, none)
    | (state, some next) => advance step rest next state

/-- A walk along more segments goes on from where the first ones lead. -/
theorem advance_append {State : Type} {step : Nat → String → State → State × Option Nat}
    (first second : List String) (n : Nat) (state : State) :
    advance step (first ++ second) n state =
      match advance step first n state with
      | (state, none) => (state, none)
      | (state, some next) => advance step second next state := by
  induction first generalizing n state with
  | nil => rfl
  | cons segment first ih =>
    simp only [List.cons_append, advance]
    rcases step n segment state with ⟨state, _ | next⟩
    · rfl
    · exact ih next state

/-- A walk along one segment is one step. -/
theorem advance_singleton {State : Type} {step : Nat → String → State → State × Option Nat}
    (segment : String) (n : Nat) (state : State) :
    advance step [segment] n state = step n segment state := by
  rw [advance]
  rcases step n segment state with ⟨state, _ | next⟩ <;> rfl

/-- A walk goes along its first segments, none of which fans out, and then along the others. -/
theorem walk_append {State : Type}
    {step : OrderedMap Parameter → Nat → String → State → State × Option Nat}
    {land : Nat → State → State} (hplain : Uri.mediaTypePlaceholder ∉ first) (rest : List String)
    (n : Nat) (state : State) :
    walk step land (first ++ rest) params n state =
      goOn (walk step land rest params) (advance (step params) first n state) := by
  induction first generalizing n state with
  | nil => rfl
  | cons segment first ih =>
    obtain ⟨hsegment, hfirst⟩ := List.ne_and_not_mem_of_not_mem_cons hplain
    rw [List.cons_append, walk, fanOut, if_neg (Ne.symm hsegment)]
    simp only [List.foldl_nil, advance]
    rcases step params n segment state with ⟨state, _ | next⟩
    · rfl
    · exact ih hfirst next state

/-- Goes along segments in a draft. -/
def Draft.advance (draft : Draft) (format : Format) (relativeUri : String)
    (params : OrderedMap Parameter) (segments : List String) (n : Nat) : Draft × Option Nat :=
  Tree.advance (fun n segment draft => draft.step format relativeUri params n segment) segments n
    draft

/-- Segments have led from a node of one draft to a later draft, and to a node or nowhere. Going
along them again leads there again and changes nothing, but for a warning if they led nowhere. -/
structure Repeatable (format : Format) (segments : List String) (n : Nat) (draft went : Draft)
    (next : Option Nat) : Prop where
  wellFormed : went.tree.WellFormed
  extends_tree : draft.tree.Extends went.tree
  lt_size : ∀ last, next = some last → last < went.tree.nodes.size
  warned : next = none → ∃ warning, went.warnings = draft.warnings ++ [warning]
  quiet : next ≠ none → went.warnings = draft.warnings
  again : ∀ later : Draft, later.tree.WellFormed → went.tree.Extends later.tree →
    ∀ relativeUri params, ∃ again,
      later.advance format relativeUri params segments n = (again, next) ∧
      again.tree = later.tree ∧ again.ids = later.ids ∧ (next ≠ none → again = later)

/-- One step along a segment can be gone again. -/
theorem repeatable_step (hwf : draft.tree.WellFormed) (hn : n < draft.tree.nodes.size)
    (format : Format) (relativeUri : String) (params : OrderedMap Parameter) (segment : String) :
    ∃ went next, draft.step format relativeUri params n segment = (went, next) ∧
      Repeatable format [segment] n draft went next := by
  rcases step_cases format hwf relativeUri params n segment with
    ⟨hslash, hstep⟩ | ⟨hslash, child, hchild, hstep⟩ | ⟨hslash, key, hkey, hfree, hstep⟩ |
    ⟨hslash, warning, hrefused, hstep⟩
  · refine ⟨draft, some n, hstep, hwf, .refl _, ?_, by simp, fun _ => rfl, ?_⟩
    · rintro last ⟨⟩
      exact hn
    · intro later _ _ relativeUri params
      refine ⟨later, ?_, rfl, rfl, fun _ => rfl⟩
      rw [Draft.advance, advance_singleton, Draft.step, if_pos hslash]
  · refine ⟨draft, some child, hstep, hwf, .refl _, ?_, by simp, fun _ => rfl, ?_⟩
    · rintro last ⟨⟩
      obtain ⟨key, node, -, hin, -⟩ := childAlong?_eq_some_iff.mp hchild
      exact (hwf.lt_child hin).2
    · intro later hlater hext relativeUri params
      refine ⟨later, ?_, rfl, rfl, fun _ => rfl⟩
      rw [Draft.advance, advance_singleton]
      exact step_of_childAlong?_eq_some hlater hslash _ _ (hext.childAlong? hchild)
  · have hgrown := childAlong?_grow params hn hkey hfree
    refine ⟨_, _, hstep, hwf.attach hn hfree rfl, extends_grow hn hfree, ?_, by simp, fun _ => rfl,
      ?_⟩
    · rintro last ⟨⟩
      rw [size_grow]
      exact Nat.lt_succ_self _
    · intro later hlater hext relativeUri params
      refine ⟨later, ?_, rfl, rfl, fun _ => rfl⟩
      rw [Draft.advance, advance_singleton]
      exact step_of_childAlong?_eq_some hlater hslash _ _ (hext.childAlong? hgrown)
  · refine ⟨_, _, hstep, hwf, .refl _, by simp, fun _ => ⟨warning, rfl⟩, by simp, ?_⟩
    intro later hlater hext relativeUri params
    obtain ⟨warning', hagain⟩ := step_of_childAlong?_eq_none format hlater
      (hext.lt_size hn) hslash relativeUri params
      fun latest hlatest => hrefused.childAlong?_eq_none (Extends.trans hext hlatest)
    refine ⟨later.warn warning', ?_, rfl, rfl, by simp⟩
    rw [Draft.advance, advance_singleton, hagain]

/-- Segments that have led nowhere lead nowhere with others after them. -/
theorem Repeatable.append_of_none (h : Repeatable format first n draft went none)
    (second : List String) : Repeatable format (first ++ second) n draft went none where
  wellFormed := h.wellFormed
  extends_tree := h.extends_tree
  lt_size := h.lt_size
  warned := h.warned
  quiet := h.quiet
  again later hlater hext relativeUri params := by
    obtain ⟨again, hagain, htree, hids, hsame⟩ := h.again later hlater hext relativeUri params
    refine ⟨again, ?_, htree, hids, hsame⟩
    rw [Draft.advance] at hagain ⊢
    rw [advance_append, hagain]

/-- Segments can be gone along after others. -/
theorem Repeatable.append {second : List String} {middle : Draft} {last : Nat}
    (h : Repeatable format first n draft middle (some last))
    (h' : Repeatable format second last middle went next) :
    Repeatable format (first ++ second) n draft went next where
  wellFormed := h'.wellFormed
  extends_tree := h.extends_tree.trans h'.extends_tree
  lt_size := h'.lt_size
  warned hnone := by
    obtain ⟨warning, hwarning⟩ := h'.warned hnone
    exact ⟨warning, by rw [hwarning, h.quiet (by simp)]⟩
  quiet hsome := (h'.quiet hsome).trans (h.quiet (by simp))
  again later hlater hext relativeUri params := by
    obtain ⟨_, hagain, -, -, hsame⟩ :=
      h.again later hlater (h'.extends_tree.trans hext) relativeUri params
    obtain rfl := hsame (by simp)
    obtain ⟨again, hagain', hrest⟩ := h'.again _ hlater hext relativeUri params
    refine ⟨again, ?_, hrest⟩
    rw [Draft.advance] at hagain hagain' ⊢
    rw [advance_append, hagain]
    exact hagain'

/-- Whatever segments have led to can be gone to again. -/
theorem repeatable_advance (hwf : draft.tree.WellFormed) (hn : n < draft.tree.nodes.size)
    (format : Format) (relativeUri : String) (params : OrderedMap Parameter)
    (segments : List String) :
    ∃ went next, draft.advance format relativeUri params segments n = (went, next) ∧
      Repeatable format segments n draft went next := by
  induction segments generalizing draft n with
  | nil =>
    refine ⟨draft, some n, rfl, hwf, .refl _, ?_, by simp, fun _ => rfl, ?_⟩
    · rintro last ⟨⟩
      exact hn
    · exact fun later _ _ _ _ => ⟨later, rfl, rfl, rfl, fun _ => rfl⟩
  | cons segment rest ih =>
    obtain ⟨middle, reached, hstep, hled⟩ :=
      repeatable_step hwf hn format relativeUri params segment
    cases reached with
    | none =>
      refine ⟨middle, none, ?_, hled.append_of_none rest⟩
      rw [Draft.advance, advance, hstep]
    | some last =>
      obtain ⟨went, next, hrest, hledRest⟩ := ih hled.wellFormed (hled.lt_size last rfl)
      refine ⟨went, next, ?_, hled.append hledRest⟩
      rw [Draft.advance, advance, hstep]
      exact hrest

/-! ## Placing what is nested -/

/-- Placing a declaration at the root keeps a tree well formed and extends it. -/
theorem extends_place_root (format : Format) (decl : ResourceDecl) (draft : Draft)
    (hwf : draft.tree.WellFormed) : draft.tree.Extends (place format decl root draft).tree ∧
      (place format decl root draft).tree.WellFormed := by
  have hdevelops : Develops format [decl] ⟨draft, []⟩ (record format decl root ⟨draft, []⟩) :=
    (record_settles decl [] root ⟨draft, []⟩ hwf (.top (List.mem_singleton_self decl)) .root).1
  have hplace := draft_record format decl root ⟨draft, []⟩
  have hext := hdevelops.extends.tree
  have hwf' := hdevelops.wellFormed hwf
  rw [Journal.tree, hplace] at hwf'
  rw [Journal.tree, Journal.tree, hplace] at hext
  exact ⟨hext, hwf'⟩

/-- A walk along a longer relative URI goes along the outer segments first. -/
theorem place_under (format : Format) {outer : String}
    (houter : Uri.mediaTypePlaceholder ∉ Uri.segments outer) (inner : ResourceDecl)
    (hinner : Uri.IsSeparate inner.relativeUri.toList) (n : Nat) (draft : Draft) :
    place format (inner.under outer) n draft =
      goOn (fun n draft =>
          walk (fun params n segment draft =>
              draft.step format (outer ++ inner.relativeUri) params n segment)
            (fun n draft => placeAll format inner.resources n (draft.populate format n inner.alone))
            (Uri.segments inner.relativeUri) (Parameter.ofTable inner.uriParameters) n draft)
        (draft.advance format (outer ++ inner.relativeUri)
          (Parameter.ofTable inner.uriParameters) (Uri.segments outer) n) := by
  rw [place_eq]
  show walk _ _ (Uri.segments (outer ++ inner.relativeUri)) _ n draft = _
  rw [Uri.segments_append houter hinner, walk_append houter]
  rfl

/-- If the outer segments led to a node, placing a declaration under them from the root agrees with
placing it from that node. -/
theorem place_under_agrees (hW : KeepsPace W) {outer : String} {last : Nat}
    (houter : Uri.mediaTypePlaceholder ∉ Uri.segments outer) {inner : ResourceDecl}
    (hinner : Uri.IsSeparate inner.relativeUri.toList)
    (hled : Repeatable format (Uri.segments outer) root draft went (some last))
    {nested flat : Draft} (hflat : flat.tree.WellFormed) (hext : went.tree.Extends flat.tree)
    (h : Draft.Agrees W nested flat) :
    Draft.Agrees W (place format inner last nested)
      (place format (inner.under outer) root flat) := by
  obtain ⟨again, hagain, -, -, hsame⟩ := hled.again flat hflat hext
    (outer ++ inner.relativeUri) (Parameter.ofTable inner.uriParameters)
  obtain rfl := hsame (by simp)
  rw [place_under format houter inner hinner, hagain, place_eq format inner]
  refine walk_related (R := Draft.Agrees W) ?_ ?_ _ _ _ _ _ h
  · exact fun params n segment draft draft' h => h.step hW _
  · exact fun n draft draft' h =>
      Draft.Agrees.placeAll hW format inner.resources n _ _ (h.populate format n _)

/-- If the outer segments led nowhere, placing a declaration under them does nothing but warn. -/
theorem place_under_refused {outer : String}
    (houter : Uri.mediaTypePlaceholder ∉ Uri.segments outer) {inner : ResourceDecl}
    (hinner : Uri.IsSeparate inner.relativeUri.toList)
    (hled : Repeatable format (Uri.segments outer) root draft went none)
    {flat : Draft} (hflat : flat.tree.WellFormed) (hext : went.tree.Extends flat.tree) :
    (place format (inner.under outer) root flat).tree = flat.tree ∧
      (place format (inner.under outer) root flat).ids = flat.ids := by
  obtain ⟨again, hagain, htree, hids, -⟩ := hled.again flat hflat hext
    (outer ++ inner.relativeUri) (Parameter.ofTable inner.uriParameters)
  rw [place_under format houter inner hinner, hagain]
  exact ⟨htree, hids⟩

/-- If the outer segments led to a node, all that is nested there can be placed from the root. -/
theorem placeAll_under_agrees (hW : KeepsPace W) {outer : String} {last : Nat}
    (houter : Uri.mediaTypePlaceholder ∉ Uri.segments outer) {inners : List ResourceDecl}
    (hinners : ∀ inner ∈ inners, Uri.IsSeparate inner.relativeUri.toList)
    (hled : Repeatable format (Uri.segments outer) root draft went (some last))
    {nested flat : Draft} (hflat : flat.tree.WellFormed) (hext : went.tree.Extends flat.tree)
    (h : Draft.Agrees W nested flat) :
    Draft.Agrees W (placeAll format inners last nested)
      (placeAll format (inners.map (ResourceDecl.under outer)) root flat) := by
  induction inners generalizing nested flat with
  | nil => simpa only [placeAll, List.map_nil] using h
  | cons inner rest ih =>
    have hfirst := place_under_agrees hW houter (hinners inner List.mem_cons_self) hled hflat hext h
    obtain ⟨hgrown, hflat'⟩ := extends_place_root format (inner.under outer) flat hflat
    rw [placeAll, List.map_cons, placeAll]
    exact ih (fun inner hinner => hinners inner (List.mem_cons_of_mem _ hinner)) hflat'
      (hext.trans hgrown) hfirst

/-- If the outer segments led nowhere, placing declarations under them does nothing but warn. -/
theorem placeAll_under_refused {outer : String}
    (houter : Uri.mediaTypePlaceholder ∉ Uri.segments outer) {inners : List ResourceDecl}
    (hinners : ∀ inner ∈ inners, Uri.IsSeparate inner.relativeUri.toList)
    (hled : Repeatable format (Uri.segments outer) root draft went none)
    {flat : Draft} (hflat : flat.tree.WellFormed) (hext : went.tree.Extends flat.tree) :
    (placeAll format (inners.map (ResourceDecl.under outer)) root flat).tree = flat.tree ∧
      (placeAll format (inners.map (ResourceDecl.under outer)) root flat).ids = flat.ids := by
  induction inners generalizing flat with
  | nil => simp [placeAll]
  | cons inner rest ih =>
    obtain ⟨htree, hids⟩ :=
      place_under_refused houter (hinners inner List.mem_cons_self) hled hflat hext
    obtain ⟨htree', hids'⟩ := ih (fun inner hinner => hinners inner (List.mem_cons_of_mem _ hinner))
      (htree ▸ hflat) (htree ▸ hext)
    rw [List.map_cons, placeAll]
    exact ⟨htree'.trans htree, hids'.trans hids⟩

/-- A declaration that does not fan out is placed where its segments lead. -/
theorem place_eq_goOn (format : Format) (decl : ResourceDecl)
    (hplain : Uri.mediaTypePlaceholder ∉ Uri.segments decl.relativeUri) (n : Nat) (draft : Draft) :
    place format decl n draft =
      goOn (fun n draft => placeAll format decl.resources n (draft.populate format n decl.alone))
        (draft.advance format decl.relativeUri (Parameter.ofTable decl.uriParameters)
          (Uri.segments decl.relativeUri) n) := by
  rw [place_eq, ← List.append_nil (Uri.segments decl.relativeUri), walk_append hplain,
    List.append_nil]
  rfl

/-- Placing a declaration that nests others agrees with placing the flat list, whatever the
warnings, or with regard to them if the declaration alone gives none. -/
theorem place_agrees_flattened (hW : KeepsPace W) (hrefl : ∀ ws, W ws ws)
    (hplain : Uri.mediaTypePlaceholder ∉ Uri.segments decl.relativeUri)
    (hinners : ∀ inner ∈ decl.resources, Uri.IsSeparate inner.relativeUri.toList)
    (hwf : draft.tree.WellFormed)
    (hcase : (∀ ws ws', W ws ws') ∨
      (place format decl.alone root draft).warnings = draft.warnings) :
    Draft.Agrees W (place format decl root draft)
      (placeAll format decl.flattened root draft) := by
  obtain ⟨went, next, hadvance, hled⟩ := repeatable_advance (n := root) hwf hwf.size_pos format
    decl.relativeUri (Parameter.ofTable decl.uriParameters) (Uri.segments decl.relativeUri)
  have halone : place format decl.alone root draft =
      goOn (fun n draft => placeAll format [] n (draft.populate format n decl.alone))
        (went, next) := by
    rw [place_eq_goOn format decl.alone hplain, ← hadvance]
    rfl
  rw [ResourceDecl.flattened, placeAll, halone, place_eq_goOn format decl hplain, hadvance]
  cases next with
  | none =>
    rcases hcase with hall | hquiet
    · obtain ⟨htree, hids⟩ :=
        placeAll_under_refused hplain hinners hled hled.wellFormed (.refl _)
      exact ⟨htree.symm, hids.symm, hall _ _⟩
    · obtain ⟨warning, hwarned⟩ := hled.warned rfl
      rw [halone] at hquiet
      exact absurd (hwarned.symm.trans hquiet) (by simp)
  | some last =>
    simp only [goOn, placeAll]
    exact placeAll_under_agrees hW hplain hinners hled
      (hled.wellFormed.populate format last decl.alone) (extends_populate went format last _)
      ⟨rfl, rfl, hrefl _⟩

/-! ## Whole builds -/

/-- Replacing a declaration by the flat list in a build leads to drafts that agree. -/
theorem build_agrees_flattened (hW : KeepsPace W) (hrefl : ∀ ws, W ws ws)
    (before after : List ResourceDecl) (ids : Identifiers)
    (hplain : Uri.mediaTypePlaceholder ∉ Uri.segments decl.relativeUri)
    (hinners : ∀ inner ∈ decl.resources, Uri.IsSeparate inner.relativeUri.toList)
    (hcase : (∀ ws ws', W ws ws') ∨ (build format (before ++ [decl.alone]) ids).warnings =
      (build format before ids).warnings) :
    Draft.Agrees W (build format (before ++ decl :: after) ids)
      (build format (before ++ decl.flattened ++ after) ids) := by
  rw [build_append, build_append, build_append, placeAll]
  rw [build_append, placeAll, placeAll] at hcase
  exact Draft.Agrees.placeAll hW format after root _ _
    (place_agrees_flattened hW hrefl hplain hinners (build_wellFormed format before ids) hcase)

/-- A declaration whose relative URI has no placeholder of a media type, and which nests only
declarations that are separate from it, can be replaced by the flat list of these without a change
to the tree. If the declaration alone gives no warning, the same warnings are given, but for the
relative URIs in them. -/
theorem build_flattened (format : Format) (before after : List ResourceDecl) (decl : ResourceDecl)
    (ids : Identifiers) (hplain : Uri.mediaTypePlaceholder ∉ Uri.segments decl.relativeUri)
    (hinners : ∀ inner ∈ decl.resources, Uri.IsSeparate inner.relativeUri.toList) :
    (build format (before ++ decl.flattened ++ after) ids).tree =
        (build format (before ++ decl :: after) ids).tree ∧
      ((build format (before ++ [decl.alone]) ids).warnings = (build format before ids).warnings →
        (build format (before ++ decl.flattened ++ after) ids).warnings.map Warning.withoutUri =
          (build format (before ++ decl :: after) ids).warnings.map Warning.withoutUri) := by
  constructor
  · exact (build_agrees_flattened (W := fun _ _ => True) (fun _ _ => trivial) (fun _ => trivial)
      before after ids hplain hinners (Or.inl fun _ _ => trivial)).tree_eq.symm
  · intro hquiet
    let W (ws ws' : List Warning) : Prop :=
      ws.map Warning.withoutUri = ws'.map Warning.withoutUri
    have hW : KeepsPace W := by
      intro ws ws' w w' (hws : ws.map _ = ws'.map _) hw
      show (ws ++ [w]).map _ = (ws' ++ [w']).map _
      rw [List.map_append, List.map_append, hws, List.map_singleton, List.map_singleton, hw]
    exact (build_agrees_flattened (W := W) hW (fun _ => rfl) before after ids hplain hinners
      (Or.inr hquiet)).warnings.symm

/-- A list of users can be placed before what is nested in it, between other declarations. -/
theorem usersDecl_flattened :
    Uri.mediaTypePlaceholder ∉ Uri.segments usersDecl.relativeUri ∧
      (∀ inner ∈ usersDecl.resources, Uri.IsSeparate inner.relativeUri.toList) ∧
      (build plainFormat ([removalDecl] ++ [usersDecl.alone]) .fresh).warnings =
        (build plainFormat [removalDecl] .fresh).warnings ∧
      (build plainFormat ([removalDecl] ++ usersDecl.flattened ++ [exportsDecl]) .fresh).tree =
        (build plainFormat ([removalDecl] ++ usersDecl :: [exportsDecl]) .fresh).tree ∧
      (build plainFormat ([removalDecl] ++ usersDecl.flattened ++ [exportsDecl])
          .fresh).warnings.map Warning.withoutUri =
        (build plainFormat ([removalDecl] ++ usersDecl :: [exportsDecl]) .fresh).warnings.map
          Warning.withoutUri := by
  have hplain : Uri.mediaTypePlaceholder ∉ Uri.segments usersDecl.relativeUri := by decide
  have hinners : ∀ inner ∈ usersDecl.resources, Uri.IsSeparate inner.relativeUri.toList := by
    intro inner hinner
    rw [List.mem_singleton.mp hinner]
    exact Or.inr (Or.inl rfl)
  have hquiet : (build plainFormat ([removalDecl] ++ [usersDecl.alone]) .fresh).warnings =
      (build plainFormat [removalDecl] .fresh).warnings := by decide +kernel
  obtain ⟨htree, hwarnings⟩ :=
    build_flattened plainFormat [removalDecl] [exportsDecl] usersDecl .fresh hplain hinners
  exact ⟨hplain, hinners, hquiet, htree, hwarnings hquiet⟩

end Tree

end ClientGen
