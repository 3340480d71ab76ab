import ClientGen.Proofs.Tree.Nesting
import ClientGen.Proofs.Tree.Subtree

/-!
# Media types at the end of a URI

Where a relative URI ends with the placeholder of a media type and media types are listed, the
declaration is handled once for each of them and once for all others. Every time its segment is
unmappable, or it collides with another segment, or there is a child for it, old or new, that
receives the declaration. What is placed in between stays below these children, so the node gets no
other children meanwhile, and equal segments have one child.
-/

namespace ClientGen

/-- The parameters of a declaration, without the list of media types. -/
def ResourceDecl.freeParameters (decl : ResourceDecl) : OrderedMap Parameter :=
  (Tree.takeMediaTypes (Parameter.ofTable decl.uriParameters)).2

/-- The segments that the placeholder at the end of a URI stands for: one for each media type, and
one for all others. -/
def ResourceDecl.mediaTypeSegments (decl : ResourceDecl) : List String :=
  decl.mediaTypes.map Tree.mediaTypeSegment ++ [Tree.otherMediaTypes]

namespace Tree

variable {format : Format} {decl : ResourceDecl} {draft before middle after later : Draft}
  {parent child start : Nat} {segment key : String}

/-! ## One segment -/

/-- A child receives a declaration: its methods, of several with one key the last, its description,
and everything that it nests, which is placed from there. -/
structure Receives (format : Format) (decl : ResourceDecl) (child : Nat) (before after : Draft) :
    Prop where
  methodKeys_eq : (before.populate format child decl).tree.methodKeys child =
    (before.tree.methodKeys child ++
      decl.methods.map fun method => format.writeName method.method).eraseDups
  record : ∀ {key : String} {declared : MethodDecl},
    (decl.methods.filter fun method => format.writeName method.method = key).getLast? =
      some declared → ∃ m id, (before.populate format child decl).tree.Refers child key m ∧
        (before.populate format child decl).tree.methods[m]? =
          some (methodOf format child id declared)
  description_eq : (before.populate format child decl).tree.descriptionAt child =
    (decl.description.map Text.trim).getD (before.tree.descriptionAt child)
  nested : after = placeAll format decl.resources child (before.populate format child decl)

/-- What becomes of a segment at a node. -/
inductive Fate where
  /-- It has no key. -/
  | unmappable
  /-- Another segment has its key. -/
  | collision (key existing : String)
  /-- There is a child for it. -/
  | found (child : Nat)
  /-- A child is added for it. -/
  | created (key : String) (child : Nat)

variable {fate fate' : Fate}

/-- The child that receives the declaration. -/
def Fate.child? : Fate → Option Nat
  | .unmappable | .collision _ _ => none
  | .found child | .created _ child => some child

/-- The new child with its key. -/
def Fate.added? : Fate → Option (String × Nat)
  | .created key child => some (key, child)
  | _ => none

/-- A declaration is handled as a child of a node for a segment: it is refused with a warning, or
the child receives it. -/
inductive Handled (format : Format) (decl : ResourceDecl) (parent : Nat) (segment : String)
    (before : Draft) : Fate → Draft → Prop where
  | unmappable : Uri.segmentKey? format segment = none →
    Handled format decl parent segment before .unmappable
      (before.warn (.unmappableSegment decl.relativeUri segment))
  | collision {key existing : String} {child : Nat} {node : Node} :
    Uri.segmentKey? format segment = some key → before.tree.child? parent key = some child →
    before.tree.nodes[child]? = some node → node.segment = existing → existing ≠ segment →
    Handled format decl parent segment before (.collision key existing)
      (before.warn (.keyCollision key existing segment))
  | found {child : Nat} {after : Draft} :
    before.tree.childAlong? format parent segment = some child →
    Receives format decl child before after →
    Handled format decl parent segment before (.found child) after
  | created {key : String} {after : Draft} :
    Uri.segmentKey? format segment = some key → before.tree.child? parent key = none →
    Receives format decl before.tree.nodes.size
      (before.grow format decl.freeParameters parent key segment).1 after →
    Handled format decl parent segment before (.created key before.tree.nodes.size) after

/-- Goes one step along a segment and lands there. -/
def Draft.handle (draft : Draft) (format : Format) (decl : ResourceDecl) (parent : Nat)
    (segment : String) : Draft :=
  goOn (fun n draft => placeAll format decl.resources n (draft.populate format n decl.alone))
    (draft.step format decl.relativeUri decl.freeParameters parent segment)

/-- A child that is populated receives the declaration. -/
theorem receives_populate (format : Format) (decl : ResourceDecl)
    (hchild : child < draft.tree.nodes.size) : Receives format decl child draft
      (placeAll format decl.resources child (draft.populate format child decl.alone)) where
  methodKeys_eq := by rw [methodKeys_populate hchild, if_pos rfl]
  record := exists_refers_populate hchild decl
  description_eq := by rw [descriptionAt_populate hchild, if_pos rfl]
  nested := rfl

/-- A child receives a declaration in one way only. -/
theorem Receives.unique (h : Receives format decl child before after)
    (h' : Receives format decl child before later) : after = later :=
  h.nested.trans h'.nested.symm

/-- Whatever the segment, the declaration is handled. -/
theorem exists_handled (format : Format) (decl : ResourceDecl) (parent : Nat)
    (hwf : draft.tree.WellFormed) (hslash : segment ≠ "/") :
    ∃ fate, Handled format decl parent segment draft fate
      (draft.handle format decl parent segment) := by
  rcases step_cases format hwf decl.relativeUri decl.freeParameters parent segment with
    ⟨heq, -⟩ | ⟨-, child, hchild, hstep⟩ | ⟨-, key, hkey, hfree, hstep⟩ |
    ⟨-, warning, hrefused, hstep⟩
  · exact absurd heq hslash
  · obtain ⟨_, _, -, hin, -⟩ := childAlong?_eq_some_iff.mp hchild
    rw [Draft.handle, hstep]
    exact ⟨_, .found hchild (receives_populate format decl (hwf.lt_child hin).2)⟩
  · rw [Draft.handle, hstep]
    refine ⟨_, .created hkey hfree (receives_populate format decl ?_)⟩
    rw [size_grow]
    exact Nat.lt_succ_self _
  · rw [Draft.handle, hstep]
    cases hrefused with
    | unmappable hkey => exact ⟨_, .unmappable hkey⟩
    | collision hkey hchild hnode hother => exact ⟨_, .collision hkey hchild hnode rfl hother⟩

/-- Only one fate is possible: the key of the segment and the child under it tell them apart. -/
theorem Handled.unique (h : Handled format decl parent segment before fate after)
    (h' : Handled format decl parent segment before fate' later) :
    fate = fate' ∧ after = later := by
  cases h <;> cases h' <;> grind [childAlong?_eq_some_iff, Receives.unique]

/-- What a child receives stays below it. -/
theorem Receives.grownBelow (h : Receives format decl child before after)
    (hbelow : Draft.GrownBelow parent draft before child) :
    Draft.GrownBelow parent draft after child := by
  rw [h.nested]
  refine Draft.GrownBelow.placeAll ?_ format decl.resources
  have hext := extends_populate before format child decl
  refine ⟨hbelow.wellFormed.populate format child decl, hbelow.extends_tree.trans hext,
    fun j hj => ?_, hbelow.lt, hext.lt_size hbelow.lt_size⟩
  rw [childrenAt_populate, hbelow.childrenAt_eq j hj]

/-- A new child comes after its parent. -/
theorem grownBelow_grow (format : Format) (params : OrderedMap Parameter) (segment : String)
    (hwf : before.tree.WellFormed) (hparent : parent < before.tree.nodes.size)
    (hfree : before.tree.child? parent key = none) :
    let grown := (before.grow format params parent key segment).1
    Draft.GrownBelow parent grown grown before.tree.nodes.size :=
  ⟨hwf.attach hparent hfree rfl, .refl _, fun _ _ => rfl, hparent,
    by rw [size_grow]; exact Nat.lt_succ_self _⟩

/-- A draft continues another one, in which a node has some more children. -/
structure Adds (parent : Nat) (added : List (String × Nat)) (before after : Draft) : Prop where
  wellFormed : after.tree.WellFormed
  extends_tree : before.tree.Extends after.tree
  childrenAt_eq : after.tree.childrenAt parent = before.tree.childrenAt parent ++ added

/-- Children that are added in two turns are added one after the other. -/
theorem Adds.append {first second : List (String × Nat)} (h : Adds parent first before middle)
    (h' : Adds parent second middle after) : Adds parent (first ++ second) before after where
  wellFormed := h'.wellFormed
  extends_tree := h.extends_tree.trans h'.extends_tree
  childrenAt_eq := by rw [h'.childrenAt_eq, h.childrenAt_eq, List.append_assoc]

/-- The node gets the new child at most, and from then on the segment leads to the child that
received the declaration, or nowhere. -/
theorem Handled.spec (h : Handled format decl parent segment before fate after)
    (hwf : before.tree.WellFormed) (hparent : parent < before.tree.nodes.size) :
    Adds parent fate.added?.toList before after ∧ ∀ later : Tree, after.tree.Extends later →
      later.childAlong? format parent segment = fate.child? := by
  cases h with
  | unmappable hkey =>
    refine ⟨⟨hwf, .refl _, by simp [Draft.warn, Fate.added?]⟩, fun later _ => ?_⟩
    exact childAlong?_of_segmentKey?_eq_none hkey
  | collision hkey hchild hnode hsegment hother =>
    refine ⟨⟨hwf, .refl _, by simp [Draft.warn, Fate.added?]⟩, fun later hext => ?_⟩
    exact hext.childAlong?_eq_none hkey hchild hnode (hsegment ▸ hother)
  | @found child _ hchild hreceives =>
    obtain ⟨_, _, -, hin, -⟩ := childAlong?_eq_some_iff.mp hchild
    obtain ⟨hlt, hsize⟩ := hwf.lt_child hin
    have hbelow : Draft.GrownBelow parent before _ child :=
      hreceives.grownBelow ⟨hwf, .refl _, fun _ _ => rfl, hlt, hsize⟩
    refine ⟨⟨hbelow.wellFormed, hbelow.extends_tree, ?_⟩, fun later hext => ?_⟩
    · rw [hbelow.childrenAt_eq parent (Nat.le_refl _)]
      simp [Fate.added?]
    · exact (hbelow.extends_tree.trans hext).childAlong? hchild
  | @created key _ hkey hfree hreceives =>
    have hgrown : before.tree.Extends
        (before.grow format decl.freeParameters parent key segment).1.tree :=
      extends_grow hparent hfree
    have hbelow := hreceives.grownBelow
      (grownBelow_grow format decl.freeParameters segment hwf hparent hfree)
    refine ⟨⟨hbelow.wellFormed, hgrown.trans hbelow.extends_tree, ?_⟩, fun later hext => ?_⟩
    · rw [hbelow.childrenAt_eq parent (Nat.le_refl _), childrenAt_grow hparent hfree, if_pos rfl]
      rfl
    · exact (hbelow.extends_tree.trans hext).childAlong?
        (childAlong?_grow decl.freeParameters hparent hkey hfree)

/-- A child that is added has the parameters of the declaration for its placeholders, without the
list of media types. -/
theorem Handled.uriParameters_created
    (h : Handled format decl parent segment before (.created key child) after)
    (hwf : before.tree.WellFormed) (hparent : parent < before.tree.nodes.size) :
    ∃ node, after.tree.nodes[child]? = some node ∧ node.segment = segment ∧ node.uriParameters =
      (Uri.placeholderNames segment).map (uriParameter decl.freeParameters) := by
  cases h with
  | created hkey hfree hreceives =>
    have hbelow := hreceives.grownBelow
      (grownBelow_grow format decl.freeParameters segment hwf hparent hfree)
    obtain ⟨node, hnode, hext⟩ := hbelow.extends_tree.nodes (getElem?_size_grow hparent)
    exact ⟨node, hnode, hext.segment_eq, hext.uriParameters_eq⟩

/-! ## One segment after the other -/

/-- A declaration is handled for segments, one after the other, each with its fate. -/
inductive FansOut (format : Format) (decl : ResourceDecl) (parent : Nat) :
    List (String × Fate) → Draft → Draft → Prop where
  | nil (draft : Draft) : FansOut format decl parent [] draft draft
  | cons {segment : String} {fate : Fate} {rest : List (String × Fate)}
    {before middle after : Draft} : Handled format decl parent segment before fate middle →
    FansOut format decl parent rest middle after →
    FansOut format decl parent ((segment, fate) :: rest) before after

/-- Every segment has a fate when a declaration is handled for all of them. -/
theorem exists_fansOut (format : Format) (decl : ResourceDecl) (hwf : before.tree.WellFormed)
    (hparent : parent < before.tree.nodes.size) {segments : List String} (hslash : "/" ∉ segments) :
    ∃ trace : List (String × Fate), trace.map Prod.fst = segments ∧
      FansOut format decl parent trace before
        (segments.foldl (fun draft segment => draft.handle format decl parent segment) before) := by
  induction segments generalizing before with
  | nil => exact ⟨[], rfl, .nil before⟩
  | cons segment rest ih =>
    obtain ⟨hsegment, hrest⟩ := List.ne_and_not_mem_of_not_mem_cons hslash
    obtain ⟨fate, hfate⟩ := exists_handled format decl parent hwf (Ne.symm hsegment)
    obtain ⟨hadds, -⟩ := hfate.spec hwf hparent
    obtain ⟨trace, hsegments, htrace⟩ :=
      ih hadds.wellFormed (hadds.extends_tree.lt_size hparent) hrest
    exact ⟨(segment, fate) :: trace, by rw [List.map_cons, hsegments], .cons hfate htrace⟩

/-- The segments have one fate each. -/
theorem FansOut.unique {trace other : List (String × Fate)}
    (h : FansOut format decl parent trace before after)
    (h' : FansOut format decl parent other before later)
    (hsegments : other.map Prod.fst = trace.map Prod.fst) : other = trace ∧ later = after := by
  induction h generalizing other with
  | nil =>
    obtain rfl := List.map_eq_nil_iff.mp hsegments
    cases h'
    exact ⟨rfl, rfl⟩
  | cons hfate _ ih =>
    cases h' with
    | nil => cases hsegments
    | cons hfate' hrest =>
      obtain ⟨hsegment, hothers⟩ := List.cons.inj hsegments
      obtain rfl := hsegment
      obtain ⟨rfl, rfl⟩ := hfate'.unique hfate
      obtain ⟨rfl, rfl⟩ := ih hrest hothers
      exact ⟨rfl, rfl⟩

/-- The node gets the new children in the order of their segments, and every segment leads to the
child that received the declaration, or nowhere. -/
theorem FansOut.spec {trace : List (String × Fate)}
    (h : FansOut format decl parent trace before after) (hwf : before.tree.WellFormed)
    (hparent : parent < before.tree.nodes.size) :
    Adds parent (trace.filterMap fun entry => entry.2.added?) before after ∧
      ∀ entry ∈ trace, ∀ later : Tree, after.tree.Extends later →
        later.childAlong? format parent entry.1 = entry.2.child? := by
  induction h with
  | nil draft => exact ⟨⟨hwf, .refl _, by simp⟩, by simp⟩
  | @cons segment fate rest before middle after hfate _ ih =>
    obtain ⟨hadds, hchild⟩ := hfate.spec hwf hparent
    obtain ⟨haddsRest, hrest⟩ := ih hadds.wellFormed (hadds.extends_tree.lt_size hparent)
    constructor
    · have hall := hadds.append haddsRest
      have hentries : ((segment, fate) :: rest).filterMap (fun entry => entry.2.added?) =
          fate.added?.toList ++ rest.filterMap fun entry => entry.2.added? := by
        rw [List.filterMap_cons]
        cases fate.added? <;> rfl
      rwa [hentries]
    · intro entry hentry later hext
      rcases List.mem_cons.mp hentry with rfl | hentry
      · exact hchild later (haddsRest.extends_tree.trans hext)
      · exact hrest entry hentry later hext

/-- A child that was added still has the parameters of the declaration in the end. -/
theorem FansOut.uriParameters_created {trace : List (String × Fate)}
    (h : FansOut format decl parent trace before after) (hwf : before.tree.WellFormed)
    (hparent : parent < before.tree.nodes.size) (hentry : (segment, .created key child) ∈ trace) :
    ∃ node, after.tree.nodes[child]? = some node ∧ node.segment = segment ∧ node.uriParameters =
      (Uri.placeholderNames segment).map (uriParameter decl.freeParameters) := by
  induction h with
  | nil => cases hentry
  | cons hfate htrace ih =>
    obtain ⟨hadds, -⟩ := hfate.spec hwf hparent
    have hparent' := hadds.extends_tree.lt_size hparent
    rcases List.mem_cons.mp hentry with heq | hentry
    · cases heq
      obtain ⟨node, hnode, hsegment, hparams⟩ := hfate.uriParameters_created hwf hparent
      obtain ⟨hlater, -⟩ := htrace.spec hadds.wellFormed hparent'
      obtain ⟨node', hnode', hext⟩ := hlater.extends_tree.nodes hnode
      exact ⟨node', hnode', hext.segment_eq.trans hsegment, hext.uriParameters_eq.trans hparams⟩
    · exact ih hadds.wellFormed hparent' hentry

/-! ## Placing a declaration -/

/-- The placeholder at the end of a URI fans out if media types are listed. -/
theorem fanOut_placeholder (hlisted : decl.mediaTypes ≠ []) :
    fanOut Uri.mediaTypePlaceholder (Parameter.ofTable decl.uriParameters) =
      (decl.mediaTypes, otherMediaTypes, decl.freeParameters) := by
  have htake : takeMediaTypes (Parameter.ofTable decl.uriParameters) =
      (decl.mediaTypes, decl.freeParameters) :=
    Prod.ext (takeMediaTypes_ofTable decl) rfl
  obtain ⟨first, others, hvalues⟩ := List.exists_cons_of_ne_nil hlisted
  rw [hvalues] at htake ⊢
  rw [fanOut, if_pos rfl, htake]

/-- A declaration whose placeholder at the end of its URI fans out is handled for the segments of
all media types at the node where the others led. -/
theorem place_eq_foldl {pre : List String} (hlisted : decl.mediaTypes ≠ [])
    (hsegments : Uri.segments decl.relativeUri = pre ++ [Uri.mediaTypePlaceholder])
    (hfirst : Uri.mediaTypePlaceholder ∉ pre)
    (hpre : draft.advance format decl.relativeUri (Parameter.ofTable decl.uriParameters) pre start =
      (before, some parent)) :
    place format decl start draft = decl.mediaTypeSegments.foldl
      (fun draft segment => draft.handle format decl parent segment) before := by
  rw [place_eq, hsegments, walk_append hfirst]
  rw [Draft.advance] at hpre
  rw [hpre, goOn, walk, fanOut_placeholder hlisted, ResourceDecl.mediaTypeSegments,
    List.foldl_append, List.foldl_map]
  rfl

/-- No media type is a lone slash. -/
theorem slash_not_mem_mediaTypeSegments (decl : ResourceDecl) : "/" ∉ decl.mediaTypeSegments := by
  rw [ResourceDecl.mediaTypeSegments, List.mem_append, not_or]
  refine ⟨fun hmem => ?_, by decide⟩
  obtain ⟨value, -, heq⟩ := List.mem_map.mp hmem
  have hslash := dropSlashes_mediaTypeSegment value
  rw [heq] at hslash
  exact absurd hslash (by decide)

/-- The parameter for all other media types lists none, and keeps the default. -/
theorem uriParameter_freeParameters {declared : ParameterDecl}
    (hdeclared : decl.uriParameters.get? Uri.mediaTypeParameter = some declared) :
    uriParameter decl.freeParameters Uri.mediaTypeParameter =
      { Parameter.ofDecl Uri.mediaTypeParameter declared with enum := none } := by
  simp only [uriParameter, ResourceDecl.freeParameters, takeMediaTypes,
    OrderedMap.get?_modify_self, Parameter.ofTable, OrderedMap.get?_mapEntries, hdeclared,
    Option.map_some, Option.getD_some]

/-- A declaration is placed at a node where media types fan out: it is handled for their segments,
each of which has its fate. The parameter for all other media types has a default. -/
structure MediaTypesPlaced (format : Format) (decl : ResourceDecl) (parent : Nat)
    (default : Option Json) (before after : Draft) (trace : List (String × Fate)) : Prop where
  /-- The media types come in the order in which they are listed, and all others last. -/
  segments_eq : trace.map Prod.fst = decl.mediaTypeSegments
  /-- One after the other has its fate. -/
  fansOut : FansOut format decl parent trace before after
  /-- There are no other fates. -/
  unique : ∀ other later, other.map Prod.fst = decl.mediaTypeSegments →
    FansOut format decl parent other before later → other = trace
  /-- A segment leads to the child that received the declaration, or nowhere. -/
  childAlong?_eq : ∀ entry ∈ trace,
    after.tree.childAlong? format parent entry.1 = entry.2.child?
  /-- The new children are those that were added for segments, in their order. -/
  childrenAt_eq : after.tree.childrenAt parent =
    before.tree.childrenAt parent ++ trace.filterMap fun entry => entry.2.added?
  /-- A child that is added for all other media types has a parameter that lists none. -/
  templated : ∀ key child, (otherMediaTypes, .created key child) ∈ trace → ∃ node param,
    after.tree.nodes[child]? = some node ∧ node.uriParameters = [param] ∧
      param.name = Uri.mediaTypeParameter ∧ param.enum = none ∧ param.default = default

/-- If the placeholder of a media type is the last segment of a URI and no earlier one, if media
types are listed for it, and if the segments before it lead to a node, the declaration is handled
there for each media type in turn and then for all others: it is refused with a warning, or a child
for the segment, which is added if there was none, receives it. -/
theorem place_mediaTypesPlaced {pre : List String} {declared : ParameterDecl} {first : Json}
    {others : List Json} (hwf : draft.tree.WellFormed) (hstart : start < draft.tree.nodes.size)
    (hsegments : Uri.segments decl.relativeUri = pre ++ [Uri.mediaTypePlaceholder])
    (hfirst : Uri.mediaTypePlaceholder ∉ pre)
    (hdeclared : decl.uriParameters.get? Uri.mediaTypeParameter = some declared)
    (hvalues : declared.enum = some (first :: others))
    (hpre : draft.advance format decl.relativeUri (Parameter.ofTable decl.uriParameters) pre start =
      (before, some parent)) :
    decl.mediaTypeSegments = (first :: others).map mediaTypeSegment ++ [otherMediaTypes] ∧
      ∃ trace, MediaTypesPlaced format decl parent (declared.default <|> some first) before
        (place format decl start draft) trace := by
  have hlisted : decl.mediaTypes = first :: others := by
    rw [ResourceDecl.mediaTypes, hdeclared, Option.bind_some, hvalues, Option.getD_some]
  refine ⟨by rw [ResourceDecl.mediaTypeSegments, hlisted], ?_⟩
  obtain ⟨_, _, hadvance, hled⟩ := repeatable_advance hwf hstart format decl.relativeUri
    (Parameter.ofTable decl.uriParameters) pre
  obtain ⟨rfl, rfl⟩ := Prod.mk.inj (hadvance.symm.trans hpre)
  have hparent := hled.lt_size parent rfl
  obtain ⟨trace, htraced, htrace⟩ := exists_fansOut format decl hled.wellFormed hparent
    (slash_not_mem_mediaTypeSegments decl)
  rw [← place_eq_foldl (by simp [hlisted]) hsegments hfirst hpre] at htrace
  obtain ⟨hadds, hchild⟩ := htrace.spec hled.wellFormed hparent
  refine ⟨trace, htraced, htrace, fun other later hother hlater => ?_,
    fun entry hentry => hchild entry hentry _ (.refl _), hadds.childrenAt_eq, ?_⟩
  · exact (htrace.unique hlater (hother.trans htraced.symm)).1
  · intro key child hcreated
    obtain ⟨node, hnode, -, hparams⟩ :=
      htrace.uriParameters_created hled.wellFormed hparent hcreated
    have hnames : Uri.placeholderNames otherMediaTypes = [Uri.mediaTypeParameter] := by
      decide +kernel
    rw [hnames, List.map_singleton, uriParameter_freeParameters hdeclared] at hparams
    refine ⟨node, _, hnode, hparams, rfl, rfl, ?_⟩
    rw [Parameter.ofDecl, hvalues]
    rfl

/-- Files in several formats. Two of them are the same after leading dots, one has the key of
another one, and one has no key. -/
def filesDecl : ResourceDecl where
  relativeUri := "/files\x7bmediaTypeExtension\x7d"
  uriParameters := .ofList [("mediaTypeExtension", {
    enum := some [.text "json", .text "..json", .text "json\x7bx\x7d", .text ""] })]
  methods := [{ method := "get" }]
  resources := [{ relativeUri := "/meta" }]

/-- The node of the files gets a child for the first format, which the second one shares, and one
for all other formats. -/
theorem filesDecl_placed :
    let draft := (fresh plainFormat .fresh).draft
    let before := (draft.advance plainFormat filesDecl.relativeUri
      (Parameter.ofTable filesDecl.uriParameters) ["/files"] root).1
    let after := place plainFormat filesDecl root draft
    filesDecl.mediaTypeSegments =
        [".json", ".json", ".json\x7bx\x7d", ".", ".\x7bmediaTypeExtension\x7d"] ∧
      (∃ trace, MediaTypesPlaced plainFormat filesDecl 1 (some (.text "json")) before after trace) ∧
      after.tree.childrenAt 1 = [("json", 2), ("mediaTypeExtension", 4)] ∧
      after.warnings = [.keyCollision "json" ".json" ".json\x7bx\x7d",
        .unmappableSegment filesDecl.relativeUri "."] := by
  intro draft before after
  have hpre : draft.advance plainFormat filesDecl.relativeUri
      (Parameter.ofTable filesDecl.uriParameters) ["/files"] root = (before, some 1) :=
    Prod.ext rfl (by decide +kernel)
  obtain ⟨hsegments, htrace⟩ := place_mediaTypesPlaced (wellFormed_withRoot _) (by decide)
    (by decide) (by decide) (by rfl) rfl hpre
  exact ⟨hsegments.trans (by decide +kernel), htrace, by decide +kernel, by decide +kernel⟩

end Tree

end ClientGen
