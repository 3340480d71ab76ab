import ClientGen.Proofs.Tree.Run

/-!
# Walks

A walk tries the routes of its declaration one after the other. On each it either lands on the node
at the end, or gives a warning because no such node can ever be there. This is put together from the
steps of the walk, whatever landing on a node does.
-/

namespace ClientGen.Tree

variable {format : Format} {resources : List ResourceDecl} {journal later middle final : Journal}
  {decl : ResourceDecl} {params : OrderedMap Parameter} {n start last : Nat} {segment : String}
  {tail : List String}
  {arrived : Journal → Nat → Prop} {land : Nat → Journal → Journal}

/-- A route breaks off: it comes to a part that leads nowhere. If that part has a key, the key is
taken there. -/
def BreaksOff (tree : Tree) (format : Format) : Nat → List String → Prop
  | _, [] => False
  | n, part :: rest =>
    match tree.childAlong? format n part with
    | some child => BreaksOff tree format child rest
    | none => ∀ key, Uri.segmentKey? format part = some key →
      ∃ child, tree.child? n key = some child

/-- How a route ends: at a node, for which landing there brings something about, or where it breaks
off, for which there is a warning. -/
def Settles (format : Format) (arrived : Journal → Nat → Prop) (start : Nat) (route : List String)
    (final : Journal) : Prop :=
  match final.tree.follow? format start route with
  | some last => arrived final last
  | none => final.warnings ≠ [] ∧ final.tree.BreaksOff format start route

/-- A route breaks off where what is left of it does. -/
theorem BreaksOff.after {tree : Tree} {first rest : List String}
    (hfirst : tree.follow? format n first = some start) (h : tree.BreaksOff format start rest) :
    tree.BreaksOff format n (first ++ rest) := by
  induction first generalizing n with
  | nil =>
    obtain rfl : n = start := Option.some.inj hfirst
    exact h
  | cons part others ih =>
    rw [follow?_cons, Option.bind_eq_some_iff] at hfirst
    obtain ⟨child, hchild, hothers⟩ := hfirst
    rw [List.cons_append, BreaksOff, hchild]
    exact ih hothers

/-- Wherever a route has come to that breaks off, there or later, the key of its next part is
taken. -/
theorem BreaksOff.exists_child? {tree : Tree} {first rest : List String} {part key : String}
    (h : tree.BreaksOff format start (first ++ part :: rest))
    (hfirst : tree.follow? format start first = some n)
    (hkey : Uri.segmentKey? format part = some key) : ∃ child, tree.child? n key = some child := by
  induction first generalizing start with
  | nil =>
    obtain rfl : start = n := Option.some.inj hfirst
    rw [List.nil_append, BreaksOff] at h
    split at h
    next child hchild => exact ⟨child, child?_of_childAlong? hchild hkey⟩
    next => exact h key hkey
  | cons other others ih =>
    rw [follow?_cons, Option.bind_eq_some_iff] at hfirst
    obtain ⟨child, hchild, hothers⟩ := hfirst
    rw [List.cons_append, BreaksOff, hchild] at h
    exact ih h hothers

/-- A part of a build, from one journal to a later one, in which some routes are tried. How they end
does not depend on what happens afterwards. -/
structure Tries (format : Format) (resources : List ResourceDecl) (arrived : Journal → Nat → Prop)
    (start : Nat) (routes : List (List String)) (journal later : Journal) : Prop where
  develops : Develops format resources journal later
  settles : ∀ final, later.Extends final → ∀ route ∈ routes,
    Settles format arrived start route final

/-- Routes can be tried one after the other. -/
theorem Tries.append {first second : List (List String)}
    (h : Tries format resources arrived n first journal middle)
    (h' : Tries format resources arrived n second middle later) :
    Tries format resources arrived n (first ++ second) journal later where
  develops := h.develops.trans h'.develops
  settles final hext route hroute := by
    rcases List.mem_append.mp hroute with hroute | hroute
    · exact h.settles final (h'.develops.extends.trans hext) route hroute
    · exact h'.settles final hext route hroute

/-- No routes are tried by doing nothing. -/
theorem Tries.nil : Tries format resources arrived n [] journal journal where
  develops := .refl
  settles _ _ _ hroute := by cases hroute

/-- Arriving at a node ends the empty route. -/
theorem tries_land (hdevelops : Develops format resources journal later)
    (harrived : ∀ final, later.Extends final → arrived final n) :
    Tries format resources arrived n [[]] journal later where
  develops := hdevelops
  settles final hext route hroute := by
    rw [List.mem_singleton.mp hroute]
    exact harrived final hext

/-- Wherever one of the routes leads later on, one can land there. -/
def CanLand (format : Format) (resources : List ResourceDecl) (arrived : Journal → Nat → Prop)
    (land : Nat → Journal → Journal) (start : Nat) (routes : List (List String))
    (journal : Journal) : Prop :=
  ∀ route ∈ routes, ∀ later last, Develops format resources journal later →
    later.tree.follow? format start route = some last →
    Tries format resources arrived last [[]] later (land last later)

/-- After the first part of the routes, one can land at the end of what is left of them. -/
theorem CanLand.rest {first : List String} {rest : List (List String)}
    (h : CanLand format resources arrived land n (rest.map (first ++ ·)) journal)
    (hdevelops : Develops format resources journal middle)
    (hfirst : middle.tree.follow? format n first = some start) :
    CanLand format resources arrived land start rest middle := by
  intro route hroute later last hlater hlast
  refine h _ (List.mem_map_of_mem hroute) later last (hdevelops.trans hlater) ?_
  rw [follow?_append, hlater.extends.tree.follow? hfirst]
  exact hlast

/-- One can land along fewer routes, and later on. -/
theorem CanLand.mono {more fewer : List (List String)} (hroutes : ∀ route ∈ fewer, route ∈ more)
    (hdevelops : Develops format resources journal later)
    (h : CanLand format resources arrived land n more journal) :
    CanLand format resources arrived land n fewer later :=
  fun route hroute latest last hlatest hlast =>
    h route (hroutes route hroute) latest last (hdevelops.trans hlatest) hlast

/-! ## Steps -/

/-- A step develops the journal. Where it leads, its segment leads; where it leads nowhere, there is
a warning, and every route along the segment breaks off from then on. -/
theorem Journal.step_spec (hwf : journal.tree.WellFormed) (hn : n < journal.tree.nodes.size)
    (hoffers : decl.Offers params)
    (hway : OnWay format resources journal.tree decl n (Uri.dropSlashes [segment] ++ tail)) :
    ∃ went next, journal.step format decl.relativeUri params n segment = (went, next) ∧
      Develops format resources journal went ∧
      match next with
      | some last => went.tree.follow? format n (Uri.dropSlashes [segment]) = some last
      | none => went.warnings ≠ [] ∧ ∀ later : Tree, went.tree.Extends later → ∀ rest,
          later.follow? format n (Uri.dropSlashes [segment] ++ rest) = none ∧
            later.BreaksOff format n (Uri.dropSlashes [segment] ++ rest) := by
  have hpart (h : segment ≠ "/") : Uri.dropSlashes [segment] = [segment] := by
    simp [Uri.dropSlashes, h]
  rcases step_cases format hwf decl.relativeUri params n segment with
    ⟨hslash, hstep⟩ | ⟨hslash, child, hchild, hstep⟩ | ⟨hslash, key, hkey, hfree, hstep⟩ |
    ⟨hslash, warning, hrefused, hstep⟩ <;> rw [Journal.step, hstep]
  · refine ⟨_, _, rfl, .refl, ?_⟩
    simp [Uri.dropSlashes, hslash]
  · refine ⟨_, _, rfl, .refl, ?_⟩
    rw [hpart hslash, follow?_singleton]
    exact hchild
  · rw [hpart hslash] at hway ⊢
    refine ⟨_, _, rfl, .single (.grow journal hn hkey hfree hway hoffers), ?_⟩
    rw [follow?_singleton]
    exact childAlong?_grow params hn hkey hfree
  · rw [hpart hslash] at hway ⊢
    refine ⟨_, _, rfl, .single (.warn journal hway hrefused), ?_, fun later hext rest => ?_⟩
    · simp [Journal.warnings, Draft.warn]
    · have hnone := hrefused.childAlong?_eq_none hext
      rw [List.singleton_append, follow?_cons, BreaksOff, hnone]
      exact ⟨rfl, fun _ => hrefused.exists_child? hext⟩

/-- A step puts its segment in front of the routes that are tried afterwards. -/
theorem tries_goOn {next : Nat → Journal → Journal} {rest : List (List String)}
    (hwf : journal.tree.WellFormed) (hn : n < journal.tree.nodes.size)
    (hoffers : decl.Offers params)
    (hway : OnWay format resources journal.tree decl n (Uri.dropSlashes [segment] ++ tail))
    (hnext : ∀ went last, Develops format resources journal went →
      went.tree.follow? format n (Uri.dropSlashes [segment]) = some last →
      Tries format resources arrived last rest went (next last went)) :
    Tries format resources arrived n (rest.map (Uri.dropSlashes [segment] ++ ·)) journal
      (goOn next (journal.step format decl.relativeUri params n segment)) := by
  obtain ⟨went, reached, hstep, hdevelops, hreached⟩ := journal.step_spec hwf hn hoffers hway
  rw [hstep]
  cases reached with
  | none =>
    obtain ⟨hwarned, hnever⟩ := hreached
    refine ⟨hdevelops, fun final hext route hroute => ?_⟩
    obtain ⟨tail, -, rfl⟩ := List.mem_map.mp hroute
    obtain ⟨hnone, hbreaks⟩ := hnever final.tree hext.tree tail
    rw [Settles, hnone]
    exact ⟨fun hquiet => hwarned (List.prefix_nil.mp (hquiet ▸ hext.warnings)), hbreaks⟩
  | some last =>
    have htries := hnext went last hdevelops hreached
    refine ⟨hdevelops.trans htries.develops, fun final hext route hroute => ?_⟩
    obtain ⟨tail, htail, rfl⟩ := List.mem_map.mp hroute
    have hfollow := (htries.develops.extends.trans hext).tree.follow? hreached
    have hsettles := htries.settles final hext tail htail
    rw [Settles] at hsettles ⊢
    rw [follow?_append, hfollow, Option.bind_some]
    cases hlast : final.tree.follow? format last tail with
    | some _ => rwa [hlast] at hsettles
    | none =>
      rw [hlast] at hsettles
      exact ⟨hsettles.1, hsettles.2.after hfollow⟩

/-! ## Walks -/

/-- Once taken, media types are no longer listed. -/
theorem takeMediaTypes_taken (params : OrderedMap Parameter) :
    (takeMediaTypes (takeMediaTypes params).2).1 = [] := by
  simp only [takeMediaTypes, OrderedMap.get?_modify_self]
  cases params.get? Uri.mediaTypeParameter <;> rfl

/-- A declaration's parameters list its media types. -/
theorem takeMediaTypes_ofTable (decl : ResourceDecl) :
    (takeMediaTypes (Parameter.ofTable decl.uriParameters)).1 = decl.mediaTypes := by
  simp only [takeMediaTypes, Parameter.ofTable, OrderedMap.get?_mapEntries,
    ResourceDecl.mediaTypes]
  cases decl.uriParameters.get? Uri.mediaTypeParameter <;> rfl

/-- Media types can be taken only once. -/
theorem takeMediaTypes_idem (params : OrderedMap Parameter) :
    (takeMediaTypes (takeMediaTypes params).2).2 = (takeMediaTypes params).2 := by
  simp only [takeMediaTypes, OrderedMap.modify_modify]
  rfl

/-- A walk goes on with parameters of its declaration. -/
theorem offers_fanOut (h : decl.Offers params) (segment : String) :
    decl.Offers (fanOut segment params).2.2 := by
  by_cases hsegment : segment = Uri.mediaTypePlaceholder
  · have hparams : (Tree.fanOut segment params).2.2 = (takeMediaTypes params).2 := by
      rw [Tree.fanOut, if_pos hsegment]
      split <;> simp_all
    rw [hparams]
    rcases h with rfl | rfl
    · exact Or.inr rfl
    · exact Or.inr (takeMediaTypes_idem _)
  · rwa [Tree.fanOut, if_neg hsegment]

/-- A segment fans out if it is the placeholder of a media type and media types are listed; then
none are listed any more. -/
theorem fanOut_cases (segment : String) (params : OrderedMap Parameter) :
    (segment = Uri.mediaTypePlaceholder ∧ (takeMediaTypes params).1.isEmpty = false ∧
      ∃ params', (takeMediaTypes params').1 = [] ∧
        fanOut segment params = ((takeMediaTypes params).1, otherMediaTypes, params')) ∨
    (¬(segment = Uri.mediaTypePlaceholder ∧ (takeMediaTypes params).1.isEmpty = false) ∧
      ∃ params', (takeMediaTypes params').1 = (takeMediaTypes params).1 ∧
        fanOut segment params = ([], segment, params')) := by
  by_cases hsegment : segment = Uri.mediaTypePlaceholder
  · have htaken := takeMediaTypes_taken params
    rw [fanOut, if_pos hsegment]
    cases htake : takeMediaTypes params with
    | mk values params' =>
      rw [htake] at htaken
      cases values with
      | nil => exact Or.inr ⟨by simp, params', htaken, rfl⟩
      | cons value rest => exact Or.inl ⟨hsegment, rfl, params', htaken, rfl⟩
  · exact Or.inr ⟨fun h => hsegment h.1, params, rfl, by rw [fanOut, if_neg hsegment]⟩

/-- The segment of a media type is no lone slash. -/
theorem dropSlashes_mediaTypeSegment (value : Json) :
    Uri.dropSlashes [mediaTypeSegment value] = [mediaTypeSegment value] := by
  have hslash : mediaTypeSegment value ≠ "/" := by
    intro h
    have := congrArg String.toList h
    simp [mediaTypeSegment] at this
  simp [Uri.dropSlashes, hslash]

/-- The walk over media types tries the route of each. -/
theorem tries_fan (hwf : journal.tree.WellFormed) (hn : n < journal.tree.nodes.size)
    (hoffers : decl.Offers params) (values : List Json)
    (hway : ∀ value ∈ values, OnWay format resources journal.tree decl n [mediaTypeSegment value])
    (hland : CanLand format resources arrived land n
      (values.map fun value => [mediaTypeSegment value]) journal) :
    Tries format resources arrived n (values.map fun value => [mediaTypeSegment value]) journal
      (values.foldl (fun journal value => goOn land
        (journal.step format decl.relativeUri params n (mediaTypeSegment value))) journal) := by
  induction values generalizing journal with
  | nil => exact .nil
  | cons value rest ih =>
    have hfirst : Tries format resources arrived n
        ([[]].map (Uri.dropSlashes [mediaTypeSegment value] ++ ·)) journal
        (goOn land (journal.step format decl.relativeUri params n (mediaTypeSegment value))) := by
      have hnext : OnWay format resources journal.tree decl n
          (Uri.dropSlashes [mediaTypeSegment value] ++ []) := by
        rw [dropSlashes_mediaTypeSegment]
        exact hway value List.mem_cons_self
      refine tries_goOn hwf hn hoffers hnext ?_
      intro went last hdevelops hlast
      rw [dropSlashes_mediaTypeSegment] at hlast
      exact hland _ List.mem_cons_self went last hdevelops hlast
    rw [dropSlashes_mediaTypeSegment] at hfirst
    have hdevelops := hfirst.develops
    have hrest := ih (hdevelops.wellFormed hwf) (hdevelops.extends.tree.lt_size hn)
      (fun other hother => (hway other (List.mem_cons_of_mem _ hother)).mono hdevelops.extends.tree)
      (hland.mono (fun route hroute => List.mem_cons_of_mem _ hroute) hdevelops)
    exact hfirst.append hrest

/-- A walk tries the routes of its parts, if one can land wherever they lead. -/
theorem tries_walk (hwf : journal.tree.WellFormed) (hn : n < journal.tree.nodes.size)
    (hoffers : decl.Offers params) (segments : List String)
    (hway : ∀ route ∈ routes (takeMediaTypes params).1 (Uri.dropSlashes segments),
      OnWay format resources journal.tree decl n route)
    (hland : CanLand format resources arrived land n
      (routes (takeMediaTypes params).1 (Uri.dropSlashes segments)) journal) :
    Tries format resources arrived n (routes (takeMediaTypes params).1 (Uri.dropSlashes segments))
      journal (walk (fun params n segment journal =>
        journal.step format decl.relativeUri params n segment) land segments params n journal) := by
  induction segments generalizing params n journal with
  | nil => exact hland [] List.mem_cons_self journal n .refl rfl
  | cons segment rest ih =>
    rw [walk]
    have hoffers' := offers_fanOut hoffers segment
    rcases fanOut_cases segment params with
      ⟨rfl, hlisted, params', htaken, hfan⟩ | ⟨hplain, params', htaken, hfan⟩
    · rw [hfan] at hoffers'
      rw [routes_dropSlashes_placeholder hlisted] at hway hland ⊢
      have hfirst := tries_fan hwf hn hoffers' (takeMediaTypes params).1
        (fun value hvalue => hway _ (List.mem_append_left _ (List.mem_map_of_mem hvalue)))
        (hland.mono (fun _ => List.mem_append_left _) .refl)
      have hdevelops := hfirst.develops
      have hother : [otherMediaTypes :: Uri.dropSlashes rest] =
          (routes (takeMediaTypes params').1 (Uri.dropSlashes rest)).map
            (Uri.dropSlashes [otherMediaTypes] ++ ·) := by
        rw [htaken, routes_nil]
        rfl
      have hwayOther : OnWay format resources journal.tree decl n
          (Uri.dropSlashes [otherMediaTypes] ++ Uri.dropSlashes rest) :=
        hway _ (List.mem_append_right _ (List.mem_singleton_self _))
      rw [hother] at hland ⊢
      simp only [hfan]
      refine hfirst.append (tries_goOn (hdevelops.wellFormed hwf)
        (hdevelops.extends.tree.lt_size hn) hoffers' (hwayOther.mono hdevelops.extends.tree) ?_)
      intro went last hwent hlast
      have hreached : Develops format resources journal went := hdevelops.trans hwent
      have hwfWent := hreached.wellFormed hwf
      have hnWent := hreached.extends.tree.lt_size hn
      refine ih hwfWent (hwfWent.follow?_lt_size hnWent hlast) hoffers' (fun route hroute => ?_)
        ((hland.mono (fun _ => List.mem_append_right _) .refl).rest hreached hlast)
      rw [htaken, routes_nil, List.mem_singleton] at hroute
      rw [hroute]
      exact (hwayOther.mono hreached.extends.tree).next hlast
    · rw [hfan] at hoffers'
      rw [routes_dropSlashes_cons hplain, ← htaken] at hway hland ⊢
      simp only [hfan]
      have hwayRest {route : List String}
          (hroute : route ∈ routes (takeMediaTypes params').1 (Uri.dropSlashes rest)) :
          OnWay format resources journal.tree decl n (Uri.dropSlashes [segment] ++ route) :=
        hway _ (List.mem_map_of_mem hroute)
      obtain ⟨tail, htail⟩ := List.exists_mem_of_ne_nil _
        (routes_ne_nil (takeMediaTypes params').1 (Uri.dropSlashes rest))
      refine tries_goOn hwf hn hoffers' (hwayRest htail) ?_
      intro went last hwent hlast
      have hwfWent := hwent.wellFormed hwf
      have hnWent := hwent.extends.tree.lt_size hn
      exact ih hwfWent (hwfWent.follow?_lt_size hnWent hlast) hoffers'
        (fun route hroute => ((hwayRest hroute).mono hwent.extends.tree).next hlast)
        (hland.rest hwent hlast)

end ClientGen.Tree
