import ClientGen.Uri.Segment
import Mathlib.Data.List.Basic

/-!
# Segments and slashes

The segments of a relative URI follow each other without a gap, so leaving out those that are lone
slashes leaves out nothing but these slashes. A slash stands alone if the URI ends after it or a
new segment starts there. A segment that starts with neither a dot nor a slash is the first one, or
it is the placeholder of a media type and the last one.
-/

namespace ClientGen.Uri

variable {cs first segment : List Char} {others pre post : List (List Char)}

/-- The segments that name nodes: all but lone slashes. -/
def dropSlashes (segments : List String) : List String :=
  segments.filter fun segment => segment ≠ "/"

/-- The parts of a relative URI. -/
def parts (uri : String) : List String :=
  dropSlashes (segments uri)

/-- Whether a slash before these characters stands alone. -/
def isBareBefore (rest : List Char) : Bool :=
  rest.isEmpty || startsSegment rest

/-- The characters without the slashes that stand alone. -/
def dropBareSlashes : List Char → List Char
  | [] => []
  | c :: rest =>
    if c = '/' ∧ isBareBefore rest = true then dropBareSlashes rest else c :: dropBareSlashes rest

/-- A relative URI without the slashes that stand alone: those at its end, and those before a slash,
before a dot, or before a placeholder of a media type that ends the URI. -/
def withoutBareSlashes (uri : String) : String :=
  String.ofList (dropBareSlashes uri.toList)

/-! ## The first segment -/

/-- Only the empty text has no segments. -/
theorem splitSegments_eq_nil_iff : splitSegments cs = [] ↔ cs = [] := by
  cases cs with
  | nil => simp [splitSegments]
  | cons c rest =>
    rw [splitSegments]
    split
    · simp
    · split <;> simp

/-- A character after which a segment starts is a segment of its own. -/
theorem splitSegments_cons_of_bare (c : Char) {rest : List Char} (h : isBareBefore rest = true) :
    splitSegments (c :: rest) = [c] :: splitSegments rest := by
  cases hrest : splitSegments rest with
  | nil => simp [splitSegments, hrest]
  | cons first others =>
    have hne : rest ≠ [] := by
      rintro rfl
      simp [splitSegments] at hrest
    have hstarts : startsSegment rest = true := by simpa [isBareBefore, hne] using h
    simp [splitSegments, hrest, hstarts]

/-- Another character is put in front of the first segment after it. -/
theorem splitSegments_cons_of_not_bare (c : Char) {rest : List Char}
    (h : ¬isBareBefore rest = true) : ∃ first others, splitSegments rest = first :: others ∧
      first ≠ [] ∧ splitSegments (c :: rest) = (c :: first) :: others := by
  simp only [isBareBefore, Bool.or_eq_true, List.isEmpty_iff, not_or, Bool.not_eq_true] at h
  cases hrest : splitSegments rest with
  | nil => exact absurd (splitSegments_eq_nil_iff.mp hrest) h.1
  | cons first others =>
    refine ⟨first, others, rfl, ?_, by simp [splitSegments, hrest, h.2]⟩
    rintro rfl
    cases rest with
    | nil => exact h.1 rfl
    | cons c' rest =>
      rw [splitSegments] at hrest
      split at hrest
      · simp at hrest
      · split at hrest <;> simp at hrest

/-- The first segment starts where the text does. -/
theorem head?_first (h : splitSegments cs = first :: others) : first.head? = cs.head? := by
  cases cs with
  | nil => simp [splitSegments] at h
  | cons c rest =>
    by_cases hbare : isBareBefore rest = true
    · rw [splitSegments_cons_of_bare c hbare] at h
      obtain ⟨rfl, -⟩ := List.cons.inj h
      rfl
    · obtain ⟨segment, others', -, -, hsplit⟩ := splitSegments_cons_of_not_bare c hbare
      rw [hsplit] at h
      obtain ⟨rfl, -⟩ := List.cons.inj h
      rfl

/-! ## Lone slashes -/

/-- The segments that are no lone slashes make up the text without slashes that stand alone. A first
segment that is continued is no lone slash. -/
theorem flatten_filter_splitSegments (cs : List Char) :
    ((splitSegments cs).filter fun segment => segment ≠ ['/']).flatten = dropBareSlashes cs := by
  induction cs with
  | nil => rfl
  | cons c rest ih =>
    rw [dropBareSlashes]
    by_cases hbare : isBareBefore rest = true
    · rw [splitSegments_cons_of_bare c hbare]
      by_cases hc : c = '/'
      · rw [if_pos ⟨hc, hbare⟩, ← ih, hc]
        simp
      · rw [if_neg (fun h => hc h.1), ← ih]
        simp [hc]
    · obtain ⟨first, others, hrest, hne, hsplit⟩ := splitSegments_cons_of_not_bare c hbare
      have hslash : first ≠ ['/'] := by
        rintro rfl
        have hhead := head?_first hrest
        simp [isBareBefore, startsSegment, ← hhead] at hbare
      have hlong : c :: first ≠ ['/'] := fun h => hne (List.cons.inj h).2
      rw [if_neg (fun h => hbare h.2), hsplit, ← ih, hrest]
      simp [hslash, hlong]

/-- The parts of a relative URI make up the URI without the slashes that stand alone. -/
theorem join_parts (uri : String) : String.join (parts uri) = withoutBareSlashes uri := by
  apply String.toList_inj.mp
  rw [withoutBareSlashes, String.toList_ofList, ← flatten_filter_splitSegments, String.toList_join,
    parts, dropSlashes, segments, List.filter_map, List.flatMap_map]
  simp only [String.toList_ofList, List.flatMap_id']
  congr 2
  funext segment
  simp [← String.toList_inj]

/-! ## Placeholders of media types -/

/-- A segment after the first that starts with neither a dot nor a slash is a placeholder of a media
type, and the last segment. -/
theorem later_segment (h : splitSegments cs = first :: (pre ++ segment :: post))
    (hdot : segment.head? ≠ some '.') (hslash : segment.head? ≠ some '/') :
    segment = mediaTypePlaceholder.toList ∧ post = [] := by
  induction cs generalizing first pre with
  | nil => simp [splitSegments] at h
  | cons c rest ih =>
    by_cases hbare : isBareBefore rest = true
    · rw [splitSegments_cons_of_bare c hbare] at h
      obtain ⟨-, hrest⟩ := List.cons.inj h
      cases pre with
      | cons p pre => exact ih hrest
      | nil =>
        rw [List.nil_append] at hrest
        have hhead := head?_first hrest
        have hne : rest ≠ [] := by
          rintro rfl
          simp [splitSegments] at hrest
        rw [hhead] at hdot hslash
        have hplaceholder : rest = mediaTypePlaceholder.toList := by
          simpa [isBareBefore, startsSegment, hne, hdot, hslash] using hbare
        have hsplit : splitSegments mediaTypePlaceholder.toList =
            [mediaTypePlaceholder.toList] := by
          decide
        rw [hplaceholder, hsplit] at hrest
        obtain ⟨hsegment, hpost⟩ := List.cons.inj hrest
        exact ⟨hsegment.symm, hpost.symm⟩
    · obtain ⟨first', others, hrest, -, hsplit⟩ := splitSegments_cons_of_not_bare c hbare
      rw [hsplit] at h
      obtain ⟨-, rfl⟩ := List.cons.inj h
      exact ih hrest

/-- A placeholder of a media type is the first part of a relative URI or the last one. -/
theorem parts_placeholder {uri : String} {pre post : List String}
    (h : parts uri = pre ++ mediaTypePlaceholder :: post) : pre = [] ∨ post = [] := by
  rw [parts, dropSlashes] at h
  obtain ⟨before, after, hsegments, hbefore, hafter⟩ := List.filter_eq_append_iff.mp h
  obtain ⟨slashes, after', rfl, -, -, hafter'⟩ := List.filter_eq_cons_iff.mp hafter
  cases hskipped : before ++ slashes with
  | nil =>
    obtain ⟨rfl, -⟩ := List.append_eq_nil_iff.mp hskipped
    exact Or.inl hbefore.symm
  | cons first skipped =>
    rw [← List.append_assoc, hskipped, List.cons_append, segments] at hsegments
    obtain ⟨first', others, hsplit, -, hothers⟩ := List.map_eq_cons_iff.mp hsegments
    obtain ⟨skipped', rest, rfl, -, hrest⟩ := List.map_eq_append_iff.mp hothers
    obtain ⟨segment, post', rfl, hsegment, hpost'⟩ := List.map_eq_cons_iff.mp hrest
    have htext : segment = mediaTypePlaceholder.toList := by
      rw [← hsegment, String.toList_ofList]
    obtain ⟨-, rfl⟩ := later_segment hsplit (by rw [htext]; decide) (by rw [htext]; decide)
    rw [← hafter', ← hpost']
    exact Or.inr rfl

/-! ## Joined relative URIs -/

/-- A text does not join the segment that it is written after: it is empty, or it starts with a
slash or a dot. -/
def IsSeparate (cs : List Char) : Prop :=
  cs = [] ∨ cs.head? = some '/' ∨ cs.head? = some '.'

/-- Nothing is lost between segments. -/
theorem flatten_splitSegments (cs : List Char) : (splitSegments cs).flatten = cs := by
  induction cs with
  | nil => rfl
  | cons c rest ih =>
    by_cases hbare : isBareBefore rest = true
    · rw [splitSegments_cons_of_bare c hbare, List.flatten_cons, ih]
      rfl
    · obtain ⟨first, others, hrest, -, hsplit⟩ := splitSegments_cons_of_not_bare c hbare
      rw [hrest, List.flatten_cons] at ih
      rw [hsplit, List.flatten_cons, List.cons_append, ih]

/-- The placeholder of a media type is a segment of its own. -/
theorem splitSegments_placeholder :
    splitSegments mediaTypePlaceholder.toList = [mediaTypePlaceholder.toList] := by
  decide

/-- A placeholder of a media type that ends a text is its last segment. -/
theorem getLast?_splitSegments (h : mediaTypePlaceholder.toList <:+ cs) :
    (splitSegments cs).getLast? = some mediaTypePlaceholder.toList := by
  induction cs with
  | nil => exact absurd (List.suffix_nil.mp h) (by decide)
  | cons c rest ih =>
    rcases List.suffix_cons_iff.mp h with heq | hrest
    · rw [← heq, splitSegments_placeholder, List.getLast?_singleton]
    · have hlast := ih hrest
      by_cases hbare : isBareBefore rest = true
      · rw [splitSegments_cons_of_bare c hbare, List.getLast?_cons, hlast, Option.getD_some]
      · obtain ⟨first, others, hsplitRest, -, hsplit⟩ := splitSegments_cons_of_not_bare c hbare
        rw [hsplitRest] at hlast
        rw [hsplit]
        cases others with
        | nil =>
          have hrest := flatten_splitSegments rest
          rw [hsplitRest] at hrest
          simp only [List.getLast?_singleton, Option.some.injEq] at hlast
          simp [isBareBefore, startsSegment, ← hrest, hlast] at hbare
        | cons second others =>
          rw [List.getLast?_cons_cons] at hlast ⊢
          exact hlast

/-- Whether a slash stands alone is seen from what follows it in its own text. -/
theorem isBareBefore_append {rest ds : List Char} (hrest : rest ≠ mediaTypePlaceholder.toList)
    (hds : IsSeparate ds) :
    isBareBefore (rest ++ ds) = isBareBefore rest := by
  have hplaceholder : rest ++ ds ≠ mediaTypePlaceholder.toList := by
    intro heq
    cases ds with
    | nil => exact hrest (by simpa using heq)
    | cons d ds =>
      have hmem : d ∈ mediaTypePlaceholder.toList := heq ▸ by simp
      have hslash : '/' ∉ mediaTypePlaceholder.toList := by decide
      have hdot : '.' ∉ mediaTypePlaceholder.toList := by decide
      rcases hds with hnil | hhead | hhead
      · cases hnil
      · exact hslash (Option.some.inj hhead ▸ hmem)
      · exact hdot (Option.some.inj hhead ▸ hmem)
  cases rest with
  | nil =>
    rcases hds with rfl | hhead | hhead
    · rfl
    · simp [isBareBefore, startsSegment, hhead]
    · simp [isBareBefore, startsSegment, hhead]
  | cons c rest =>
    rw [List.cons_append] at hplaceholder ⊢
    have hlong := beq_eq_false_iff_ne.mpr hplaceholder
    have hshort := beq_eq_false_iff_ne.mpr hrest
    simp [isBareBefore, startsSegment, hlong, hshort]

/-- A text that does not end with a placeholder of a media type has the same segments if something
separate is written after it. -/
theorem splitSegments_append {ds : List Char} (hcs : ¬mediaTypePlaceholder.toList <:+ cs)
    (hds : IsSeparate ds) :
    splitSegments (cs ++ ds) = splitSegments cs ++ splitSegments ds := by
  induction cs with
  | nil => rfl
  | cons c rest ih =>
    rw [List.suffix_cons_iff, not_or] at hcs
    have hrest := ih hcs.2
    have hne : rest ≠ mediaTypePlaceholder.toList := fun h => hcs.2 (h ▸ List.suffix_rfl)
    have hsame := isBareBefore_append hne hds
    rw [List.cons_append]
    by_cases hbare : isBareBefore rest = true
    · rw [splitSegments_cons_of_bare c hbare, splitSegments_cons_of_bare c (hsame.trans hbare),
        hrest, List.cons_append]
    · obtain ⟨first, others, hfirst, -, hsplit⟩ := splitSegments_cons_of_not_bare c hbare
      have hbare' : ¬isBareBefore (rest ++ ds) = true := by rwa [hsame]
      obtain ⟨first', others', hfirst', -, hsplit'⟩ := splitSegments_cons_of_not_bare c hbare'
      rw [hfirst', hfirst, List.cons_append] at hrest
      obtain ⟨rfl, rfl⟩ := List.cons.inj hrest
      rw [hsplit', hsplit, List.cons_append]

/-- The segments of joined relative URIs are those of each, if the second one is separate and the
first one does not end with a placeholder of a media type. -/
theorem segments_append {first second : String} (hfirst : mediaTypePlaceholder ∉ segments first)
    (hsecond : IsSeparate second.toList) :
    segments (first ++ second) = segments first ++ segments second := by
  have hend : ¬mediaTypePlaceholder.toList <:+ first.toList := by
    intro h
    have hmem := List.mem_of_getLast? (getLast?_splitSegments h)
    exact hfirst (List.mem_map.mpr ⟨_, hmem, String.ofList_toList⟩)
  rw [segments, String.toList_append, splitSegments_append hend hsecond, List.map_append]
  rfl

end ClientGen.Uri
