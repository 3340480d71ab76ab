import ClientGen.Proofs.Uri.Segments

/-!
# Relative URIs and their segments

The segments of a relative URI are known by what they look like, without the way they are found.
They are not empty and make up the URI. A dot or a slash can only come first in a segment, and all
segments but the first one start with one of them, unless the last is the placeholder of a media
type, which it is whenever the URI ends with that placeholder. Only one division of a URI is like
this.
-/

namespace ClientGen.Uri

variable {cs rest part : List Char} {parts others : List (List Char)}

/-- Whether a segment can start at a character wherever it stands. -/
def isDelimiter (c : Char) : Bool :=
  c == '.' || c == '/'

/-- Parts of a relative URI are divided as segments are. -/
structure Partition (cs : List Char) (parts : List (List Char)) : Prop where
  flatten_eq : parts.flatten = cs
  ne_nil : ∀ part ∈ parts, part ≠ []
  /-- A part after the first one starts with a dot or a slash, or it is a placeholder and the last
  part. -/
  later : ∀ {first part : List Char} {pre post : List (List Char)},
    parts = first :: (pre ++ part :: post) → (∃ c, part.head? = some c ∧ isDelimiter c = true) ∨
      part = mediaTypePlaceholder.toList ∧ post = []
  inner : ∀ part ∈ parts, ∀ c ∈ part.tail, isDelimiter c = false
  ending : mediaTypePlaceholder.toList <:+ cs →
    parts.getLast? = some mediaTypePlaceholder.toList

/-- A segment starts with a dot or a slash, or is the placeholder that ends the text. -/
theorem startsSegment_cons (c : Char) (rest : List Char) : startsSegment (c :: rest) =
    (isDelimiter c || c :: rest == mediaTypePlaceholder.toList) := by
  simp [startsSegment, isDelimiter]

/-! ## Segments are a partition -/

/-- No segment is empty. -/
theorem ne_nil_of_mem_splitSegments (h : part ∈ splitSegments cs) : part ≠ [] := by
  induction cs generalizing part with
  | nil => cases h
  | cons c rest ih =>
    by_cases hbare : isBareBefore rest = true
    · rw [splitSegments_cons_of_bare c hbare] at h
      rcases List.mem_cons.mp h with rfl | hothers
      · exact List.cons_ne_nil c []
      · exact ih hothers
    · obtain ⟨first, others, hrest, -, hsplit⟩ := splitSegments_cons_of_not_bare c hbare
      rw [hsplit] at h
      rcases List.mem_cons.mp h with rfl | hothers
      · exact List.cons_ne_nil c first
      · exact ih (hrest ▸ List.mem_cons_of_mem first hothers)

/-- After its first character a segment has neither dots nor slashes, as a segment would start
there. -/
theorem isDelimiter_of_mem_tail (h : part ∈ splitSegments cs) {c : Char} (hc : c ∈ part.tail) :
    isDelimiter c = false := by
  induction cs generalizing part with
  | nil => cases h
  | cons d rest ih =>
    by_cases hbare : isBareBefore rest = true
    · rw [splitSegments_cons_of_bare d hbare] at h
      rcases List.mem_cons.mp h with rfl | hothers
      · cases hc
      · exact ih hothers hc
    · obtain ⟨first, others, hrest, hne, hsplit⟩ := splitSegments_cons_of_not_bare d hbare
      rw [hsplit] at h
      rw [hrest] at ih
      rcases List.mem_cons.mp h with rfl | hothers
      · obtain ⟨e, tail, rfl⟩ := List.exists_cons_of_ne_nil hne
        rcases List.mem_cons.mp hc with rfl | htail
        · obtain ⟨others', rfl⟩ : ∃ others', rest = c :: others' :=
            List.head?_eq_some_iff.mp (head?_first hrest).symm
          simp only [isBareBefore, startsSegment_cons, List.isEmpty_cons, Bool.false_or,
            Bool.or_eq_true, not_or, Bool.not_eq_true] at hbare
          exact hbare.1
        · exact ih List.mem_cons_self htail
      · exact ih (List.mem_cons_of_mem _ hothers) hc

/-- The segments of a text are a partition of it. -/
theorem partition_splitSegments (cs : List Char) : Partition cs (splitSegments cs) where
  flatten_eq := flatten_splitSegments cs
  ne_nil _ := ne_nil_of_mem_splitSegments
  later {first part pre post} h := by
    cases hhead : part.head? with
    | none =>
      refine Or.inr (later_segment h ?_ ?_) <;> simp [hhead]
    | some c =>
      by_cases hc : isDelimiter c = true
      · exact Or.inl ⟨c, rfl, hc⟩
      · simp only [isDelimiter, Bool.or_eq_true, beq_iff_eq, not_or] at hc
        refine Or.inr (later_segment h ?_ ?_) <;> simp [hhead, hc]
  inner _ hpart _ := isDelimiter_of_mem_tail hpart
  ending := getLast?_splitSegments

/-! ## No other partition -/

/-- Characters at which no segment starts stay together. -/
theorem splitSegments_together (c : Char) (hbare : isBareBefore rest = true)
    (hinner : ∀ d ∈ cs, isDelimiter d = false)
    (hending : ∀ more, more <:+ cs → more ≠ [] → more ++ rest ≠ mediaTypePlaceholder.toList) :
    splitSegments (c :: cs ++ rest) = (c :: cs) :: splitSegments rest := by
  induction cs generalizing c with
  | nil => exact splitSegments_cons_of_bare c hbare
  | cons d cs ih =>
    have hrest := ih d (fun e he => hinner e (List.mem_cons_of_mem d he))
      fun more hmore => hending more (hmore.trans (List.suffix_cons d cs))
    have hgoes : ¬isBareBefore (d :: cs ++ rest) = true := by
      have hdelimiter := hinner d List.mem_cons_self
      have hplaceholder := beq_eq_false_iff_ne.mpr
        (hending (d :: cs) List.suffix_rfl (List.cons_ne_nil d cs))
      rw [List.cons_append] at hplaceholder ⊢
      simp [isBareBefore, startsSegment_cons, hdelimiter, hplaceholder]
    obtain ⟨first, others, hfirst, -, hsplit⟩ := splitSegments_cons_of_not_bare c hgoes
    rw [hrest] at hfirst
    obtain ⟨rfl, rfl⟩ := List.cons.inj hfirst
    exact hsplit

/-- What follows the first part is a partition of the rest. -/
theorem Partition.tail (h : Partition cs (part :: others)) : Partition others.flatten others where
  flatten_eq := rfl
  ne_nil other hother := h.ne_nil other (List.mem_cons_of_mem part hother)
  later {first other pre post} heq := by
    have hparts : part :: others = part :: (first :: pre ++ other :: post) := by rw [heq]; rfl
    exact h.later hparts
  inner other hother := h.inner other (List.mem_cons_of_mem part hother)
  ending hsuffix := by
    have hne : others ≠ [] := by
      rintro rfl
      exact absurd (List.suffix_nil.mp hsuffix) (by decide)
    have hlast := h.ending (hsuffix.trans ⟨part, by rw [← h.flatten_eq, List.flatten_cons]⟩)
    rwa [List.getLast?_cons_of_ne_nil hne] at hlast

/-- A segment starts where the first part ends. -/
theorem Partition.isBareBefore (h : Partition cs (part :: others)) :
    isBareBefore others.flatten = true := by
  cases others with
  | nil => rfl
  | cons other more =>
    have hparts : part :: other :: more = part :: ([] ++ other :: more) := rfl
    rcases h.later hparts with ⟨c, hhead, hc⟩ | ⟨rfl, rfl⟩
    · obtain ⟨tail, rfl⟩ := List.head?_eq_some_iff.mp hhead
      simp [Uri.isBareBefore, startsSegment_cons, hc]
    · decide

/-- No placeholder that ends the text starts within the first part. It would be longer than the last
part, which it has to be. -/
theorem Partition.ending_not_within (h : Partition cs (part :: others)) {more : List Char}
    (hmore : more <:+ part.tail) (hne : more ≠ []) :
    more ++ others.flatten ≠ mediaTypePlaceholder.toList := by
  intro heq
  have hlonger : more.length < part.length := by
    have hle := hmore.length_le
    have hpos := List.length_pos_iff.mpr (h.ne_nil part List.mem_cons_self)
    rw [List.length_tail] at hle
    omega
  have hsuffix : mediaTypePlaceholder.toList <:+ cs := by
    obtain ⟨before, hpart⟩ := hmore.trans (List.tail_suffix part)
    refine ⟨before, ?_⟩
    rw [← h.flatten_eq, ← heq, List.flatten_cons, ← hpart, List.append_assoc]
  have hlast := h.ending hsuffix
  have hlength := congrArg List.length heq
  rw [List.length_append] at hlength
  cases hothers : others.getLast? with
  | none =>
    obtain rfl := List.getLast?_eq_none_iff.mp hothers
    rw [List.getLast?_singleton, Option.some.injEq] at hlast
    rw [← hlast, List.flatten_nil, List.length_nil] at hlength
    omega
  | some last =>
    rw [List.getLast?_cons, hothers, Option.getD_some, Option.some.injEq] at hlast
    have hle : last.length ≤ others.flatten.length :=
      (List.infix_of_mem_flatten (List.mem_of_getLast? hothers)).length_le
    have hpos := List.length_pos_iff.mpr hne
    rw [hlast] at hle
    omega

/-- Every partition is the one into segments. -/
theorem Partition.splitSegments_eq (h : Partition cs parts) : splitSegments cs = parts := by
  induction parts generalizing cs with
  | nil => rw [← h.flatten_eq]; rfl
  | cons part others ih =>
    obtain ⟨c, tail, rfl⟩ := List.exists_cons_of_ne_nil (h.ne_nil part List.mem_cons_self)
    have htogether : splitSegments (c :: tail ++ others.flatten) =
        (c :: tail) :: splitSegments others.flatten :=
      splitSegments_together c h.isBareBefore (h.inner _ List.mem_cons_self)
        fun _ => h.ending_not_within
    rw [← h.flatten_eq, List.flatten_cons, htogether, ih h.tail]

/-- The segments of a relative URI are its only partition. -/
theorem segments_eq_iff (uri : String) (parts : List String) :
    segments uri = parts ↔ Partition uri.toList (parts.map String.toList) := by
  have htexts : (segments uri).map String.toList = splitSegments uri.toList := by
    simp [segments]
  constructor
  · rintro rfl
    rw [htexts]
    exact partition_splitSegments uri.toList
  · intro h
    refine List.map_injective_iff.mpr (fun _ _ => String.toList_inj.mp) ?_
    rw [htexts, h.splitSegments_eq]

/-- A URI that ends with a placeholder, and has one at other places too. -/
example : segments "/\x7bmediaTypeExtension\x7d/a.b\x7bmediaTypeExtension\x7d" =
    ["/\x7bmediaTypeExtension\x7d", "/a", ".b", "\x7bmediaTypeExtension\x7d"] := by
  decide

end ClientGen.Uri
