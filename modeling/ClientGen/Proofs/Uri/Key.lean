import ClientGen.Proofs.Uri.Partition
import ClientGen.Proofs.Uri.Renaming

/-!
# Keys of segments

A segment has a key if what it says after a dot or a slash at its start is one placeholder, or a
text without braces that placeholders may follow back to back. The key is the name of the one
placeholder, or the text, as the language writes it. No other segment has a key.
-/

namespace ClientGen.Uri

variable {cs rest body text name segment : List Char} {c : Char} {ps : List Piece}
  {following : List (List Char)}

/-! ## What a segment goes by -/

/-- What is left of a segment without a dot or a slash at its start. -/
def IsBody (segment body : List Char) : Prop :=
  (∃ c, isDelimiter c = true ∧ segment = c :: body) ∨
    (∀ c ∈ segment.head?, isDelimiter c = false) ∧ segment = body

/-- A text goes by a name: it is a placeholder with this name, or it is the name and placeholders
that follow it back to back. -/
inductive GoesBy : List Char → List Char → Prop where
  | placeholder {name : List Char} (hname : IsName name) : GoesBy ('{' :: name ++ ['}']) name
  | text {name : List Char} {following : List (List Char)} (hname : IsName name)
    (hfollowing : ∀ other ∈ following, IsName other) :
    GoesBy (name ++ following.flatMap fun other => '{' :: other ++ ['}']) name

/-- The body of a segment is what is left without its separator. -/
theorem isBody_iff : IsBody segment body ↔ dropSeparator segment = body := by
  fun_cases dropSeparator segment with
  | case1 rest => simp [IsBody, isDelimiter]
  | case2 rest => simp [IsBody, isDelimiter]
  | case3 cs hdot hslash =>
    cases segment with
    | nil => simp [IsBody]
    | cons c rest =>
      have hc : isDelimiter c = false := by
        simp only [isDelimiter, Bool.or_eq_false_iff, beq_eq_false_iff_ne]
        exact ⟨fun h => hdot rest (h ▸ rfl), fun h => hslash rest (h ▸ rfl)⟩
      simp only [IsBody, List.head?_cons, Option.mem_some_iff, forall_eq', hc, true_and,
        or_iff_right_iff_imp]
      rintro ⟨d, hd, heq⟩
      obtain ⟨rfl, -⟩ := List.cons.inj heq
      rw [hc] at hd
      cases hd

/-! ## Pieces of such texts -/

/-- No text among pieces is empty after a character is put before them. -/
theorem ne_nil_of_text_mem_consText (hps : Piece.text text ∈ ps → text ≠ [])
    (h : Piece.text text ∈ consText c ps) : text ≠ [] := by
  rcases ps with _ | ⟨cs | name, rest⟩
  · simp_all [consText]
  · rcases List.mem_cons.mp h with heq | hrest
    · rw [Piece.text.inj heq]
      exact List.cons_ne_nil c cs
    · exact hps (List.mem_cons_of_mem _ hrest)
  · rcases List.mem_cons.mp h with heq | hrest
    · rw [Piece.text.inj heq]
      exact List.cons_ne_nil c []
    · exact hps hrest

/-- No text between placeholders is empty. -/
theorem ne_nil_of_text_mem_pieces (h : Piece.text text ∈ pieces cs) : text ≠ [] := by
  induction cs using pieces.induct with
  | case1 => simp [pieces] at h
  | case2 rest name after hname _ ih =>
    rw [pieces_placeholder hname] at h
    exact ih (by simpa using h)
  | case3 rest hname ih =>
    rw [pieces_brace hname] at h
    exact ne_nil_of_text_mem_consText ih h
  | case4 c rest hc ih =>
    rw [pieces_cons_of_ne hc] at h
    exact ne_nil_of_text_mem_consText ih h

/-- A placeholder before a template is its first piece. -/
theorem pieces_placeholder_append (h : IsName name) (rest : List Char) :
    pieces (('{' :: name ++ ['}']) ++ rest) = .placeholder name :: pieces rest := by
  have hfound : nameBefore? (name ++ '}' :: rest) = some (name, rest) :=
    nameBefore?_eq_some_iff.mpr ⟨h.1, h.2, rfl⟩
  rw [List.cons_append, List.cons_append, List.append_assoc, List.singleton_append,
    pieces_placeholder hfound]

/-- Placeholders back to back are the pieces of their text. -/
theorem pieces_placeholders (h : ∀ name ∈ following, IsName name) :
    pieces (following.flatMap fun name => '{' :: name ++ ['}']) =
      following.map Piece.placeholder := by
  induction following with
  | nil => simp [pieces]
  | cons name following ih =>
    rw [List.flatMap_cons, pieces_placeholder_append (h name List.mem_cons_self),
      ih fun other hother => h other (List.mem_cons_of_mem name hother), List.map_cons]

/-- A text without braces is one piece if no text follows it. -/
theorem pieces_text_append (h : IsName text) (hrest : ∀ cs ps, pieces rest ≠ .text cs :: ps) :
    pieces (text ++ rest) = .text text :: pieces rest := by
  obtain ⟨hne, hchars⟩ := h
  obtain ⟨c, text, rfl⟩ := List.exists_cons_of_ne_nil hne
  clear hne
  induction text generalizing c with
  | nil =>
    have hc : c ≠ '{' := fun heq => absurd (hchars c List.mem_cons_self) (by rw [heq]; decide)
    rw [List.cons_append, List.nil_append, pieces_cons_of_ne hc]
    rcases hpieces : pieces rest with _ | ⟨cs | name, ps⟩
    · rfl
    · exact absurd hpieces (hrest cs ps)
    · rfl
  | cons d text ih =>
    have hc : c ≠ '{' := fun heq => absurd (hchars c List.mem_cons_self) (by rw [heq]; decide)
    rw [List.cons_append, pieces_cons_of_ne hc,
      ih d fun e he => hchars e (List.mem_cons_of_mem c he)]
    rfl

/-- Pieces that are all placeholders are those with their names. -/
theorem eq_map_placeholder (h : ps.all Piece.isPlaceholder = true) :
    ps = (names ps).map Piece.placeholder := by
  induction ps with
  | nil => rfl
  | cons piece rest ih =>
    rw [List.all_cons, Bool.and_eq_true] at h
    cases piece with
    | text cs => cases h.1
    | placeholder name => rw [names, List.map_cons, ← ih h.2]

/-! ## The key -/

/-- A segment has the name that its body goes by. -/
theorem segmentName?_eq_some_iff :
    segmentName? segment = some name ↔ ∃ body, IsBody segment body ∧ GoesBy body name := by
  simp only [isBody_iff, exists_eq_left']
  have hjoin := join_pieces (dropSeparator segment)
  constructor
  · intro h
    rw [segmentName?] at h
    split at h
    next name' hpieces =>
      obtain rfl := Option.some.inj h
      have hname : name' ∈ names (pieces (dropSeparator segment)) := by
        rw [hpieces]
        exact List.mem_cons_self
      rw [← hjoin, hpieces, join, List.flatMap_singleton]
      exact .placeholder (isName_of_mem_names hname)
    next text ps hpieces =>
      split at h
      next hplain =>
        obtain rfl := Option.some.inj h
        rw [Bool.and_eq_true, List.all_eq_true] at hplain
        have htext : .text text ∈ pieces (dropSeparator segment) := by
          rw [hpieces]
          exact List.mem_cons_self
        have hnames : ∀ other ∈ names ps, IsName other := by
          intro other hother
          have hmem : other ∈ names (pieces (dropSeparator segment)) := by rwa [hpieces]
          exact isName_of_mem_names hmem
        rw [← hjoin, hpieces, eq_map_placeholder hplain.2, join, List.flatMap_cons,
          List.flatMap_map]
        exact .text ⟨ne_nil_of_text_mem_pieces htext, hplain.1⟩ hnames
      next => cases h
    next => cases h
  · intro h
    rw [segmentName?]
    generalize dropSeparator segment = body at h
    cases h with
    | placeholder hname =>
      have hpieces := pieces_placeholder_append hname []
      rw [List.append_nil, pieces] at hpieces
      rw [hpieces]
    | @text _ following hname hfollowing =>
      have hrest := pieces_placeholders hfollowing
      have hnotext : ∀ cs ps, pieces (following.flatMap fun other => '{' :: other ++ ['}']) ≠
          .text cs :: ps := by
        intro cs ps h
        rw [hrest] at h
        cases following <;> cases h
      rw [pieces_text_append hname hnotext, hrest]
      have hplain : name.all isNameChar = true := List.all_eq_true.mpr hname.2
      simp [hplain, Piece.isPlaceholder]

/-- A segment has the key that its body goes by, and none if its body goes by no name. -/
theorem segmentKey?_eq_iff (format : Format) (segment : String) :
    (∀ key, segmentKey? format segment = some key ↔ ∃ body name,
      IsBody segment.toList body ∧ GoesBy body name ∧
        format.writeName (String.ofList name) = key) ∧
    (segmentKey? format segment = none ↔
      ∀ body name, IsBody segment.toList body → ¬GoesBy body name) := by
  have hsome (key : String) : segmentKey? format segment = some key ↔ ∃ body name,
      IsBody segment.toList body ∧ GoesBy body name ∧
        format.writeName (String.ofList name) = key := by
    simp only [segmentKey?, Option.map_eq_some_iff, segmentName?_eq_some_iff]
    constructor
    · rintro ⟨name, ⟨body, hbody, hname⟩, hkey⟩
      exact ⟨body, name, hbody, hname, hkey⟩
    · rintro ⟨body, name, hbody, hname, hkey⟩
      exact ⟨name, ⟨body, hbody, hname⟩, hkey⟩
  refine ⟨hsome, ?_⟩
  rw [Option.eq_none_iff_forall_ne_some]
  constructor
  · intro hnone body name hbody hname
    exact hnone _ ((hsome _).mpr ⟨body, name, hbody, hname, rfl⟩)
  · intro hnone key hkey
    obtain ⟨body, name, hbody, hname, -⟩ := (hsome key).mp hkey
    exact hnone body name hbody hname

/-- Neither two placeholders alone nor a text after a placeholder is a name. -/
example : segmentName? "/\x7ba\x7d\x7bb\x7d".toList = none ∧
    segmentName? "/a\x7bb\x7dc".toList = none := by
  constructor <;> cbv

end ClientGen.Uri
