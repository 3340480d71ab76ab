import ClientGen.Uri.Segment
import Mathlib.Data.List.TakeWhile

/-!
# Placeholders of URI templates

A placeholder starts at an opening brace from which one or more characters other than braces lead to
a closing brace. The pieces of a template stand for the template. Characters other than braces at
its end are part of no placeholder.
-/

namespace ClientGen.Uri

variable {cs rest name after tail : List Char} {c : Char}

/-! ## Names of placeholders -/

/-- A placeholder may have this name. -/
def IsName (name : List Char) : Prop :=
  name ≠ [] ∧ ∀ c ∈ name, isNameChar c = true

/-- A name is followed by the first closing brace, and no opening brace comes before it. -/
theorem nameBefore?_eq_some_iff : nameBefore? cs = some (name, after) ↔
    name ≠ [] ∧ (∀ c ∈ name, isNameChar c = true) ∧ cs = name ++ '}' :: after := by
  constructor
  · intro h
    have hsplit : cs = cs.takeWhile isNameChar ++ cs.dropWhile isNameChar :=
      List.takeWhile_append_dropWhile.symm
    have hchars : ∀ c ∈ cs.takeWhile isNameChar, isNameChar c = true :=
      fun c hc => List.mem_takeWhile_imp hc
    rw [nameBefore?] at h
    split at h
    · next first name' rest htake hdrop =>
      simp only [Option.some.injEq, Prod.mk.injEq] at h
      obtain ⟨rfl, rfl⟩ := h
      rw [htake, hdrop] at hsplit
      exact ⟨by simp, htake ▸ hchars, hsplit⟩
    · cases h
  · rintro ⟨hname, hchars, rfl⟩
    obtain ⟨first, name, rfl⟩ := List.exists_cons_of_ne_nil hname
    have hbrace : isNameChar '}' = false := by decide
    rw [nameBefore?, List.takeWhile_append_of_pos hchars, List.dropWhile_append_of_pos hchars,
      List.takeWhile_cons_of_neg (by simp [hbrace]), List.dropWhile_cons_of_neg (by simp [hbrace]),
      List.append_nil]
    rfl

/-- No name is found exactly if no characters of names end with a brace. -/
theorem nameBefore?_eq_none_iff : nameBefore? cs = none ↔
    ∀ name after, name ≠ [] → (∀ c ∈ name, isNameChar c = true) → cs ≠ name ++ '}' :: after := by
  rw [Option.eq_none_iff_forall_ne_some]
  constructor
  · exact fun h name after hname hchars hcs =>
      h (name, after) (nameBefore?_eq_some_iff.mpr ⟨hname, hchars, hcs⟩)
  · rintro h ⟨name, after⟩ hsome
    obtain ⟨hname, hchars, hcs⟩ := nameBefore?_eq_some_iff.mp hsome
    exact h name after hname hchars hcs

/-! ## Pieces -/

/-- A brace before a name starts a placeholder. -/
theorem pieces_placeholder (h : nameBefore? rest = some (name, after)) :
    pieces ('{' :: rest) = .placeholder name :: pieces after := by
  rw [pieces, if_pos rfl]
  split
  · next name' after' h' =>
    obtain ⟨rfl, rfl⟩ := Prod.mk.inj (Option.some.inj (h'.symm.trans h))
    rfl
  · next h' => rw [h'] at h; cases h

/-- A brace that no name follows is text. -/
theorem pieces_brace (h : nameBefore? rest = none) :
    pieces ('{' :: rest) = consText '{' (pieces rest) := by
  rw [pieces, if_pos rfl]
  split
  · next h' => rw [h'] at h; cases h
  · rfl

/-- A character that is no opening brace is text. -/
theorem pieces_cons_of_ne (h : c ≠ '{') : pieces (c :: rest) = consText c (pieces rest) := by
  rw [pieces, if_neg h]

/-- A character before the pieces stands before their text. -/
theorem join_consText (c : Char) (ps : List Piece) : join (consText c ps) = c :: join ps := by
  rcases ps with _ | ⟨_ | _, _⟩ <;> rfl

/-- A character before the pieces adds no name. -/
theorem names_consText (c : Char) (ps : List Piece) : names (consText c ps) = names ps := by
  rcases ps with _ | ⟨_ | _, _⟩ <;> rfl

/-- A template is the one that its pieces stand for. -/
theorem join_pieces (cs : List Char) : join (pieces cs) = cs := by
  induction cs using pieces.induct with
  | case1 => simp [pieces, join]
  | case2 rest name after hname _ ih =>
    obtain ⟨-, -, rfl⟩ := nameBefore?_eq_some_iff.mp hname
    rw [pieces_placeholder hname, join, List.flatMap_cons, ← join, ih]
    simp [Piece.chars]
  | case3 rest hname ih => rw [pieces_brace hname, join_consText, ih]
  | case4 c rest hc ih => rw [pieces_cons_of_ne hc, join_consText, ih]

/-- The names of a template are names. -/
theorem isName_of_mem_names (h : name ∈ names (pieces cs)) : IsName name := by
  induction cs using pieces.induct with
  | case1 => simp [pieces, names] at h
  | case2 rest found after hname _ ih =>
    rw [pieces_placeholder hname, names] at h
    rcases List.mem_cons.mp h with rfl | hrest
    · obtain ⟨hne, hchars, -⟩ := nameBefore?_eq_some_iff.mp hname
      exact ⟨hne, hchars⟩
    · exact ih hrest
  | case3 rest hname ih =>
    rw [pieces_brace hname, names_consText] at h
    exact ih h
  | case4 c rest hc ih =>
    rw [pieces_cons_of_ne hc, names_consText] at h
    exact ih h

/-! ## Ends of templates -/

/-- Characters other than braces at the end belong to no placeholder. -/
theorem names_pieces_append (cs : List Char) (htail : ∀ c ∈ tail, isNameChar c = true) :
    names (pieces (cs ++ tail)) = names (pieces cs) := by
  have hclosing : '}' ∉ tail := fun h => absurd (htail _ h) (by decide)
  induction cs using pieces.induct with
  | case1 =>
    rw [List.nil_append]
    induction tail with
    | nil => rfl
    | cons c tail ih =>
      have hc : c ≠ '{' := fun heq => absurd (htail c List.mem_cons_self) (by rw [heq]; decide)
      rw [pieces_cons_of_ne hc, names_consText]
      exact ih (fun c hc => htail c (List.mem_cons_of_mem _ hc)) fun h =>
        hclosing (List.mem_cons_of_mem _ h)
  | case2 rest name after hname _ ih =>
    obtain ⟨hne, hchars, rfl⟩ := nameBefore?_eq_some_iff.mp hname
    have hlonger : nameBefore? (name ++ '}' :: after ++ tail) = some (name, after ++ tail) :=
      nameBefore?_eq_some_iff.mpr ⟨hne, hchars, by simp⟩
    rw [List.cons_append, pieces_placeholder hlonger, pieces_placeholder hname, names, names, ih]
  | case3 rest hname ih =>
    have hlonger : nameBefore? (rest ++ tail) = none := by
      rw [nameBefore?_eq_none_iff] at hname ⊢
      intro name after hne hchars heq
      rcases List.append_eq_append_iff.mp heq with ⟨more, rfl, hmore⟩ | ⟨more, rfl, hmore⟩
      · exact hclosing (hmore ▸ by simp)
      · cases more with
        | nil => exact hclosing (by simp at hmore; simp [← hmore])
        | cons d more =>
          obtain ⟨rfl, -⟩ := List.cons.inj hmore
          exact hname name more hne hchars rfl
    rw [List.cons_append, pieces_brace hlonger, pieces_brace hname, names_consText, names_consText,
      ih]
  | case4 c rest hc ih =>
    rw [List.cons_append, pieces_cons_of_ne hc, pieces_cons_of_ne hc, names_consText,
      names_consText, ih]

/-- Without the slashes at its end a template has the same placeholders. -/
theorem placeholderNames_dropTrailingSlashes (uri : String) :
    placeholderNames (dropTrailingSlashes uri) = placeholderNames uri := by
  have hsplit : uri.toList = (dropTrailingSlashes uri).toList ++
      (uri.toList.reverse.takeWhile (· == '/')).reverse := by
    rw [dropTrailingSlashes, String.toList_ofList, Text.dropEndWhile, ← List.reverse_append,
      List.takeWhile_append_dropWhile, List.reverse_reverse]
  rw [placeholderNames, placeholderNames, hsplit, names_pieces_append]
  intro c hc
  have hslash := List.mem_takeWhile_imp (List.mem_reverse.mp hc)
  obtain rfl : c = '/' := by simpa using hslash
  decide

/-- A text that does not end with a slash is kept. -/
theorem dropTrailingSlashes_eq_self {uri : String} (h : uri.toList.getLast? ≠ some '/') :
    dropTrailingSlashes uri = uri := by
  have hkept : Text.dropEndWhile (· == '/') uri.toList = uri.toList := by
    rw [← List.head?_reverse] at h
    rw [Text.dropEndWhile, List.reverse_eq_iff]
    cases hchars : uri.toList.reverse with
    | nil => rfl
    | cons c rest =>
      rw [hchars, List.head?_cons] at h
      exact List.dropWhile_cons_of_neg (by simpa using h)
  rw [dropTrailingSlashes, hkept, String.ofList_toList]

end ClientGen.Uri
