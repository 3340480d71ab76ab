import ClientGen.Proofs.Uri.Template
import ClientGen.Text.Replace

/-!
# Other names for placeholders

Other names for the placeholders of a template change nothing else in it: the new template consists
of the same texts and of placeholders with the new names. Numbering placeholders is such a renaming,
and so is replacing a placeholder wherever it stands.
-/

namespace ClientGen.Uri

variable {cs rest name old new : List Char} {c : Char} {ps : List Piece} {ns ms : List (List Char)}
  {uri : String} {fresh later : List String}

/-! ## Pieces with other names -/

/-- The pieces with other names for their placeholders, from left to right. -/
def rename : List Piece → List (List Char) → List Piece
  | [], _ => []
  | .text cs :: rest, ns => .text cs :: rename rest ns
  | .placeholder old :: rest, [] => .placeholder old :: rest
  | .placeholder _ :: rest, name :: ns => .placeholder name :: rename rest ns

/-- Renaming placeholders keeps the texts between them. -/
theorem rename_consText (c : Char) (ps : List Piece) (ns : List (List Char)) :
    rename (consText c ps) ns = consText c (rename ps ns) := by
  rcases ps with _ | ⟨_ | _, _⟩ <;> cases ns <;> rfl

/-- Renamed placeholders have the new names. -/
theorem names_rename (h : ns.length = (names ps).length) : names (rename ps ns) = ns := by
  fun_induction rename ps ns with
  | case1 ns => exact (List.length_eq_zero_iff.mp h).symm
  | case2 cs rest ns ih => exact ih h
  | case3 old rest => cases h
  | case4 old rest name ns ih => rw [names, ih (Nat.succ.inj h)]

/-- Renaming placeholders to their own names changes nothing. -/
theorem rename_names (ps : List Piece) : rename ps (names ps) = ps := by
  induction ps with
  | nil => rfl
  | cons piece rest ih => cases piece <;> rw [names, rename, ih]

/-- Of two renamings the later one counts. -/
theorem rename_rename (h : ns.length = (names ps).length) (h' : ms.length = (names ps).length) :
    rename (rename ps ns) ms = rename ps ms := by
  fun_induction rename ps ns generalizing ms with
  | case1 ns => rfl
  | case2 cs rest ns ih => rw [rename, rename, ih h h']
  | case3 old rest => cases h
  | case4 old rest name ns ih =>
    obtain ⟨first, ms, rfl⟩ := List.exists_cons_of_length_eq_add_one h'
    rw [rename, rename, ih (Nat.succ.inj h) (Nat.succ.inj h')]

/-- Texts are kept. -/
theorem text_mem_of_mem_rename {text : List Char} (h : Piece.text text ∈ rename ps ns) :
    Piece.text text ∈ ps := by
  fun_induction rename ps ns with
  | case1 ns => exact h
  | case2 cs rest ns ih =>
    rcases List.mem_cons.mp h with heq | hrest
    · exact heq ▸ List.mem_cons_self
    · exact List.mem_cons_of_mem _ (ih hrest)
  | case3 old rest => exact h
  | case4 old rest name ns ih => exact List.mem_cons_of_mem _ (ih (by simpa using h))

/-- A name does not begin with an opening brace, and neither does what closes it. -/
theorem not_prefix_brace (hchars : ∀ c ∈ name, isNameChar c = true) :
    ¬name ++ ['}'] <+: '{' :: rest := by
  intro hstart
  cases name with
  | nil => simp at hstart
  | cons d name =>
    obtain ⟨rfl, -⟩ := List.cons_prefix_cons.mp hstart
    exact absurd (hchars '{' List.mem_cons_self) (by decide)

/-- Up to the first placeholder renaming changes nothing: a name that leads to a closing brace in
the renamed template led there before. -/
theorem prefix_of_prefix_rename (cs : List Char) (hchars : ∀ c ∈ name, isNameChar c = true)
    (h : name ++ ['}'] <+: join (rename (pieces cs) ns)) : name ++ ['}'] <+: cs := by
  induction cs using pieces.induct generalizing name with
  | case1 => simp [pieces, rename, join] at h
  | case2 rest found after hname =>
    rw [pieces_placeholder hname] at h
    cases ns <;> exact absurd h (not_prefix_brace hchars)
  | case3 rest hname =>
    rw [pieces_brace hname, rename_consText, join_consText] at h
    exact absurd h (not_prefix_brace hchars)
  | case4 c rest hc ih =>
    rw [pieces_cons_of_ne hc, rename_consText, join_consText] at h
    cases name with
    | nil =>
      obtain ⟨rfl, -⟩ := List.cons_prefix_cons.mp h
      exact List.cons_prefix_cons.mpr ⟨rfl, List.nil_prefix⟩
    | cons d name =>
      obtain ⟨rfl, htail⟩ := List.cons_prefix_cons.mp h
      exact List.cons_prefix_cons.mpr
        ⟨rfl, ih (fun c hc => hchars c (List.mem_cons_of_mem _ hc)) htail⟩

/-- A renamed template consists of the renamed pieces. -/
theorem pieces_join_rename (cs : List Char) (hnames : ∀ name ∈ ns, IsName name)
    (hlength : ns.length = (names (pieces cs)).length) :
    pieces (join (rename (pieces cs) ns)) = rename (pieces cs) ns := by
  induction cs using pieces.induct generalizing ns with
  | case1 => simp [pieces, rename, join]
  | case2 rest found after hname _ ih =>
    rw [pieces_placeholder hname, names] at hlength
    obtain ⟨name, ns, rfl⟩ := List.exists_cons_of_length_eq_add_one hlength
    obtain ⟨hne, hchars⟩ := hnames name List.mem_cons_self
    have hrenamed : nameBefore? (name ++ '}' :: join (rename (pieces after) ns)) =
        some (name, join (rename (pieces after) ns)) :=
      nameBefore?_eq_some_iff.mpr ⟨hne, hchars, rfl⟩
    have hjoin : join (.placeholder name :: rename (pieces after) ns) =
        '{' :: (name ++ '}' :: join (rename (pieces after) ns)) := by
      simp [join, Piece.chars]
    rw [pieces_placeholder hname, rename, hjoin, pieces_placeholder hrenamed,
      ih (fun name hmem => hnames name (List.mem_cons_of_mem _ hmem)) (Nat.succ.inj hlength)]
  | case3 rest hname ih =>
    have hrenamed : nameBefore? (join (rename (pieces rest) ns)) = none := by
      rw [nameBefore?_eq_none_iff] at hname ⊢
      intro name after hne hchars heq
      obtain ⟨more, hmore⟩ := prefix_of_prefix_rename rest hchars
        ⟨after, by rw [heq, List.append_assoc]; rfl⟩
      exact hname name more hne hchars (by rw [← hmore, List.append_assoc]; rfl)
    rw [pieces_brace hname, names_consText] at hlength
    rw [pieces_brace hname, rename_consText, join_consText, pieces_brace hrenamed,
      ih hnames hlength]
  | case4 c rest hc ih =>
    rw [pieces_cons_of_ne hc, names_consText] at hlength
    rw [pieces_cons_of_ne hc, rename_consText, join_consText, pieces_cons_of_ne hc,
      ih hnames hlength]

/-- The last character of a template is kept. -/
theorem getLast?_join_rename (ps : List Piece) (ns : List (List Char)) :
    (join (rename ps ns)).getLast? = (join ps).getLast? := by
  have hcons : ∀ (piece : Piece) (rest : List Piece),
      join (piece :: rest) = piece.chars ++ join rest := fun _ _ => rfl
  fun_induction rename ps ns with
  | case1 ns => rfl
  | case2 cs rest ns ih => rw [hcons, hcons, List.getLast?_append, List.getLast?_append, ih]
  | case3 old rest => rfl
  | case4 old rest name ns ih =>
    rw [hcons, hcons, List.getLast?_append, List.getLast?_append, ih, Piece.chars, Piece.chars,
      List.getLast?_concat, List.getLast?_concat]

/-- Numbers are names. -/
theorem number_eq_rename (next : Nat) (ps : List Piece) : number next ps =
    rename ps ((List.range' next (names ps).length).map (Nat.toDigits 10)) := by
  fun_induction number next ps with
  | case1 next => rfl
  | case2 next cs rest ih => rw [names, rename, ih]
  | case3 next name rest ih =>
    rw [names, List.length_cons, List.range'_succ, List.map_cons, rename, ih]

/-- The digits of a number are characters of names. -/
theorem isNameChar_of_mem_toDigits {n : Nat} (h : c ∈ Nat.toDigits 10 n) :
    isNameChar c = true := by
  have hdigit := Nat.isDigit_of_mem_toDigits (by decide) (by decide) h
  have hopening : c ≠ '{' := fun heq => absurd (heq ▸ hdigit) (by decide)
  have hclosing : c ≠ '}' := fun heq => absurd (heq ▸ hdigit) (by decide)
  simp [isNameChar, hopening, hclosing]

/-! ## Templates with other names -/

/-- The template with other names for its placeholders, from left to right. -/
def renamed (uri : String) (fresh : List String) : String :=
  String.ofList (join (rename (pieces uri.toList) (fresh.map String.toList)))

/-- There is one name for each placeholder of a template. -/
structure NamesFor (uri : String) (fresh : List String) : Prop where
  length_eq : fresh.length = (placeholderNames uri).length
  isName : ∀ name ∈ fresh, IsName name.toList

/-- The names of a template are names for its placeholders. -/
theorem namesFor_placeholderNames (uri : String) : NamesFor uri (placeholderNames uri) where
  length_eq := rfl
  isName s hs := by
    obtain ⟨name, hname, rfl⟩ := List.mem_map.mp hs
    rw [String.toList_ofList]
    exact isName_of_mem_names hname

/-- A number is a name. -/
theorem isName_toString (n : Nat) : IsName (toString n).toList := by
  rw [Nat.toString_eq_ofList_toDigits, String.toList_ofList]
  exact ⟨Nat.toDigits_ne_nil, fun c hc => isNameChar_of_mem_toDigits hc⟩

/-- The first numbers are names for the placeholders of a template. -/
theorem namesFor_range (uri : String) :
    NamesFor uri ((List.range (placeholderNames uri).length).map toString) where
  length_eq := by rw [List.length_map, List.length_range]
  isName s hs := by
    obtain ⟨n, -, rfl⟩ := List.mem_map.mp hs
    exact isName_toString n

/-- Names that are changed to other names are names for the same placeholders. -/
theorem NamesFor.map {f : String → String} (h : NamesFor uri fresh)
    (hf : ∀ name ∈ fresh, IsName (f name).toList) : NamesFor uri (fresh.map f) where
  length_eq := by rw [List.length_map, h.length_eq]
  isName s hs := by
    obtain ⟨name, hname, rfl⟩ := List.mem_map.mp hs
    exact hf name hname

/-- There are as many names as there are placeholders among the pieces. -/
theorem NamesFor.length_chars (h : NamesFor uri fresh) :
    (fresh.map String.toList).length = (names (pieces uri.toList)).length := by
  rw [List.length_map, h.length_eq, placeholderNames, List.length_map]

/-- The pieces of a template with other names are its pieces with these names. -/
theorem NamesFor.pieces_renamed (h : NamesFor uri fresh) :
    pieces (renamed uri fresh).toList = rename (pieces uri.toList) (fresh.map String.toList) := by
  rw [renamed, String.toList_ofList, pieces_join_rename _ _ h.length_chars]
  intro name hname
  obtain ⟨s, hs, rfl⟩ := List.mem_map.mp hname
  exact h.isName s hs

/-- A renamed template has the names given. -/
theorem NamesFor.placeholderNames_renamed (h : NamesFor uri fresh) :
    placeholderNames (renamed uri fresh) = fresh := by
  rw [placeholderNames, h.pieces_renamed, names_rename h.length_chars, List.map_map]
  exact List.map_id'' (fun s => String.ofList_toList) _

/-- Of names that are given one after the other the later ones count. -/
theorem NamesFor.renamed_renamed (h : NamesFor uri fresh) (h' : NamesFor uri later) :
    renamed (renamed uri fresh) later = renamed uri later := by
  rw [renamed, h.pieces_renamed, rename_rename h.length_chars h'.length_chars, renamed]

/-- With its own names a template stays as it is. -/
theorem renamed_placeholderNames (uri : String) : renamed uri (placeholderNames uri) = uri := by
  have hnames : (placeholderNames uri).map String.toList = names (pieces uri.toList) := by
    rw [placeholderNames, List.map_map]
    exact List.map_id'' (fun cs => String.toList_ofList) _
  rw [renamed, hnames, rename_names, join_pieces, String.ofList_toList]

/-- A template stays as it is exactly if its placeholders are given their own names. -/
theorem NamesFor.renamed_eq_self_iff (h : NamesFor uri fresh) :
    renamed uri fresh = uri ↔ fresh = placeholderNames uri := by
  constructor
  · intro heq
    rw [← h.placeholderNames_renamed, heq]
  · rintro rfl
    exact renamed_placeholderNames uri

/-- A template with other names ends with the same character. -/
theorem getLast?_renamed (uri : String) (fresh : List String) :
    (renamed uri fresh).toList.getLast? = uri.toList.getLast? := by
  rw [renamed, String.toList_ofList, getLast?_join_rename, join_pieces]

/-- A template with other names is empty exactly if the template is. -/
theorem renamed_eq_empty_iff : renamed uri fresh = "" ↔ uri = "" := by
  rw [← String.toList_eq_nil_iff, ← String.toList_eq_nil_iff, ← List.getLast?_eq_none_iff,
    ← List.getLast?_eq_none_iff, getLast?_renamed]

/-! ## Indexed templates -/

/-- An indexed template has the numbers from zero on for names. -/
theorem indexed_eq_renamed (uri : String) :
    indexed uri = renamed uri ((List.range (placeholderNames uri).length).map toString) := by
  have hnumbers : ((List.range (placeholderNames uri).length).map toString).map String.toList =
      (List.range' 0 (names (pieces uri.toList)).length).map (Nat.toDigits 10) := by
    rw [List.map_map, placeholderNames, List.length_map, List.range_eq_range']
    refine List.map_congr_left fun n _ => ?_
    rw [Function.comp_apply, Nat.toString_eq_ofList_toDigits, String.toList_ofList]
  rw [indexed, number_eq_rename, renamed, hnumbers]

/-- The placeholders of an indexed template are numbered from zero on. -/
theorem placeholderNames_indexed (uri : String) : placeholderNames (indexed uri) =
    (List.range (placeholderNames uri).length).map toString := by
  rw [indexed_eq_renamed, (namesFor_range uri).placeholderNames_renamed]

/-! ## Replaced placeholders -/

/-- Characters that are skipped in a replacement are dropped. -/
theorem replaceChars_skip (old new : List Char) (skip : Nat) (cs : List Char) :
    Text.replaceChars old new skip cs = Text.replaceChars old new 0 (cs.drop skip) := by
  induction cs generalizing skip with
  | nil => cases skip <;> rfl
  | cons c rest ih =>
    cases skip with
    | zero => rfl
    | succ skip => exact ih skip

/-- What starts with an opening brace is not found before one. -/
theorem replaceChars_append {pre : List Char} (hpre : '{' ∉ pre) :
    Text.replaceChars ('{' :: old) new 0 (pre ++ rest) =
      pre ++ Text.replaceChars ('{' :: old) new 0 rest := by
  induction pre with
  | nil => rfl
  | cons c pre ih =>
    rw [List.mem_cons, not_or] at hpre
    obtain ⟨hc, hrest⟩ := hpre
    have hstart : ¬('{' :: old).isPrefixOf (c :: (pre ++ rest)) = true := by
      rw [List.isPrefixOf_iff_prefix, List.cons_prefix_cons]
      exact fun h => hc h.1
    rw [List.cons_append, Text.replaceChars, if_neg hstart, ih hrest, List.cons_append]

/-- A placeholder is found at an opening brace exactly if its name is read there. -/
theorem isPrefixOf_placeholder_iff (hold : IsName old) :
    (Piece.placeholder old).chars.isPrefixOf ('{' :: rest) = true ↔
      ∃ after, nameBefore? rest = some (old, after) := by
  simp only [nameBefore?_eq_some_iff]
  rw [List.isPrefixOf_iff_prefix, Piece.chars, List.cons_append, List.cons_prefix_cons]
  constructor
  · rintro ⟨-, after, rfl⟩
    exact ⟨after, hold.1, hold.2, by simp⟩
  · rintro ⟨after, -, -, rfl⟩
    exact ⟨rfl, after, by simp⟩

/-- Replacing a placeholder by another one gives the placeholders with its name another name. -/
theorem replaceChars_placeholder (hold : IsName old) (cs : List Char) :
    Text.replaceChars (Piece.placeholder old).chars (Piece.placeholder new).chars 0 cs =
      join (rename (pieces cs)
        ((names (pieces cs)).map fun name => if name = old then new else name)) := by
  induction cs using pieces.induct with
  | case1 => simp [pieces, names, rename, join, Text.replaceChars]
  | case2 rest name after hname _ ih =>
    obtain ⟨-, hchars, hrest⟩ := nameBefore?_eq_some_iff.mp hname
    rw [pieces_placeholder hname, names, List.map_cons, rename, join, List.flatMap_cons, ← join,
      ← ih, Text.replaceChars]
    split
    next hfound =>
      obtain ⟨_, hsome⟩ := (isPrefixOf_placeholder_iff hold).mp hfound
      obtain ⟨rfl, -⟩ := Prod.mk.inj (Option.some.inj (hname.symm.trans hsome))
      rw [if_pos rfl, replaceChars_skip, hrest]
      simp [Piece.chars]
    next hother =>
      have hne : name ≠ old := by
        rintro rfl
        exact hother ((isPrefixOf_placeholder_iff hold).mpr ⟨after, hname⟩)
      have hplain : '{' ∉ name ++ ['}'] := by
        rw [List.mem_append, not_or]
        exact ⟨fun h => absurd (hchars _ h) (by decide), by decide⟩
      have hsplit : rest = name ++ ['}'] ++ after := by rw [hrest]; simp
      rw [if_neg hne, hsplit, Piece.chars, List.cons_append, replaceChars_append hplain]
      simp [Piece.chars]
  | case3 rest hname ih =>
    have hfree : ¬(Piece.placeholder old).chars.isPrefixOf ('{' :: rest) = true := by
      rw [isPrefixOf_placeholder_iff hold, hname]
      simp
    rw [pieces_brace hname, names_consText, rename_consText, join_consText, ← ih,
      Text.replaceChars, if_neg hfree]
  | case4 c rest hc ih =>
    have hplain : '{' ∉ [c] := by simpa using Ne.symm hc
    rw [pieces_cons_of_ne hc, names_consText, rename_consText, join_consText, ← ih]
    exact replaceChars_append hplain

/-- Replacing one placeholder by another gives all with its name the other name. -/
theorem replaceAll_placeholder {old : String} (hold : IsName old.toList) (new uri : String) :
    Text.replaceAll uri ("\x7b" ++ old ++ "\x7d") ("\x7b" ++ new ++ "\x7d") =
      renamed uri ((placeholderNames uri).map fun name => if name = old then new else name) := by
  have hchars : ∀ s : String,
      ("\x7b" ++ s ++ "\x7d").toList = (Piece.placeholder s.toList).chars := by
    intro s
    rw [String.toList_append, String.toList_append]
    rfl
  have hnames : ((placeholderNames uri).map fun name => if name = old then new else name).map
      String.toList = (names (pieces uri.toList)).map fun name =>
        if name = old.toList then new.toList else name := by
    rw [placeholderNames, List.map_map, List.map_map]
    refine List.map_congr_left fun name _ => ?_
    simp only [Function.comp_apply, ← String.toList_inj, String.toList_ofList]
    split <;> simp
  rw [Text.replaceAll, hchars, hchars, replaceChars_placeholder hold, renamed, hnames]

/-! ## Templates one after the other -/

/-- Every opening brace of a template belongs to a placeholder. -/
def Closed (cs : List Char) : Prop :=
  ∀ text, Piece.text text ∈ pieces cs → '{' ∉ text

/-- A character that is no opening brace does not matter for whether a template is closed. -/
theorem closed_cons_iff (hc : c ≠ '{') : Closed (c :: rest) ↔ Closed rest := by
  rw [Closed, Closed, pieces_cons_of_ne hc]
  rcases pieces rest with _ | ⟨text | name, ps⟩ <;> simp [consText, Ne.symm hc]

/-- A segment is closed exactly if it is so without its separator. -/
theorem closed_dropSeparator_iff : Closed (dropSeparator cs) ↔ Closed cs := by
  fun_cases dropSeparator cs with
  | case1 rest => exact (closed_cons_iff (by decide)).symm
  | case2 rest => exact (closed_cons_iff (by decide)).symm
  | case3 => exact Iff.rfl

/-- A segment with a key is closed. -/
theorem closed_of_segmentKey? {format : Format} {segment key : String}
    (h : segmentKey? format segment = some key) : Closed segment.toList := by
  obtain ⟨name, hname, -⟩ := Option.map_eq_some_iff.mp h
  rw [← closed_dropSeparator_iff]
  intro text htext hbrace
  rw [segmentName?] at hname
  split at hname
  next hpieces => simp [hpieces] at htext
  next first rest hpieces =>
    split at hname
    next hplain =>
      rw [Bool.and_eq_true, List.all_eq_true, List.all_eq_true] at hplain
      rw [hpieces] at htext
      rcases List.mem_cons.mp htext with heq | hrest
      · cases heq
        exact absurd (hplain.1 _ hbrace) (by decide)
      · exact absurd (hplain.2 _ hrest) (by simp [Piece.isPlaceholder])
    next => cases hname
  next => cases hname

/-- A closed template is so with other names as well. -/
theorem NamesFor.closed_renamed (h : NamesFor uri fresh) (hclosed : Closed uri.toList) :
    Closed (renamed uri fresh).toList := by
  intro text htext
  rw [h.pieces_renamed] at htext
  exact hclosed text (text_mem_of_mem_rename htext)

/-- After a closed template the placeholders are as without it. -/
theorem Closed.names_append (h : Closed cs) (rest : List Char) :
    names (pieces (cs ++ rest)) = names (pieces cs) ++ names (pieces rest) := by
  induction cs using pieces.induct with
  | case1 => simp [pieces, names]
  | case2 others name after hname _ ih =>
    have hafter : Closed after := by
      intro text htext
      refine h text ?_
      rw [pieces_placeholder hname]
      exact List.mem_cons_of_mem _ htext
    obtain ⟨hne, hchars, rfl⟩ := nameBefore?_eq_some_iff.mp hname
    have hlonger : nameBefore? (name ++ '}' :: after ++ rest) = some (name, after ++ rest) :=
      nameBefore?_eq_some_iff.mpr ⟨hne, hchars, by simp⟩
    rw [List.cons_append, pieces_placeholder hlonger, pieces_placeholder hname, names, names,
      ih hafter, List.cons_append]
  | case3 others hname ih =>
    rw [Closed, pieces_brace hname] at h
    rcases hpieces : pieces others with _ | ⟨text | name, ps⟩ <;>
      rw [hpieces] at h <;> exact absurd List.mem_cons_self (h _ List.mem_cons_self)
  | case4 c others hc ih =>
    rw [List.cons_append, pieces_cons_of_ne hc, pieces_cons_of_ne hc, names_consText,
      names_consText, ih ((closed_cons_iff hc).mp h)]

/-- The names of closed templates one after the other are those of all of them. -/
theorem placeholderNames_join {uris : List String} (h : ∀ uri ∈ uris, Closed uri.toList) :
    placeholderNames (String.join uris) = uris.flatMap placeholderNames := by
  induction uris with
  | nil => simp [String.join, placeholderNames, pieces, names]
  | cons uri rest ih =>
    rw [String.join_cons, placeholderNames, String.toList_append,
      (h uri List.mem_cons_self).names_append, List.map_append, List.flatMap_cons,
      ← ih fun other hother => h other (List.mem_cons_of_mem _ hother)]
    rfl

/-- Closed templates with other names make up what they do with their own exactly if each of them
has the names that it had. -/
theorem join_renamed_eq_iff {uris : List String} {fresh : String → List String}
    (hclosed : ∀ uri ∈ uris, Closed uri.toList) (hfresh : ∀ uri ∈ uris, NamesFor uri (fresh uri)) :
    String.join (uris.map fun uri => renamed uri (fresh uri)) = String.join uris ↔
      ∀ uri ∈ uris, fresh uri = placeholderNames uri := by
  have hnames : (uris.map fun uri => renamed uri (fresh uri)).flatMap placeholderNames =
      (uris.map fresh).flatten := by
    rw [List.flatMap_map, List.flatMap_def]
    congr 1
    exact List.map_congr_left fun uri huri => (hfresh uri huri).placeholderNames_renamed
  constructor
  · intro heq
    have hflat : (uris.map fresh).flatten = (uris.map placeholderNames).flatten := by
      rw [← hnames, ← List.flatMap_def, ← placeholderNames_join hclosed, ← heq,
        placeholderNames_join]
      intro other hother
      obtain ⟨uri, huri, rfl⟩ := List.mem_map.mp hother
      exact (hfresh uri huri).closed_renamed (hclosed uri huri)
    have hlengths : (uris.map fresh).map List.length =
        (uris.map placeholderNames).map List.length := by
      rw [List.map_map, List.map_map]
      exact List.map_congr_left fun uri huri => (hfresh uri huri).length_eq
    exact List.map_inj_left.mp (List.eq_iff_flatten_eq.mpr ⟨hflat, hlengths⟩)
  · intro heq
    have hsame : ∀ uri ∈ uris, renamed uri (fresh uri) = uri :=
      fun uri huri => (hfresh uri huri).renamed_eq_self_iff.mpr (heq uri huri)
    rw [List.map_congr_left hsame, List.map_id']

end ClientGen.Uri
