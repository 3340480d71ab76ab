import ClientGen.Proofs.Uri.Renaming

/-!
# Where placeholders stand

The placeholders that a template is read to have are all that stand in it, from left to right and
without overlap. A template consists of these and of the texts around them. Numbering the
placeholders keeps the texts and neither adds nor removes a placeholder, so that the names can be
put back, and numbering once more changes nothing.
-/

namespace ClientGen.Uri

variable {cs rest name : List Char} {c : Char} {ps : List Piece} {i start : Nat}

/-! ## Characters -/

/-- A character before the pieces moves all placeholders by one. -/
theorem placements_consText (start : Nat) (c : Char) (ps : List Piece) :
    placements start (consText c ps) = placements (start + 1) ps := by
  rcases ps with _ | ⟨cs | name, rest⟩
  · rfl
  · rw [consText, placements, placements, List.length_cons, Nat.add_assoc, Nat.add_comm 1]
  · rfl

/-- No placeholder stands before the start of its pieces. -/
theorem le_of_mem_placements (h : (i, name) ∈ placements start ps) : start ≤ i := by
  fun_induction placements start ps with
  | case1 start => cases h
  | case2 start cs rest ih =>
    have := ih h
    omega
  | case3 start found rest ih =>
    rcases List.mem_cons.mp h with heq | hrest
    · rw [(Prod.mk.inj heq).1]
    · have := ih hrest
      omega

/-- A placeholder ends before the next one starts. -/
theorem pairwise_placements (start : Nat) (ps : List Piece) :
    (placements start ps).Pairwise fun p q => p.1 + p.2.length + 2 ≤ q.1 := by
  fun_induction placements start ps with
  | case1 start => exact .nil
  | case2 start cs rest ih => exact ih
  | case3 start name rest ih => exact .cons (fun _ hlater => le_of_mem_placements hlater) ih

/-- The names of pieces are those of their placeholders in order. -/
theorem names_eq_map_placements (start : Nat) (ps : List Piece) :
    names ps = (placements start ps).map Prod.snd := by
  fun_induction placements start ps with
  | case1 start => rfl
  | case2 start cs rest ih => rw [names, ih]
  | case3 start name rest ih => rw [names, ih, List.map_cons]

/-- A placeholder with a name starts at a character of a template. -/
def StandsAt (cs : List Char) (i : Nat) (name : List Char) : Prop :=
  IsName name ∧ ∃ before after, cs = before ++ (Piece.placeholder name).chars ++ after ∧
    i = before.length

/-- No placeholder stands in an empty template. -/
theorem not_standsAt_nil : ¬StandsAt [] i name := by
  rintro ⟨-, before, after, hcs, -⟩
  simp [Piece.chars] at hcs

/-- A placeholder stands at the first character or in what follows. -/
theorem standsAt_cons_iff : StandsAt (c :: rest) i name ↔
    (c = '{' ∧ i = 0 ∧ ∃ after, nameBefore? rest = some (name, after)) ∨
      ∃ j, i = j + 1 ∧ StandsAt rest j name := by
  simp only [nameBefore?_eq_some_iff]
  constructor
  · rintro ⟨hname, before, after, hcs, rfl⟩
    cases before with
    | nil =>
      simp only [Piece.chars, List.nil_append, List.cons_append, List.append_assoc,
        List.cons.injEq] at hcs
      exact Or.inl ⟨hcs.1, rfl, after, hname.1, hname.2, hcs.2⟩
    | cons d before =>
      simp only [List.cons_append, List.cons.injEq] at hcs
      exact Or.inr ⟨before.length, List.length_cons, hname, before, after, hcs.2, rfl⟩
  · rintro (⟨rfl, rfl, after, hne, hchars, rfl⟩ | ⟨j, rfl, hname, before, after, rfl, rfl⟩)
    · exact ⟨⟨hne, hchars⟩, [], after, by simp [Piece.chars], rfl⟩
    · exact ⟨hname, c :: before, after, by simp, List.length_cons.symm⟩

/-- No placeholder starts before the first opening brace. -/
theorem standsAt_append_iff {pre : List Char} (hpre : '{' ∉ pre) :
    StandsAt (pre ++ rest) i name ↔ ∃ j, i = pre.length + j ∧ StandsAt rest j name := by
  induction pre generalizing i with
  | nil => simp
  | cons c pre ih =>
    rw [List.mem_cons, not_or] at hpre
    rw [List.cons_append, standsAt_cons_iff, or_iff_right fun h => hpre.1 h.1.symm]
    simp only [ih hpre.2, List.length_cons]
    constructor
    · rintro ⟨_, rfl, j, rfl, h⟩
      exact ⟨j, by omega, h⟩
    · rintro ⟨j, rfl, h⟩
      exact ⟨pre.length + j, by omega, j, rfl, h⟩

/-- Where no placeholder is read none starts, and all that start later are moved by a character. -/
theorem mem_placements_consText (hfree : ∀ after, c = '{' → nameBefore? rest ≠ some (name, after))
    (hrest : (i, name) ∈ placements (start + 1) (pieces rest) ↔
      ∃ j, i = start + 1 + j ∧ StandsAt rest j name) :
    (i, name) ∈ placements start (consText c (pieces rest)) ↔
      ∃ j, i = start + j ∧ StandsAt (c :: rest) j name := by
  rw [placements_consText, hrest]
  constructor
  · rintro ⟨j, rfl, h⟩
    exact ⟨j + 1, by omega, standsAt_cons_iff.mpr (Or.inr ⟨j, rfl, h⟩)⟩
  · rintro ⟨j, rfl, h⟩
    rcases standsAt_cons_iff.mp h with ⟨hc, -, after, hafter⟩ | ⟨k, rfl, hk⟩
    · exact absurd hafter (hfree after hc)
    · exact ⟨k, by omega, hk⟩

/-- The placeholders of a template are all that stand in it. -/
theorem mem_placements_iff : (i, name) ∈ placements start (pieces cs) ↔
    ∃ j, i = start + j ∧ StandsAt cs j name := by
  induction cs using pieces.induct generalizing start with
  | case1 => simp [pieces, placements, not_standsAt_nil]
  | case2 rest found after hname _ ih =>
    obtain ⟨-, hchars, hrest⟩ := nameBefore?_eq_some_iff.mp hname
    have hplain : '{' ∉ found ++ ['}'] := by
      rw [List.mem_append, not_or]
      exact ⟨fun h => absurd (hchars _ h) (by decide), by decide⟩
    have hsplit : rest = found ++ ['}'] ++ after := by rw [hrest]; simp
    have hlater (j : Nat) : StandsAt rest j name ↔
        ∃ k, j = found.length + 1 + k ∧ StandsAt after k name := by
      rw [hsplit, standsAt_append_iff hplain, List.length_append, List.length_singleton]
    have hafter : (i, name) ∈ placements (start + found.length + 2) (pieces after) ↔
        ∃ j, i = start + found.length + 2 + j ∧ StandsAt after j name := ih
    rw [pieces_placeholder hname, placements, List.mem_cons, hafter, Prod.mk.injEq]
    constructor
    · rintro (⟨rfl, rfl⟩ | ⟨j, rfl, h⟩)
      · exact ⟨0, by omega, standsAt_cons_iff.mpr (Or.inl ⟨rfl, rfl, after, hname⟩)⟩
      · refine ⟨found.length + 1 + j + 1, by omega, standsAt_cons_iff.mpr (Or.inr ⟨_, rfl, ?_⟩)⟩
        exact (hlater _).mpr ⟨j, rfl, h⟩
    · rintro ⟨j, rfl, h⟩
      rcases standsAt_cons_iff.mp h with ⟨-, rfl, more, hfound⟩ | ⟨k, rfl, hk⟩
      · obtain ⟨rfl, -⟩ := Prod.mk.inj (Option.some.inj (hname.symm.trans hfound))
        exact Or.inl ⟨rfl, rfl⟩
      · obtain ⟨m, rfl, hm⟩ := (hlater k).mp hk
        exact Or.inr ⟨m, by omega, hm⟩
  | case3 rest hname ih =>
    rw [pieces_brace hname]
    exact mem_placements_consText (by simp [hname]) ih
  | case4 c rest hc ih =>
    rw [pieces_cons_of_ne hc]
    exact mem_placements_consText (fun _ h => absurd h hc) ih

/-! ## Texts around placeholders -/

/-- The texts before, between and after the placeholders of pieces. -/
def textsAround : List Piece → List (List Char)
  | [] => [[]]
  | .text cs :: rest =>
    match textsAround rest with
    | [] => [cs]
    | first :: others => (cs ++ first) :: others
  | .placeholder _ :: rest => [] :: textsAround rest

/-- Texts with names in braces between them. -/
def weave : List String → List String → String
  | text :: texts, name :: names => text ++ "\x7b" ++ name ++ "\x7d" ++ weave texts names
  | text :: _, [] => text
  | [], _ => ""

/-- There is one text more than there are placeholders. -/
theorem length_textsAround (ps : List Piece) :
    (textsAround ps).length = (names ps).length + 1 := by
  fun_induction textsAround ps with
  | case1 => rfl
  | case2 cs rest hrest ih => simp [hrest] at ih
  | case3 cs rest first others hrest ih => rw [names, ← ih, hrest]; rfl
  | case4 name rest ih => rw [names, List.length_cons, List.length_cons, ih]

/-- A text before woven texts belongs to the first of them. -/
theorem weave_append (first second : String) (texts names : List String) :
    weave ((first ++ second) :: texts) names = first ++ weave (second :: texts) names := by
  cases names with
  | nil => rfl
  | cons name names => simp only [weave, String.append_assoc]

/-- A template with other names has the same texts around them. -/
theorem join_rename_eq_weave {fresh : List String} (h : fresh.length = (names ps).length) :
    String.ofList (join (rename ps (fresh.map String.toList))) =
      weave ((textsAround ps).map String.ofList) fresh := by
  fun_induction textsAround ps generalizing fresh with
  | case1 =>
    obtain rfl := List.length_eq_zero_iff.mp h
    rfl
  | case2 cs rest hrest ih =>
    have := length_textsAround rest
    simp [hrest] at this
  | case3 cs rest first others hrest ih =>
    have hrenamed := ih h
    rw [hrest, List.map_cons] at hrenamed
    rw [rename, List.map_cons, String.ofList_append, weave_append, ← hrenamed, join,
      List.flatMap_cons, ← join, String.ofList_append]
    rfl
  | case4 old rest ih =>
    obtain ⟨name, fresh, rfl⟩ := List.exists_cons_of_length_eq_add_one h
    rw [List.map_cons, List.map_cons, rename, weave, ← ih (Nat.succ.inj h), ← String.toList_inj]
    simp [join, Piece.chars]

/-! ## Bytes -/

/-- A placeholder in a template: the bytes that it takes up, with its braces, and its name. -/
structure Placed where
  start : Nat
  stop : Nat
  name : String

/-- The number of bytes before a character. -/
def bytesBefore (uri : String) (i : Nat) : Nat :=
  (String.ofList (uri.toList.take i)).utf8ByteSize

/-- The placeholders of a template, from left to right. -/
def placeholders (uri : String) : List Placed :=
  (placements 0 (pieces uri.toList)).map fun (i, name) =>
    ⟨bytesBefore uri i, bytesBefore uri (i + name.length + 2), String.ofList name⟩

/-- One or more characters other than braces stand between braces in a template. -/
def Placed.StandsIn (p : Placed) (uri : String) : Prop :=
  ∃ before after, uri = before ++ ("\x7b" ++ p.name ++ "\x7d") ++ after ∧ IsName p.name.toList ∧
    p.start = before.utf8ByteSize ∧
    p.stop = p.start + ("\x7b" ++ p.name ++ "\x7d").utf8ByteSize

/-- There are no fewer bytes before a later character. -/
theorem bytesBefore_le (uri : String) {i j : Nat} (h : i ≤ j) :
    bytesBefore uri i ≤ bytesBefore uri j := by
  obtain ⟨more, hmore⟩ := List.take_prefix_take_left (l := uri.toList) h
  rw [bytesBefore, bytesBefore, ← hmore, String.ofList_append, String.utf8ByteSize_append]
  exact Nat.le_add_right _ _

/-- The bytes before what follows a text are those of the text. -/
theorem bytesBefore_length {uri : String} {before after : List Char}
    (h : uri.toList = before ++ after) :
    bytesBefore uri before.length = (String.ofList before).utf8ByteSize := by
  rw [bytesBefore, h, List.take_left]

/-- The bytes before the end of a placeholder are its own and those of the text before it. -/
theorem bytesBefore_end {uri : String} {before after : List Char}
    (h : uri.toList = before ++ (Piece.placeholder name).chars ++ after) :
    bytesBefore uri (before.length + name.length + 2) = (String.ofList before).utf8ByteSize +
      (String.ofList (Piece.placeholder name).chars).utf8ByteSize := by
  have hlength : before.length + name.length + 2 =
      (before ++ (Piece.placeholder name).chars).length := by
    simp only [Piece.chars, List.length_append, List.length_cons, List.length_nil]
    omega
  rw [hlength, bytesBefore_length h, String.ofList_append, String.utf8ByteSize_append]

/-- A placeholder is written as its name in braces. -/
theorem chars_placeholder (name : List Char) : String.ofList (Piece.placeholder name).chars =
    "\x7b" ++ String.ofList name ++ "\x7d" := by
  rw [← String.toList_inj]
  simp [Piece.chars]

/-- The placeholders of a template are all that stand in it. -/
theorem mem_placeholders_iff (uri : String) (p : Placed) :
    p ∈ placeholders uri ↔ p.StandsIn uri := by
  simp only [placeholders, List.mem_map, Prod.exists, mem_placements_iff, Nat.zero_add,
    exists_eq_left']
  constructor
  · rintro ⟨_, name, ⟨hname, before, after, huri, rfl⟩, rfl⟩
    refine ⟨String.ofList before, String.ofList after, ?_, ?_, ?_, ?_⟩
    · rw [← chars_placeholder, ← String.ofList_append, ← String.ofList_append, ← huri,
        String.ofList_toList]
    · rwa [String.toList_ofList]
    · exact bytesBefore_length (huri.trans (List.append_assoc ..))
    · rw [bytesBefore_end huri, bytesBefore_length (huri.trans (List.append_assoc ..)),
        chars_placeholder]
  · rintro ⟨before, after, rfl, hname, hstart, hstop⟩
    have huri : (before ++ ("\x7b" ++ p.name ++ "\x7d") ++ after).toList =
        before.toList ++ (Piece.placeholder p.name.toList).chars ++ after.toList := by
      rw [← String.ofList_toList (s := p.name), ← chars_placeholder]
      simp
    refine ⟨before.toList.length, p.name.toList,
      ⟨hname, before.toList, after.toList, huri, rfl⟩, ?_⟩
    rw [bytesBefore_end huri, bytesBefore_length (huri.trans (List.append_assoc ..)),
      chars_placeholder, String.ofList_toList, String.ofList_toList, ← hstart, ← hstop]

/-- Every placeholder ends before the next one starts. -/
theorem pairwise_placeholders (uri : String) :
    (placeholders uri).Pairwise fun p q => p.stop ≤ q.start := by
  rw [placeholders, List.pairwise_map]
  exact (pairwise_placements 0 _).imp fun h => bytesBefore_le uri h

/-- The names of a template are those of its placeholders in order. -/
theorem placeholderNames_eq_map (uri : String) :
    placeholderNames uri = (placeholders uri).map Placed.name := by
  rw [placeholderNames, placeholders, names_eq_map_placements 0, List.map_map, List.map_map]
  rfl

/-! ## Numbered placeholders -/

/-- Names for the placeholders of an indexed template are names for those of the template. -/
theorem renamed_indexed {uri : String} {fresh : List String}
    (h : fresh.length = (placeholderNames uri).length) :
    renamed (indexed uri) fresh = renamed uri fresh := by
  have hrange := namesFor_range uri
  have hlength : (fresh.map String.toList).length = (names (pieces uri.toList)).length := by
    rw [List.length_map, h, placeholderNames, List.length_map]
  rw [indexed_eq_renamed, renamed, hrange.pieces_renamed, rename_rename hrange.length_chars hlength,
    renamed]

/-- A template with other names is woven from its texts and these names. -/
theorem renamed_eq_weave {uri : String} {fresh : List String}
    (h : fresh.length = (placeholderNames uri).length) :
    renamed uri fresh = weave ((textsAround (pieces uri.toList)).map String.ofList) fresh :=
  join_rename_eq_weave (h.trans (List.length_map _))

/-- Numbering placeholders a second time changes nothing. -/
theorem indexed_indexed (uri : String) : indexed (indexed uri) = indexed uri := by
  have hnames := placeholderNames_indexed uri
  have hlength : (placeholderNames (indexed uri)).length = (placeholderNames uri).length := by
    rw [hnames, List.length_map, List.length_range]
  rw [indexed_eq_renamed (indexed uri), hlength, ← hnames, renamed_placeholderNames]

/-- The placeholders of a template are all that stand in it, in their order and apart from each
other. Numbering gives them the numbers from zero on for names and keeps the texts around them, so
that the names put back lead to the template, and numbering once more changes nothing. -/
theorem indexed_placeholders (uri : String) :
    (∀ p, p ∈ placeholders uri ↔ p.StandsIn uri) ∧
    (placeholders uri).Pairwise (fun p q => p.stop ≤ q.start) ∧
    placeholderNames uri = (placeholders uri).map Placed.name ∧
    placeholderNames (indexed uri) = (List.range (placeholders uri).length).map toString ∧
    (∃ texts, texts.length = (placeholders uri).length + 1 ∧
      uri = weave texts (placeholderNames uri) ∧
      indexed uri = weave texts (placeholderNames (indexed uri)) ∧
      ∀ fresh, fresh.length = (placeholders uri).length →
        renamed (indexed uri) fresh = weave texts fresh) ∧
    renamed (indexed uri) (placeholderNames uri) = uri ∧
    indexed (indexed uri) = indexed uri := by
  have hcount : (placeholders uri).length = (placeholderNames uri).length := by
    rw [placeholderNames_eq_map, List.length_map]
  have hnumbers := placeholderNames_indexed uri
  have hback : renamed (indexed uri) (placeholderNames uri) = uri := by
    rw [renamed_indexed rfl, renamed_placeholderNames]
  refine ⟨mem_placeholders_iff uri, pairwise_placeholders uri, placeholderNames_eq_map uri,
    by rw [hnumbers, hcount], ⟨(textsAround (pieces uri.toList)).map String.ofList, ?_, ?_, ?_, ?_⟩,
    hback, indexed_indexed uri⟩
  · rw [List.length_map, length_textsAround, hcount, placeholderNames, List.length_map]
  · rw [← renamed_eq_weave rfl, renamed_placeholderNames]
  · rw [hnumbers, ← renamed_eq_weave (by rw [List.length_map, List.length_range]),
      indexed_eq_renamed]
  · intro fresh hfresh
    rw [renamed_indexed (hfresh.trans hcount), renamed_eq_weave (hfresh.trans hcount)]

end ClientGen.Uri
