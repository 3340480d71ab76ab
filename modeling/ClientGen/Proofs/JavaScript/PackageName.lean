import ClientGen.JavaScript.Helper
import ClientGen.Proofs.Text.Joined
import ClientGen.Proofs.Text.Words

/-!
# Names of packages

The name of a package is made in one pass over the title, which writes a hyphen as soon as a row of
letters and digits has ended and takes back the last one if no other row follows. What it makes are
the rows in small letters with a hyphen between any two of them.
-/

namespace ClientGen.JavaScript

variable {c : Char} {cs row after : List Char} {rows : List (List Char)} {title : String}

/-! ## Letters and digits -/

/-- The small letters of ASCII are the usual ones, and other characters stay as they are. -/
theorem smallLetter_eq_toLower (c : Char) : smallLetter c = c.toLower := by
  by_cases hascii : c.toNat < 0x80
  · exact Text.forall_ascii (p := fun c => smallLetter c = c.toLower) (by decide) hascii
  · rw [smallLetter, if_neg (Text.not_capital_of_not_ascii hascii),
      Text.toLower_of_not_ascii hascii]

/-- An ASCII letter or digit becomes a small letter or a digit. -/
theorem isSmall_toLower (hascii : c.toNat < 0x80) (hc : Text.isAlphanumeric c = true) :
    Text.isSmall c.toLower = true := by
  rw [Text.isAlphanumeric_of_ascii hascii] at hc
  exact Text.forall_ascii (p := fun c => c.isAlphanum = true → Text.isSmall c.toLower = true)
    (by decide) hascii hc

/-- The small letter of an alphanumeric character is no hyphen. -/
theorem toLower_ne_hyphen (hc : Text.isAlphanumeric c = true) : c.toLower ≠ '-' := by
  by_cases hascii : c.toNat < 0x80
  · have hsmall := isSmall_toLower hascii hc
    intro heq
    rw [heq] at hsmall
    exact absurd hsmall (by decide)
  · rw [Text.toLower_of_not_ascii hascii]
    rintro rfl
    exact hascii (by decide)

/-! ## One pass -/

/-- A character that is not alphanumeric becomes a hyphen, unless there is one before it. -/
theorem hyphenated_cons_of_false (hc : Text.isAlphanumeric c = false) (cs : List Char) :
    hyphenated true (c :: cs) = hyphenated true cs ∧
      hyphenated false (c :: cs) = '-' :: hyphenated true cs := by
  simp [hyphenated, hc]

/-- Characters that are not alphanumeric are skipped after a hyphen. -/
theorem hyphenated_append_of_false {before : List Char}
    (h : ∀ c ∈ before, Text.isAlphanumeric c = false) (cs : List Char) :
    hyphenated true (before ++ cs) = hyphenated true cs := by
  induction before with
  | nil => rfl
  | cons c before ih =>
    obtain ⟨hc, hbefore⟩ := List.forall_mem_cons.mp h
    rw [List.cons_append, (hyphenated_cons_of_false hc _).1, ih hbefore]

/-- A row is written in small letters, and what comes after it may begin with a hyphen. -/
theorem hyphenated_append_of_true (afterHyphen : Bool) (hne : row ≠ [])
    (hrow : ∀ c ∈ row, Text.isAlphanumeric c = true) (after : List Char) :
    hyphenated afterHyphen (row ++ after) = row.map Char.toLower ++ hyphenated false after := by
  induction row generalizing afterHyphen with
  | nil => exact absurd rfl hne
  | cons c row ih =>
    obtain ⟨hc, hrow⟩ := List.forall_mem_cons.mp hrow
    rw [List.cons_append, hyphenated, if_pos hc, smallLetter_eq_toLower, List.map_cons,
      List.cons_append]
    cases row with
    | nil => rfl
    | cons next row => rw [ih false (List.cons_ne_nil next row) hrow]

/-- The hyphen after a row is taken back if no other row follows. -/
theorem dropEndWhile_hyphenated_false (h : ∀ c ∈ after.head?, Text.isAlphanumeric c = false) :
    Text.dropEndWhile (· == '-') (hyphenated false after) =
      if Text.dropEndWhile (· == '-') (hyphenated true after) = [] then []
      else '-' :: Text.dropEndWhile (· == '-') (hyphenated true after) := by
  cases after with
  | nil => rfl
  | cons c after =>
    have hc : Text.isAlphanumeric c = false := h c rfl
    obtain ⟨hskipped, hwritten⟩ := hyphenated_cons_of_false hc after
    rw [hskipped, hwritten, Text.dropEndWhile_cons]
    rfl

/-- The rows of a text with small letters for their ASCII capitals. -/
def smallRows (rows : List (List Char)) : List (List Char) :=
  rows.map fun row => row.map Char.toLower

/-- The first word in small letters comes before the others. -/
theorem smallRows_cons (row : List Char) (rows : List (List Char)) :
    smallRows (row :: rows) = row.map Char.toLower :: smallRows rows :=
  rfl

/-- A word is not empty and made of alphanumeric characters of the text in small letters. -/
theorem of_mem_smallRows {word : List Char} (h : Text.HasRows Text.isAlphanumeric cs rows)
    (hword : word ∈ smallRows rows) : word ≠ [] ∧
      ∀ c ∈ word, ∃ d ∈ cs, Text.isAlphanumeric d = true ∧ d.toLower = c := by
  obtain ⟨row, hrow, rfl⟩ := List.mem_map.mp hword
  refine ⟨?_, fun c hc => ?_⟩
  · have hne := h.ne_nil row hrow
    simpa using hne
  · obtain ⟨d, hd, rfl⟩ := List.mem_map.mp hc
    obtain ⟨hmem, halphanumeric⟩ := h.of_mem hrow hd
    exact ⟨d, hmem, halphanumeric, rfl⟩

/-- Where there is a word, the words with hyphens between them are not empty. -/
theorem intercalate_smallRows_ne_nil (h : Text.HasRows Text.isAlphanumeric cs (row :: rows)) :
    ['-'].intercalate (smallRows (row :: rows)) ≠ [] :=
  Text.intercalate_ne_nil (of_mem_smallRows h List.mem_cons_self).1 _

/-- What is left of a title are its rows with a hyphen between any two of them. A row has no
hyphens, so at most those after it are taken back. -/
theorem dropEndWhile_hyphenated_true (h : Text.HasRows Text.isAlphanumeric cs rows) :
    Text.dropEndWhile (· == '-') (hyphenated true cs) = ['-'].intercalate (smallRows rows) := by
  induction h with
  | @none cs hnone =>
    have hskipped := hyphenated_append_of_false hnone []
    rw [List.append_nil] at hskipped
    rw [hskipped]
    rfl
  | @row before row after rows hbefore hne hrow hafter hlater ih =>
    have hletters : ∀ c ∈ row.map Char.toLower, (c == '-') = false := by
      intro c hc
      obtain ⟨d, hd, rfl⟩ := List.mem_map.mp hc
      exact beq_false_of_ne (toLower_ne_hyphen (hrow d hd))
    rw [hyphenated_append_of_false hbefore, hyphenated_append_of_true true hne hrow,
      Text.dropEndWhile_append hletters, dropEndWhile_hyphenated_false hafter, ih,
      smallRows_cons]
    cases rows with
    | nil =>
      have hempty : ['-'].intercalate (smallRows []) = [] := rfl
      have hsingle : smallRows [] = [] := rfl
      rw [if_pos hempty, hsingle, List.append_nil, List.intercalate_singleton]
    | cons next rows =>
      rw [if_neg (intercalate_smallRows_ne_nil hlater), smallRows_cons,
        List.intercalate_cons_cons, List.append_assoc, List.singleton_append]

/-! ## Names -/

/-- The words of a name before its last one. -/
def leadingWords (rows : List (List Char)) : List (List Char) :=
  if rows = [] then ["api".toList] else smallRows rows

/-- A package is named after the leading words of its title and as a client. -/
theorem packageName_eq (h : Text.HasRows Text.isAlphanumeric title.toList rows) :
    packageName title = String.ofList (['-'].intercalate (leadingWords rows)) ++ "-client" := by
  rw [packageName, dropEndWhile_hyphenated_true h]
  cases rows with
  | nil => rfl
  | cons row rows =>
    rw [leadingWords, if_neg (List.cons_ne_nil row rows)]
    split
    next hnil => exact absurd hnil (intercalate_smallRows_ne_nil h)
    next => rw [String.ofList_append, String.ofList_toList]

/-- The characters of the name are those of the leading words and of the last one. -/
theorem toList_packageName (h : Text.HasRows Text.isAlphanumeric title.toList rows) :
    (packageName title).toList =
      ['-'].intercalate (leadingWords rows) ++ '-' :: "client".toList := by
  rw [packageName_eq h, String.toList_append, String.toList_ofList]
  rfl

/-- A leading word is not empty and has no hyphens. -/
theorem of_mem_leadingWords {word : List Char}
    (h : Text.HasRows Text.isAlphanumeric title.toList rows) (hword : word ∈ leadingWords rows) :
    word ≠ [] ∧ '-' ∉ word := by
  rw [leadingWords] at hword
  split at hword
  next =>
    obtain rfl := List.mem_singleton.mp hword
    decide
  next =>
    obtain ⟨hne, hletters⟩ := of_mem_smallRows h hword
    refine ⟨hne, fun hhyphen => ?_⟩
    obtain ⟨d, -, halphanumeric, heq⟩ := hletters '-' hhyphen
    exact toLower_ne_hyphen halphanumeric heq

/-- The leading words of an ASCII title have small letters and digits only. -/
theorem isSmall_of_mem_leadingWords {word : List Char}
    (h : Text.HasRows Text.isAlphanumeric title.toList rows)
    (hascii : ∀ c ∈ title.toList, c.toNat < 0x80) (hword : word ∈ leadingWords rows)
    (hc : c ∈ word) : Text.isSmall c = true := by
  rw [leadingWords] at hword
  split at hword
  next =>
    obtain rfl := List.mem_singleton.mp hword
    have hsmall : "api".toList.all Text.isSmall = true := rfl
    exact List.all_eq_true.mp hsmall c hc
  next =>
    obtain ⟨d, hd, halphanumeric, rfl⟩ := (of_mem_smallRows h hword).2 c hc
    exact isSmall_toLower (hascii d hd) halphanumeric

/-- The leading words are never empty, as there is one in place of none. -/
theorem intercalate_leadingWords_ne_nil (h : Text.HasRows Text.isAlphanumeric title.toList rows) :
    ['-'].intercalate (leadingWords rows) ≠ [] := by
  cases rows with
  | nil => decide
  | cons row rows => exact intercalate_smallRows_ne_nil h

/-- What the name of the package for a title is. -/
structure NamedFor (title name : String) : Prop where
  /-- A title without letters and digits has a name of its own. -/
  fallback : (∀ c ∈ title.toList, Text.isAlphanumeric c = false) → name = "api-client"
  /-- The maximal rows of letters and digits are joined in small letters, and one word follows. -/
  joined : (∃ c ∈ title.toList, Text.isAlphanumeric c = true) → ∃ rows,
    (∀ other, Text.HasRows Text.isAlphanumeric title.toList other ↔ other = rows) ∧
      name = String.ofList (['-'].intercalate (smallRows rows)) ++ "-client"
  /-- No hyphen is at an end of the name or after another one. -/
  apart : Text.Apart '-' name.toList
  /-- A title of ASCII characters has a name of small letters, digits and hyphens. -/
  ascii : (∀ c ∈ title.toList, c.toNat < 0x80) →
    ∀ c ∈ name.toList, Text.isSmall c = true ∨ c = '-'

/-- Every title gives the name that is meant for it. -/
theorem packageName_namedFor (title : String) : NamedFor title (packageName title) := by
  have hrows := Text.hasRows_rows Text.isAlphanumeric title.toList
  have hclient : '-' ∉ "client".toList := by decide
  refine ⟨fun hnone => ?_, fun ⟨c, hc, halphanumeric⟩ => ?_, ?_, fun hascii c hc => ?_⟩
  · exact packageName_eq (Text.hasRows_nil_iff.mpr hnone)
  · refine ⟨_, fun other => Text.hasRows_iff, ?_⟩
    have hne : Text.rows Text.isAlphanumeric title.toList ≠ [] := by
      intro hnil
      rw [hnil, Text.hasRows_nil_iff] at hrows
      rw [hrows c hc] at halphanumeric
      cases halphanumeric
    rw [packageName_eq hrows, leadingWords, if_neg hne]
  · rw [toList_packageName hrows]
    have hwords := Text.apart_intercalate fun _ => of_mem_leadingWords hrows
    exact hwords.join (Text.apart_of_not_mem hclient) (intercalate_leadingWords_ne_nil hrows)
      (by decide)
  · rw [toList_packageName hrows, List.mem_append, List.mem_cons] at hc
    rcases hc with hwords | rfl | hlast
    · rcases Text.mem_of_mem_intercalate hwords with rfl | ⟨word, hword, hmem⟩
      · exact Or.inr rfl
      · exact Or.inl (isSmall_of_mem_leadingWords hrows hascii hword hmem)
    · exact Or.inr rfl
    · have hsmall : "client".toList.all Text.isSmall = true := rfl
      exact Or.inl (List.all_eq_true.mp hsmall c hlast)

example : packageName "  My  Cool -- API!  " = "my-cool-api-client" := by decide

end ClientGen.JavaScript
