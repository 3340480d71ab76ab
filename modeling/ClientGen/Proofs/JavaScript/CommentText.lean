import ClientGen.Proofs.JavaScript.Comments
import ClientGen.Proofs.Text.Joined
import ClientGen.Proofs.Text.Lines

/-!
# Texts inside comments

A value is written into a comment on one line: the lines of its text with a space between them, in
which a backslash stands in the end of every comment. Breaking up the ends of comments neither adds
nor removes ends of lines, and a space between lines keeps the asterisk before it from the slash
after it. So it does not matter which of the two is done first, and no end of a comment is left.
-/

namespace ClientGen.JavaScript

variable {cs ds cs' ds' : List Char} {c : Char} {lines : List (List Char)}

/-! ## Broken up ends -/

/-- A text with a backslash in every end of a comment, and otherwise as it was. -/
inductive BreaksEnds : List Char → List Char → Prop where
  | nil : BreaksEnds [] []
  | keep {c : Char} {cs ds : List Char} : ¬(c = '*' ∧ cs.head? = some '/') → BreaksEnds cs ds →
    BreaksEnds (c :: cs) (c :: ds)
  | split {cs ds : List Char} : BreaksEnds cs ds →
    BreaksEnds ('*' :: '/' :: cs) ('*' :: '\\' :: '/' :: ds)

/-- Breaking up ends of comments breaks up just those. -/
theorem breaksEnds_broken (cs : List Char) : BreaksEnds cs (broken 0 cs) := by
  cases cs with
  | nil => exact .nil
  | cons c rest =>
    rw [broken_cons]
    split
    next hend =>
      obtain ⟨rfl, hslash⟩ := hend
      obtain ⟨after, rfl⟩ := List.head?_eq_some_iff.mp hslash
      exact .split (breaksEnds_broken after)
    next hkeep => exact .keep hkeep (breaksEnds_broken rest)
termination_by cs.length

/-- There is one way to break up the ends of comments in a text. -/
theorem BreaksEnds.broken_eq (h : BreaksEnds cs ds) : broken 0 cs = ds := by
  induction h with
  | nil => rfl
  | keep hkeep _ ih => rw [broken_cons, if_neg hkeep, ih]
  | @split cs ds _ ih =>
    have hskip : broken 1 ('/' :: cs) = broken 0 cs := rfl
    rw [broken_cons, if_pos ⟨rfl, rfl⟩, hskip, ih]

/-- The ends of comments are broken up in just one way. -/
theorem breaksEnds_iff : BreaksEnds cs ds ↔ ds = broken 0 cs := by
  constructor
  · intro h
    exact h.broken_eq.symm
  · rintro rfl
    exact breaksEnds_broken cs

/-- A text that ends no comment stays as it is. -/
theorem broken_eq_self (h : ¬EndsComment cs) : broken 0 cs = cs := by
  induction cs with
  | nil => rfl
  | cons c rest ih =>
    rw [endsComment_cons, not_or] at h
    rw [broken_cons, if_neg h.1, ih h.2]

/-- Two texts are broken up apart if the second one starts with no slash. -/
theorem BreaksEnds.append (h : BreaksEnds cs ds) (h' : BreaksEnds cs' ds')
    (hhead : cs'.head? ≠ some '/') : BreaksEnds (cs ++ cs') (ds ++ ds') := by
  induction h with
  | nil => exact h'
  | @keep c cs ds hkeep _ ih =>
    refine .keep ?_ ih
    rintro ⟨rfl, hslash⟩
    cases cs with
    | nil => exact hhead hslash
    | cons next cs => exact hkeep ⟨rfl, hslash⟩
  | split _ ih => exact .split ih

/-- Two texts are broken up one by one, unless the second starts with a slash. -/
theorem broken_append (cs : List Char) (hhead : ds.head? ≠ some '/') :
    broken 0 (cs ++ ds) = broken 0 cs ++ broken 0 ds :=
  ((breaksEnds_broken cs).append (breaksEnds_broken ds) hhead).broken_eq

/-- The last character stays. -/
theorem BreaksEnds.getLast?_eq (h : BreaksEnds cs ds) : ds.getLast? = cs.getLast? := by
  induction h with
  | nil => rfl
  | keep _ _ ih => rw [List.getLast?_cons, List.getLast?_cons, ih]
  | split _ ih => simp only [List.getLast?_cons, ih, Option.getD_some]

/-- Only backslashes are new. -/
theorem BreaksEnds.mem_iff (h : BreaksEnds cs ds) (hc : c ≠ '\\') : c ∈ ds ↔ c ∈ cs := by
  induction h with
  | nil => exact Iff.rfl
  | keep _ _ ih => rw [List.mem_cons, List.mem_cons, ih]
  | split _ ih => simp only [List.mem_cons, ih, hc, false_or]

/-! ## Lines -/

/-- A text has its ends of lines where it had them before the ends of comments were broken up. -/
theorem hasLines_broken (h : Text.HasLines cs lines) :
    Text.HasLines (broken 0 cs) (lines.map (broken 0)) := by
  have hnewline (line : List Char) (hline : '\n' ∉ line) : '\n' ∉ broken 0 line := by
    rwa [(breaksEnds_broken line).mem_iff (by decide)]
  induction h with
  | nil => exact .nil
  | @last line hne hline =>
    refine .last ?_ (hnewline line hline)
    rwa [ne_eq, ← List.getLast?_eq_none_iff, (breaksEnds_broken line).getLast?_eq,
      List.getLast?_eq_none_iff]
  | @feed line rest lines hline hlast _ ih =>
    have hsplit : broken 0 (line ++ '\n' :: rest) = broken 0 line ++ '\n' :: broken 0 rest := by
      rw [broken_append line (by simp), broken_cons, if_neg (by simp)]
    rw [hsplit]
    exact .feed (hnewline line hline) (by rwa [(breaksEnds_broken line).getLast?_eq]) ih
  | @returnFeed line rest lines hline _ ih =>
    have hsplit : broken 0 (line ++ '\r' :: '\n' :: rest) =
        broken 0 line ++ '\r' :: '\n' :: broken 0 rest := by
      rw [broken_append line (by simp), broken_cons, if_neg (by simp), broken_cons,
        if_neg (by simp)]
    rw [hsplit]
    exact .returnFeed (hnewline line hline) ih

/-- Lines with spaces between them are broken up one by one. -/
theorem broken_intercalate (lines : List (List Char)) :
    broken 0 ([' '].intercalate lines) = [' '].intercalate (lines.map (broken 0)) := by
  induction lines with
  | nil => rfl
  | cons line rest ih =>
    cases rest with
    | nil => rw [List.map_singleton, List.intercalate_singleton, List.intercalate_singleton]
    | cons next rest =>
      rw [List.map_cons] at ih
      rw [List.map_cons, List.map_cons, List.intercalate_cons_cons, List.intercalate_cons_cons,
        List.append_assoc, broken_append line (by simp), List.singleton_append, broken_cons,
        if_neg (by simp), ih, List.append_assoc, List.singleton_append]

/-- Lines that are joined by blanks have no line feed between them. -/
theorem newline_not_mem_intercalate (h : ∀ line ∈ lines, '\n' ∉ line) :
    '\n' ∉ [' '].intercalate lines := by
  intro hmem
  rcases Text.mem_of_mem_intercalate hmem with hblank | ⟨line, hline, hnewline⟩
  · exact absurd hblank (by decide)
  · exact h line hline hnewline

/-! ## Values -/

/-- What it means that a text stands for another one inside a comment. -/
structure OnOneLine (s t : String) : Prop where
  /-- It does not end the comment. -/
  contained : ¬EndsComment t.toList
  /-- It stays on its line. -/
  unbroken : '\n' ∉ t.toList
  /-- A text on one line that ends no comment is written as it is. -/
  unchanged : ¬EndsComment s.toList → '\n' ∉ s.toList → t = s
  /-- The lines of the text are put on one line, and then the ends of comments are broken up. -/
  joined_first : ∃ lines, (∀ other, Text.HasLines s.toList other ↔ other = lines) ∧
    ∀ other, BreaksEnds ([' '].intercalate lines) other ↔ other = t.toList
  /-- The ends of comments are broken up, and then the lines of the result are put on one line. -/
  broken_first : ∃ broken lines, (∀ other, BreaksEnds s.toList other ↔ other = broken) ∧
    (∀ other, Text.HasLines broken other ↔ other = lines) ∧ t.toList = [' '].intercalate lines

/-- The text of a comment is what is left of its lines on one line. -/
theorem onOneLine_commentText (s : String) : OnOneLine s (commentText s) := by
  have hlines : Text.HasLines s.toList (Text.linesFrom [] s.toList) := Text.hasLines_iff.mpr rfl
  have hbroken := hasLines_broken hlines
  have hjoined : (commentText s).toList =
      broken 0 ([' '].intercalate (Text.linesFrom [] s.toList)) := by
    rw [toList_commentText, ← Text.hasLines_iff.mp hbroken, broken_intercalate]
  refine ⟨not_endsComment_commentText s, ?_, fun hends hnewline => ?_, ?_, ?_⟩
  · rw [toList_commentText, ← Text.hasLines_iff.mp hbroken]
    exact newline_not_mem_intercalate hbroken.newline_not_mem
  · apply String.toList_injective
    have hone := Text.hasLines_iff.mp (Text.hasLines_of_newline_not_mem hnewline)
    rw [toList_commentText, broken_eq_self hends, ← hone]
    split
    next hempty => rw [hempty, List.intercalate_nil]
    next => rw [List.intercalate_singleton]
  · refine ⟨_, fun other => Text.hasLines_iff, fun other => ?_⟩
    rw [breaksEnds_iff, hjoined]
  · exact ⟨_, _, fun other => breaksEnds_iff, fun other => Text.hasLines_iff, toList_commentText s⟩

/-- A value that is there is written into a comment on one line, and so that it does not end the
comment. -/
theorem commentHelper_onOneLine (context : Context) {value : Value} (h : value.isAbsent = false)
    (args : List Value) : ∃ t, commentHelper context (value :: args) = .ok (.text t) ∧
      OnOneLine (value.display context) t := by
  refine ⟨commentText (value.display context), ?_, onOneLine_commentText _⟩
  simp [commentHelper, onArgument, h]

/-- A text with an end of a comment after another asterisk, and an asterisk and a slash on two
lines. -/
def starredText : String := "a **/ b *\r\n/ c"

/-- Only the end on the first line is broken up; the asterisk and the slash stay apart. -/
theorem starredText_onOneLine :
    (Value.text starredText).isAbsent = false ∧
      ∃ t, commentHelper (Context.build Tree.plainFormat {} .fresh).1 [.text starredText] =
          .ok (.text t) ∧
        OnOneLine ((Value.text starredText).display (Context.build Tree.plainFormat {} .fresh).1)
          t ∧ t = "a **\\/ b * / c" := by
  let context := (Context.build Tree.plainFormat {} .fresh).1
  have hpresent : (Value.text starredText).isAbsent = false := rfl
  obtain ⟨t, ht, hone⟩ := commentHelper_onOneLine context hpresent []
  have hwritten : commentHelper context [.text starredText] =
      .ok (.text (commentText starredText)) := by
    simp [commentHelper, onArgument, Value.isAbsent, Value.display_text]
  obtain rfl : commentText starredText = t :=
    Value.text.inj (Except.ok.inj (hwritten.symm.trans ht))
  exact ⟨hpresent, _, ht, hone, by decide +kernel⟩

end ClientGen.JavaScript
