import ClientGen.Text.Replace
import Mathlib.Data.List.Basic

/-!
# The lines of a text

A line ends with a line feed, and a carriage return before the line feed belongs to its end as well.
What follows the last line feed is a line if it is not empty; a carriage return that ends it is part
of it. Every text has lines in just one way, and these are found by going through the text once.
-/

namespace ClientGen.Text

variable {cs line rest given : List Char} {lines : List (List Char)}

/-- A text has these lines. -/
inductive HasLines : List Char → List (List Char) → Prop where
  | nil : HasLines [] []
  | last {line : List Char} : line ≠ [] → '\n' ∉ line → HasLines line [line]
  | feed {line rest : List Char} {lines : List (List Char)} : '\n' ∉ line →
    line.getLast? ≠ some '\r' → HasLines rest lines →
    HasLines (line ++ '\n' :: rest) (line :: lines)
  | returnFeed {line rest : List Char} {lines : List (List Char)} : '\n' ∉ line →
    HasLines rest lines → HasLines (line ++ '\r' :: '\n' :: rest) (line :: lines)

/-- No line has a line feed in it. -/
theorem HasLines.newline_not_mem (h : HasLines cs lines) : ∀ line ∈ lines, '\n' ∉ line := by
  induction h with
  | nil => exact List.forall_mem_nil _
  | last _ hline => exact List.forall_mem_singleton.mpr hline
  | feed hline _ _ ih => exact List.forall_mem_cons.mpr ⟨hline, ih⟩
  | returnFeed hline _ ih => exact List.forall_mem_cons.mpr ⟨hline, ih⟩

/-- A character that is no line feed continues the current line. -/
theorem linesFrom_cons {c : Char} (hc : c ≠ '\n') (given rest : List Char) :
    linesFrom given (c :: rest) = linesFrom (c :: given) rest := by
  rw [linesFrom]
  exact hc

/-- Characters before the next line feed continue the current line. -/
theorem linesFrom_append (hline : '\n' ∉ line) (given rest : List Char) :
    linesFrom given (line ++ rest) = linesFrom (line.reverse ++ given) rest := by
  induction line generalizing given with
  | nil => rfl
  | cons c line ih =>
    have hc : c ≠ '\n' := (List.ne_of_not_mem_cons hline).symm
    rw [List.cons_append, linesFrom_cons hc, ih (List.not_mem_of_not_mem_cons hline)]
    simp

/-- The current line, last character first, loses just a carriage return at its end. -/
theorem reverse_dropReturn_reverse (hline : line.getLast? ≠ some '\r') :
    (dropReturn line.reverse).reverse = line := by
  unfold dropReturn
  split
  next rest heq =>
    have hlast : line.getLast? = some '\r' := by
      rw [← List.reverse_reverse line, heq]
      simp
    exact absurd hlast hline
  next => exact List.reverse_reverse line

/-- The lines that a text has are found. -/
theorem HasLines.linesFrom_eq (h : HasLines cs lines) : linesFrom [] cs = lines := by
  induction h with
  | nil => rfl
  | @last line hne hline =>
    have hfound := linesFrom_append hline [] []
    rw [List.append_nil, List.append_nil] at hfound
    rw [hfound, linesFrom, if_neg (by simpa using hne), List.reverse_reverse]
  | feed hline hlast _ ih =>
    rw [linesFrom_append hline, List.append_nil, linesFrom, reverse_dropReturn_reverse hlast, ih]
  | @returnFeed line rest lines hline _ ih =>
    rw [linesFrom_append hline, List.append_nil, linesFrom_cons (by decide), linesFrom, ih]
    simp [dropReturn]

/-- The lines that are found are those of the text, of which the current line has been read. -/
theorem hasLines_linesFrom (hgiven : '\n' ∉ given) :
    HasLines (given.reverse ++ cs) (linesFrom given cs) := by
  fun_induction linesFrom given cs with
  | case1 => exact .nil
  | case2 given hne =>
    rw [List.append_nil]
    exact .last (by simpa using hne) (by simpa using hgiven)
  | case3 given rest ih =>
    have hrest := ih List.not_mem_nil
    unfold dropReturn
    split
    next line =>
      have hline : '\n' ∉ line := fun hmem => hgiven (List.mem_cons_of_mem _ hmem)
      rw [List.reverse_cons, List.append_assoc, List.singleton_append]
      exact .returnFeed (by simpa using hline) hrest
    next hreturn =>
      refine .feed (by simpa using hgiven) ?_ hrest
      rw [List.getLast?_reverse]
      intro hhead
      obtain ⟨line, rfl⟩ := List.head?_eq_some_iff.mp hhead
      exact hreturn line rfl
  | case4 given c rest hc ih =>
    have hnext : '\n' ∉ c :: given :=
      List.not_mem_cons_of_ne_of_not_mem (fun heq => hc heq.symm) hgiven
    simpa using ih hnext

/-- Every text has lines in just one way. -/
theorem hasLines_iff : HasLines cs lines ↔ lines = linesFrom [] cs := by
  constructor
  · intro h
    exact h.linesFrom_eq.symm
  · rintro rfl
    exact hasLines_linesFrom List.not_mem_nil

/-- A text without line feeds is one line, unless it is empty. -/
theorem hasLines_of_newline_not_mem (h : '\n' ∉ cs) :
    HasLines cs (if cs = [] then [] else [cs]) := by
  split
  next hempty =>
    subst hempty
    exact .nil
  next hne => exact .last hne h

end ClientGen.Text
