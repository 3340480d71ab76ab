import Mathlib.Data.List.Chain

/-!
# Texts joined by a character

Words are joined by writing a character between any two of them. If no word is empty or has the
character in it, then the character stands neither at an end of the result nor after itself.
-/

namespace ClientGen.Text

variable {sep c : Char} {cs ds : List Char} {words : List (List Char)}

/-- A character of joined words is the separator or in one of the words. -/
theorem mem_of_mem_intercalate (h : c ∈ [sep].intercalate words) :
    c = sep ∨ ∃ word ∈ words, c ∈ word := by
  induction words with
  | nil => cases h
  | cons word rest ih =>
    cases rest with
    | nil =>
      rw [List.intercalate_singleton] at h
      exact Or.inr ⟨word, List.mem_cons_self, h⟩
    | cons next rest =>
      rw [List.intercalate_cons_cons, List.append_assoc, List.singleton_append, List.mem_append,
        List.mem_cons] at h
      rcases h with hword | hsep | hlater
      · exact Or.inr ⟨word, List.mem_cons_self, hword⟩
      · exact Or.inl hsep
      · exact (ih hlater).imp_right fun ⟨other, hother, hc⟩ =>
          ⟨other, List.mem_cons_of_mem word hother, hc⟩

/-- Joined words are not empty if the first one is not. -/
theorem intercalate_ne_nil {word : List Char} (hne : word ≠ []) (rest : List (List Char)) :
    [sep].intercalate (word :: rest) ≠ [] := by
  cases rest with
  | nil => rwa [List.intercalate_singleton]
  | cons next rest =>
    rw [List.intercalate_cons_cons]
    simp

/-- The character stands neither at an end of the text nor after itself. -/
structure Apart (sep : Char) (cs : List Char) : Prop where
  head : cs.head? ≠ some sep
  last : cs.getLast? ≠ some sep
  once : ¬[sep, sep] <:+: cs

/-- A separator does not stand twice in a row exactly if no two neighbours are separators. -/
theorem not_infix_pair_iff : ¬[sep, sep] <:+: cs ↔ cs.IsChain fun c d => ¬(c = sep ∧ d = sep) := by
  rw [List.isChain_iff_forall_rel_of_append_cons_cons]
  constructor
  · rintro h c d before after rfl ⟨rfl, rfl⟩
    exact h ⟨before, after, by simp⟩
  · rintro h ⟨before, after, rfl⟩
    have hpair : before ++ [sep, sep] ++ after = before ++ sep :: sep :: after := by simp
    exact h hpair ⟨rfl, rfl⟩

/-- A separator that does not occur stands apart. -/
theorem apart_of_not_mem (h : sep ∉ cs) : Apart sep cs := by
  refine ⟨?_, ?_, ?_⟩
  · intro hhead
    exact h (List.mem_of_mem_head? hhead)
  · intro hlast
    exact h (List.mem_of_mem_getLast? hlast)
  · intro hpair
    exact h (hpair.subset List.mem_cons_self)

/-- A separator between two texts in which it stands apart does so as well. -/
theorem Apart.join (hcs : Apart sep cs) (hds : Apart sep ds) (hne : cs ≠ []) (hne' : ds ≠ []) :
    Apart sep (cs ++ sep :: ds) := by
  refine ⟨?_, ?_, ?_⟩
  · rw [List.head?_append_of_ne_nil _ hne]
    exact hcs.head
  · rw [← List.singleton_append, ← List.append_assoc, List.getLast?_append_of_ne_nil _ hne']
    exact hds.last
  · rw [not_infix_pair_iff, List.isChain_append, List.isChain_cons]
    refine ⟨not_infix_pair_iff.mp hcs.once, ⟨?_, not_infix_pair_iff.mp hds.once⟩, ?_⟩
    · rintro d hd ⟨-, rfl⟩
      exact hds.head hd
    · rintro c hc d - ⟨rfl, -⟩
      exact hcs.last hc

/-- Words that are not empty and do not have the separator in them are joined so that it stands
apart. -/
theorem apart_intercalate (h : ∀ word ∈ words, word ≠ [] ∧ sep ∉ word) :
    Apart sep ([sep].intercalate words) := by
  induction words with
  | nil => exact apart_of_not_mem List.not_mem_nil
  | cons word rest ih =>
    obtain ⟨⟨hne, hword⟩, hrest⟩ := List.forall_mem_cons.mp h
    cases rest with
    | nil =>
      rw [List.intercalate_singleton]
      exact apart_of_not_mem hword
    | cons next rest =>
      have hnext : next ≠ [] := (hrest next List.mem_cons_self).1
      rw [List.intercalate_cons_cons, List.append_assoc, List.singleton_append]
      exact (apart_of_not_mem hword).join (ih hrest) hne (intercalate_ne_nil hnext rest)

end ClientGen.Text
