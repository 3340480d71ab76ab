import ClientGen.Proofs.Text.Styles

/-!
# Underscores

Words have no underscores, and no letter has one as its other case. So a case style writes
underscores only where it joins words with them.
-/

namespace ClientGen.Text

variable {c : Char}

/-! ## Characters -/

/-- Only the code of the underscore stands for it. -/
theorem ofNat_ne_underscore {n : Nat} (h : n ≠ 0x5F) : Char.ofNat n ≠ '_' := by
  intro heq
  have hcode : (Char.ofNat n).toNat = 0x5F := congrArg Char.toNat heq
  by_cases hn : n.isValidChar
  · rw [Char.ofNat, dif_pos hn] at hcode
    exact h hcode
  · rw [Char.ofNat, dif_neg hn] at hcode
    cases hcode

/-- Letters and digits of ASCII keep clear of the underscore in both cases. -/
theorem case_ne_underscore (hascii : c.toNat < 0x80) (hc : isAlphanumeric c = true) :
    c.toUpper ≠ '_' ∧ c.toLower ≠ '_' := by
  rw [isAlphanumeric_of_ascii hascii] at hc
  exact forall_ascii (p := fun c => c.isAlphanum = true → c.toUpper ≠ '_' ∧ c.toLower ≠ '_')
    (by decide) hascii hc

/-- Whether the images in tables of letter case keep clear of the underscore. -/
def avoidsUnderscore (expansions : List (Nat × List Nat)) (shifts : Array CaseShift) : Bool :=
  (expansions.all fun entry => !entry.2.contains 0x5F) &&
    shifts.toList.all fun shift => decide (0x5F < shift.image) ||
      decide (shift.image + (shift.run.last - shift.run.first) < 0x5F)

/-- No character but the ASCII ones has an underscore in its other case, if the tables avoid it. -/
theorem underscore_not_mem_caseImage {expansions : List (Nat × List Nat)}
    {shifts : Array CaseShift} (h : avoidsUnderscore expansions shifts = true)
    (hc : ¬c.toNat < 0x80) : '_' ∉ caseImage expansions shifts c := by
  rw [avoidsUnderscore, Bool.and_eq_true, List.all_eq_true, List.all_eq_true] at h
  obtain ⟨hexpansions, hshifts⟩ := h
  rw [caseImage]
  split
  · rename_i image hlookup
    obtain ⟨before, after, htable, -⟩ := List.lookup_eq_some_iff.mp hlookup
    have hentry := hexpansions (c.toNat, image) (by simp [htable])
    intro hmem
    obtain ⟨n, hn, heq⟩ := List.mem_map.mp hmem
    exact ofNat_ne_underscore (by rintro rfl; simp [hn] at hentry) heq
  · split
    · rename_i shift hfind
      have hmem := Array.mem_of_find?_eq_some hfind
      have hrun := Array.find?_some hfind
      have hshift := hshifts shift hmem.val
      simp only [CodeRun.contains, Bool.and_eq_true, decide_eq_true_eq] at hrun
      simp only [Bool.or_eq_true, decide_eq_true_eq] at hshift
      rw [List.mem_singleton]
      exact (ofNat_ne_underscore (by omega)).symm
    · rw [List.mem_singleton]
      rintro rfl
      exact hc (by decide)

/-- An alphanumeric character has no underscore in its capital form. -/
theorem underscore_not_mem_upperChar (hc : isAlphanumeric c = true) : '_' ∉ upperChar c := by
  rw [upperChar]
  split
  · rename_i hascii
    rw [List.mem_singleton]
    exact (case_ne_underscore hascii hc).1.symm
  · exact underscore_not_mem_caseImage (by decide +kernel) ‹_›

/-- An alphanumeric character has no underscore in its small form. -/
theorem underscore_not_mem_lowerChar (hc : isAlphanumeric c = true) : '_' ∉ lowerChar c := by
  rw [lowerChar]
  split
  · rename_i hascii
    rw [List.mem_singleton]
    exact (case_ne_underscore hascii hc).2.symm
  · exact underscore_not_mem_caseImage (by decide +kernel) ‹_›

/-! ## Case styles -/

/-- No form of an alphanumeric character is an underscore. -/
theorem IsFormOf.ne_underscore {d : Char} (h : IsFormOf c d) (hd : isAlphanumeric d = true) :
    c ≠ '_' := by
  rintro rfl
  rcases h with hlower | hupper | ⟨-, hsigma⟩
  · exact underscore_not_mem_lowerChar hd hlower
  · exact underscore_not_mem_upperChar hd hupper
  · exact absurd hsigma (by decide)

/-- A style that does not join words with underscores writes none. -/
theorem underscore_not_mem_apply {style : CaseStyle} (hstyle : '_' ∉ style.separator) (s : String) :
    '_' ∉ (style.apply s).toList := by
  intro hmem
  rcases exists_of_mem_apply hmem with hseparator | ⟨d, -, hd, hform⟩
  · exact hstyle hseparator
  · exact hform.ne_underscore hd rfl

end ClientGen.Text
