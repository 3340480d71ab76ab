import ClientGen.Proofs.Text.Rows

/-!
# Characters of case styles

A case style writes the words of a text, in one case or the other, and joins them with its
separator. Words consist of letters and digits of the text. So each character that a style writes
comes from the separator, or it is a form of an alphanumeric character of the text.
-/

namespace ClientGen.Text

variable {c : Char} {cs word : List Char} {s : String}

/-! ## Words -/

/-- The parts of a row have no characters but those of the row. -/
theorem mem_of_mem_splitRow {state : WordCase} {part : List Char}
    (hpart : part ∈ splitRow state word cs) (hc : c ∈ part) : c ∈ word ∨ c ∈ cs := by
  fun_induction splitRow state word cs with
  | case1 => cases hpart
  | case2 state word d =>
    rw [List.mem_singleton.mp hpart] at hc
    simpa [or_comm] using hc
  | case3 state word d next rest hsplit ih =>
    rcases List.mem_cons.mp hpart with rfl | hothers
    · have := List.mem_reverse.mp hc
      grind
    · grind
  | case4 state word d next rest hgo hsplit ih =>
    rcases List.mem_cons.mp hpart with rfl | hothers
    · exact Or.inl (List.mem_reverse.mp hc)
    · grind
  | case5 state word d next rest hgo hgo' ih => grind

/-- The characters of words are alphanumeric characters of the text. -/
theorem of_mem_words (hword : word ∈ words s) (hc : c ∈ word) :
    c ∈ s.toList ∧ isAlphanumeric c = true := by
  obtain ⟨row, hrow, hpart⟩ := List.mem_flatMap.mp hword
  exact (hasRows_rows _ _).of_mem hrow ((mem_of_mem_splitRow hpart hc).resolve_left (by simp))

/-! ## Forms of characters -/

/-- A character may be written for another one: in small or in capital form, or in the form that
a capital sigma has at the end of a word. -/
def IsFormOf (c d : Char) : Prop :=
  c ∈ lowerChar d ∨ c ∈ upperChar d ∨ d = 'Σ' ∧ c = 'ς'

/-- A word in small letters has forms of the characters of the word only. -/
theorem exists_of_mem_lowerWord (h : c ∈ lowerWord word) : ∃ d ∈ word, IsFormOf c d := by
  induction word with
  | nil => cases h
  | cons d rest ih =>
    rw [lowerWord, List.mem_append] at h
    rcases h with hfirst | hrest
    · refine ⟨d, List.mem_cons_self, ?_⟩
      split at hfirst
      next hsigma => exact Or.inr (Or.inr ⟨hsigma.1, List.mem_singleton.mp hfirst⟩)
      next => exact Or.inl hfirst
    · obtain ⟨e, he, hform⟩ := ih hrest
      exact ⟨e, List.mem_cons_of_mem d he, hform⟩

/-- A word in capitals has forms of the characters of the word only. -/
theorem exists_of_mem_upperWord (h : c ∈ upperWord word) : ∃ d ∈ word, IsFormOf c d := by
  obtain ⟨d, hd, hc⟩ := List.mem_flatMap.mp h
  exact ⟨d, hd, Or.inr (Or.inl hc)⟩

/-- A capitalized word has forms of the characters of the word only. -/
theorem exists_of_mem_capitalizedWord (h : c ∈ capitalizedWord word) :
    ∃ d ∈ word, IsFormOf c d := by
  cases word with
  | nil => cases h
  | cons d rest =>
    rw [capitalizedWord, List.mem_append] at h
    rcases h with hfirst | hrest
    · exact ⟨d, List.mem_cons_self, Or.inr (Or.inl hfirst)⟩
    · obtain ⟨e, he, hform⟩ := exists_of_mem_lowerWord hrest
      exact ⟨e, List.mem_cons_of_mem d he, hform⟩

/-- Both forms of words consist of forms of their characters. -/
theorem exists_of_mem_styled {style : CaseStyle}
    (h : c ∈ style.firstWord word ∨ c ∈ style.laterWord word) : ∃ d ∈ word, IsFormOf c d := by
  have hlower := @exists_of_mem_lowerWord c word
  have hupper := @exists_of_mem_upperWord c word
  have hcapitalized := @exists_of_mem_capitalizedWord c word
  cases style with
  | camel => exact h.elim hlower hcapitalized
  | pascal => exact h.elim hcapitalized hcapitalized
  | snake => exact h.elim hlower hlower
  | kebab => exact h.elim hlower hlower
  | constant => exact h.elim hupper hupper
  | title => exact h.elim hcapitalized hcapitalized

/-- A style writes its separator and forms of alphanumeric characters. -/
theorem exists_of_mem_apply {style : CaseStyle} (h : c ∈ (style.apply s).toList) :
    c ∈ style.separator ∨ ∃ d ∈ s.toList, isAlphanumeric d = true ∧ IsFormOf c d := by
  have hwords : ∀ word ∈ words s, c ∈ style.firstWord word ∨ c ∈ style.laterWord word →
      ∃ d ∈ s.toList, isAlphanumeric d = true ∧ IsFormOf c d := by
    intro word hword hc
    obtain ⟨d, hd, hform⟩ := exists_of_mem_styled hc
    obtain ⟨hmem, halphanumeric⟩ := of_mem_words hword hd
    exact ⟨d, hmem, halphanumeric, hform⟩
  rw [CaseStyle.apply, String.toList_ofList] at h
  generalize words s = parts at hwords h
  cases parts with
  | nil => cases h
  | cons word others =>
    rw [CaseStyle.join, List.mem_append] at h
    rcases h with hfirst | hothers
    · exact Or.inr (hwords word List.mem_cons_self (Or.inl hfirst))
    · obtain ⟨other, hother, hmem⟩ := List.mem_flatMap.mp hothers
      rcases List.mem_append.mp hmem with hseparator | hlater
      · exact Or.inl hseparator
      · exact Or.inr (hwords other (List.mem_cons_of_mem word hother) (Or.inr hlater))

/-! ## Texts of ASCII characters -/

/-- Letters and digits of ASCII are letters and digits of ASCII in both cases. -/
theorem isAlphanum_case (hascii : c.toNat < 0x80) (hc : c.isAlphanum = true) :
    c.toUpper.isAlphanum = true ∧ c.toLower.isAlphanum = true :=
  forall_ascii (p := fun c => c.isAlphanum = true →
    c.toUpper.isAlphanum = true ∧ c.toLower.isAlphanum = true) (by decide) hascii hc

/-- The forms of ASCII letters and digits are ASCII letters and digits. -/
theorem IsFormOf.isAlphanum {d : Char} (h : IsFormOf c d) (hd : d.toNat < 0x80)
    (halphanumeric : isAlphanumeric d = true) : c.isAlphanum = true := by
  rw [isAlphanumeric_of_ascii hd] at halphanumeric
  obtain ⟨hupper, hlower⟩ := isAlphanum_case hd halphanumeric
  rcases h with hform | hform | ⟨rfl, -⟩
  · rw [lowerChar_of_ascii hd, List.mem_singleton] at hform
    exact hform ▸ hlower
  · rw [upperChar_of_ascii hd, List.mem_singleton] at hform
    exact hform ▸ hupper
  · exact absurd hd (by decide)

/-- Apart from its separator a style writes a text of ASCII in ASCII letters and digits. -/
theorem isAlphanum_of_mem_apply {style : CaseStyle} (hs : ∀ c ∈ s.toList, c.toNat < 0x80)
    (h : c ∈ (style.apply s).toList) : c ∈ style.separator ∨ c.isAlphanum = true := by
  rcases exists_of_mem_apply h with hseparator | ⟨d, hd, halphanumeric, hform⟩
  · exact Or.inl hseparator
  · exact Or.inr (hform.isAlphanum (hs d hd) halphanumeric)

end ClientGen.Text
