import ClientGen.Proofs.Text.Rows

/-!
# Words without capitals

A text of small ASCII letters and digits is a single word, since nothing in it starts a new one.
Among the case styles the one with a capital at the start of each word changes its first character
only.
-/

namespace ClientGen.Text

variable {c : Char} {cs word : List Char} {s : String}

/-- Whether a character is a small ASCII letter or a digit. -/
def isSmall (c : Char) : Bool :=
  c.isLower || c.isDigit

/-- The code points of small letters and digits. -/
theorem isSmall_iff : isSmall c = true ↔
    97 ≤ c.val.toNat ∧ c.val.toNat ≤ 122 ∨ 48 ≤ c.val.toNat ∧ c.val.toNat ≤ 57 := by
  show (decide (97 ≤ c.val) && decide (c.val ≤ 122) ||
    (decide (48 ≤ c.val) && decide (c.val ≤ 57))) = true ↔ _
  simp only [Bool.or_eq_true, Bool.and_eq_true, decide_eq_true_eq, UInt32.le_iff_toNat_le]
  exact Iff.rfl

/-- Small letters and digits are ASCII characters. -/
theorem toNat_lt_of_isSmall (h : isSmall c = true) : c.toNat < 0x80 := by
  have hcode := isSmall_iff.mp h
  show c.val.toNat < 128
  omega

/-- Small letters and digits are alphanumeric. -/
theorem isAlphanumeric_of_isSmall (h : isSmall c = true) : isAlphanumeric c = true := by
  rw [isAlphanumeric_of_ascii (toNat_lt_of_isSmall h)]
  show (c.isUpper || c.isLower || c.isDigit) = true
  rw [Bool.or_assoc]
  exact Bool.or_eq_true_iff.mpr (Or.inr h)

/-- Small letters and digits are no capitals of ASCII. -/
theorem not_capital_of_isSmall (h : isSmall c = true) : ¬(65 ≤ c.val ∧ c.val ≤ 90) := by
  have hcode := isSmall_iff.mp h
  rw [UInt32.le_iff_toNat_le, UInt32.le_iff_toNat_le]
  show ¬(65 ≤ c.val.toNat ∧ c.val.toNat ≤ 90)
  omega

/-- Small letters and digits are not in upper case. -/
theorem isUpper_of_isSmall (h : isSmall c = true) : c.isUpper = false :=
  decide_eq_false (not_capital_of_isSmall h)

/-- Small letters and digits are no capitals. -/
theorem isUppercase_of_isSmall (h : isSmall c = true) : isUppercase c = false := by
  rw [isUppercase, if_pos (toNat_lt_of_isSmall h), isUpper_of_isSmall h]

/-- Small letters and digits are their own small forms. -/
theorem lowerChar_of_isSmall (h : isSmall c = true) : lowerChar c = [c] := by
  have hsame : c.toLower = c := dif_neg (not_capital_of_isSmall h)
  rw [lowerChar_of_ascii (toNat_lt_of_isSmall h), hsame]

/-! ## One word -/

/-- Characters that all satisfy the test are one row. -/
theorem rows_eq_singleton {test : Char → Bool} (hne : cs ≠ []) (h : ∀ c ∈ cs, test c = true) :
    rows test cs = [cs] := by
  have hend : ∀ c ∈ ([] : List Char).head?, test c = false := by simp
  have hrow := rows_append_of_true hne h hend
  rwa [List.append_nil] at hrow

/-- A row without capitals is one word. -/
theorem splitRow_eq_singleton (state : WordCase) (hne : cs ≠ [])
    (h : ∀ c ∈ cs, isUppercase c = false) : splitRow state word cs = [word.reverse ++ cs] := by
  induction cs generalizing state word with
  | nil => exact absurd rfl hne
  | cons c rest ih =>
    cases rest with
    | nil => simp [splitRow]
    | cons next others =>
      have hc := h c List.mem_cons_self
      have hnext := h next (by simp)
      rw [splitRow, if_neg (by simp [hnext]), if_neg (by simp [hc]),
        ih _ (by simp) fun d hd => h d (List.mem_cons_of_mem c hd)]
      simp

/-- A text of small letters and digits is one word. -/
theorem words_of_isSmall (hne : s.toList ≠ []) (h : ∀ c ∈ s.toList, isSmall c = true) :
    words s = [s.toList] := by
  rw [words, rows_eq_singleton hne fun c hc => isAlphanumeric_of_isSmall (h c hc),
    List.flatMap_singleton, splitRow_eq_singleton _ hne fun c hc => isUppercase_of_isSmall (h c hc)]
  rfl

/-- A word of small letters and digits is its own small form. -/
theorem lowerWord_of_isSmall (h : ∀ c ∈ cs, isSmall c = true) : lowerWord cs = cs := by
  induction cs with
  | nil => rfl
  | cons c rest ih =>
    have hc := h c List.mem_cons_self
    have hsigma : c ≠ 'Σ' := fun heq => absurd hc (by rw [heq]; decide)
    rw [lowerWord, if_neg fun hend => hsigma hend.1, lowerChar_of_isSmall hc,
      ih fun d hd => h d (List.mem_cons_of_mem c hd)]
    rfl

/-- A word of small letters and digits gets a capital at its start. -/
theorem pascal_of_isSmall (hs : s.toList = c :: cs) (h : ∀ d ∈ c :: cs, isSmall d = true) :
    CaseStyle.pascal.apply s = String.ofList (c.toUpper :: cs) := by
  have hwords : words s = [c :: cs] := by
    rw [words_of_isSmall (by simp [hs]) (hs ▸ h), hs]
  have hrest : lowerWord cs = cs :=
    lowerWord_of_isSmall fun d hd => h d (List.mem_cons_of_mem c hd)
  simp [CaseStyle.apply, hwords, CaseStyle.join, CaseStyle.firstWord, capitalizedWord,
    upperChar_of_ascii (toNat_lt_of_isSmall (h c List.mem_cons_self)), hrest]

/-- A name of small letters and digits keeps the number that it ends with. -/
theorem pascal_numbered {stem : String} (hs : stem.toList = c :: cs)
    (h : ∀ d ∈ c :: cs, isSmall d = true) (n : Nat) : CaseStyle.pascal.apply (stem ++ toString n) =
      String.ofList (c.toUpper :: cs) ++ toString n := by
  have hchars : (stem ++ toString n).toList = c :: (cs ++ Nat.toDigits 10 n) := by
    rw [String.toList_append, hs, Nat.toString_eq_ofList_toDigits, String.toList_ofList,
      List.cons_append]
  have hsmall : ∀ d ∈ c :: (cs ++ Nat.toDigits 10 n), isSmall d = true := by
    intro d hd
    rw [← List.cons_append, List.mem_append] at hd
    rcases hd with hd | hd
    · exact h d hd
    · have hdigit := Nat.isDigit_of_mem_toDigits (by decide) (by decide) hd
      rw [isSmall, hdigit, Bool.or_true]
  rw [pascal_of_isSmall hchars hsmall, ← List.cons_append, String.ofList_append,
    Nat.toString_eq_ofList_toDigits]

end ClientGen.Text
