import ClientGen.Text.Words

/-!
# Rows of characters

The maximal rows of the characters that satisfy a test have other characters, or the ends of the
text, before and after them. Every text has such rows in just one way, and these are found by going
through the text once.
-/

namespace ClientGen.Text

variable {test : Char → Bool} {c : Char} {cs row rest : List Char} {found : List (List Char)}

/-- A text has these maximal rows of characters that satisfy a test. -/
inductive HasRows (test : Char → Bool) : List Char → List (List Char) → Prop where
  | none {cs : List Char} : (∀ c ∈ cs, test c = false) → HasRows test cs []
  | row {before row after : List Char} {found : List (List Char)} :
    (∀ c ∈ before, test c = false) → row ≠ [] → (∀ c ∈ row, test c = true) →
    (∀ c ∈ after.head?, test c = false) → HasRows test after found →
    HasRows test (before ++ (row ++ after)) (row :: found)

/-- A text has no rows if none of its characters satisfies the test. -/
theorem hasRows_nil_iff : HasRows test cs [] ↔ ∀ c ∈ cs, test c = false := by
  constructor
  · intro h
    cases h with
    | none hnone => exact hnone
  · exact .none

/-- No row is empty. -/
theorem HasRows.ne_nil (h : HasRows test cs found) : ∀ row ∈ found, row ≠ [] := by
  induction h with
  | none => exact List.forall_mem_nil _
  | row _ hne _ _ _ ih => exact List.forall_mem_cons.mpr ⟨hne, ih⟩

/-- Rows consist of characters of the text that satisfy the test. -/
theorem HasRows.of_mem (h : HasRows test cs found) (hrow : row ∈ found) (hc : c ∈ row) :
    c ∈ cs ∧ test c = true := by
  induction h with
  | none => cases hrow
  | @row before first after found _ _ hfirst _ _ ih =>
    rcases List.mem_cons.mp hrow with rfl | hlater
    · exact ⟨List.mem_append_right _ (List.mem_append_left _ hc), hfirst c hc⟩
    · obtain ⟨hafter, htest⟩ := ih hlater
      exact ⟨List.mem_append_right _ (List.mem_append_right _ hafter), htest⟩

/-! ## One pass -/

/-- A character that does not satisfy the test starts no row. -/
theorem rows_cons_of_false (hc : test c = false) (cs : List Char) :
    rows test (c :: cs) = rows test cs := by
  cases cs <;> simp [rows, hc]

/-- Characters that fail the test are skipped. -/
theorem rows_append_of_false {before : List Char} (h : ∀ c ∈ before, test c = false)
    (cs : List Char) : rows test (before ++ cs) = rows test cs := by
  induction before with
  | nil => rfl
  | cons c before ih =>
    obtain ⟨hc, hbefore⟩ := List.forall_mem_cons.mp h
    rw [List.cons_append, rows_cons_of_false hc, ih hbefore]

/-- A row ends where the test fails. -/
theorem rows_append_of_true {row after : List Char} (hne : row ≠ [])
    (hrow : ∀ c ∈ row, test c = true) (hafter : ∀ c ∈ after.head?, test c = false) :
    rows test (row ++ after) = row :: rows test after := by
  induction row with
  | nil => exact absurd rfl hne
  | cons c row ih =>
    obtain ⟨hc, hrow⟩ := List.forall_mem_cons.mp hrow
    cases row with
    | nil =>
      cases after with
      | nil => simp [rows, hc]
      | cons next after =>
        have hnext : test next = false := hafter next rfl
        rw [List.singleton_append, rows, if_pos hc, if_neg (by simp [hnext])]
    | cons next row =>
      have hnext := hrow next List.mem_cons_self
      have hlater := ih (by simp) hrow
      rw [List.cons_append] at hlater
      rw [List.cons_append, List.cons_append, rows, if_pos hc, if_pos hnext, hlater]

/-- The rows that a text has are found. -/
theorem HasRows.rows_eq (h : HasRows test cs found) : rows test cs = found := by
  induction h with
  | @none cs hnone =>
    have hskipped := rows_append_of_false hnone []
    rwa [List.append_nil] at hskipped
  | row hbefore hne hrow hafter _ ih =>
    rw [rows_append_of_false hbefore, rows_append_of_true hne hrow hafter, ih]

/-- A character that fails the test belongs to no row. -/
theorem HasRows.skip (hc : test c = false) (h : HasRows test cs found) :
    HasRows test (c :: cs) found := by
  cases h with
  | none hnone => exact .none (List.forall_mem_cons.mpr ⟨hc, hnone⟩)
  | row hbefore hne hrow hafter hlater =>
    exact .row (List.forall_mem_cons.mpr ⟨hc, hbefore⟩) hne hrow hafter hlater

/-- A character that satisfies the test begins the row that its successor is in. -/
theorem HasRows.extend {next : Char} (hc : test c = true) (hnext : test next = true)
    (h : HasRows test (next :: rest) (row :: found)) :
    HasRows test (c :: next :: rest) ((c :: row) :: found) := by
  generalize hcs : next :: rest = cs at h
  cases h with
  | @row before row after found hbefore hne hrow hafter hlater =>
    cases before with
    | nil =>
      have hlonger : ∀ d ∈ c :: row, test d = true := List.forall_mem_cons.mpr ⟨hc, hrow⟩
      exact .row (List.forall_mem_nil _) (List.cons_ne_nil c row) hlonger hafter hlater
    | cons skipped before =>
      obtain rfl : next = skipped := (List.cons.inj hcs).1
      have hfails := hbefore next List.mem_cons_self
      rw [hnext] at hfails
      cases hfails

/-- The rows that are computed are the maximal ones. -/
theorem hasRows_rows (test : Char → Bool) (cs : List Char) : HasRows test cs (rows test cs) := by
  fun_induction rows test cs with
  | case1 => exact .none (List.forall_mem_nil _)
  | case2 c hc =>
    exact .row (List.forall_mem_nil _) (by simp) (List.forall_mem_singleton.mpr hc) (by simp)
      (.none (List.forall_mem_nil _))
  | case3 c hc next rest hnext hrows ih =>
    rw [hrows] at ih
    have hfails := hasRows_nil_iff.mp ih next List.mem_cons_self
    rw [hnext] at hfails
    cases hfails
  | case4 c hc next rest hnext first others hrows ih =>
    rw [hrows] at ih ⊢
    exact ih.extend hc hnext
  | case5 c hc next rest hnext ih =>
    exact .row (List.forall_mem_nil _) (List.cons_ne_nil c []) (List.forall_mem_singleton.mpr hc)
      (by simpa using hnext) ih
  | case6 c rest hc ih => exact ih.skip (by simpa using hc)

/-- Every text has rows in just one way. -/
theorem hasRows_iff : HasRows test cs found ↔ found = rows test cs := by
  constructor
  · intro h
    exact h.rows_eq.symm
  · rintro rfl
    exact hasRows_rows test cs

end ClientGen.Text
