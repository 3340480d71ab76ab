import ClientGen.Proofs.Json.Lexeme

/-!
# Spellings of JSON values

A text spells a value if it consists of the lexemes of the value with blanks between them: numbers
by any numeral that is read as the number, texts and words as they are printed. The compact form of
a value and its indented forms are spellings of it.
-/

namespace ClientGen.Json

variable {cs rest body tail sep : List Char} {c close : Char} {v : Json} {isFirst : Bool}

/-! ## The grammar -/

/-- What stands before an entry of a list or table: blanks, among which there is a comma unless the
entry is the first one. -/
def Separates : Bool → List Char → Prop
  | true, cs => Blanks cs
  | false, cs => ∃ before after, Blanks before ∧ Blanks after ∧ cs = before ++ ',' :: after

mutual

/-- The spellings of a value. -/
inductive Spells : Json → List Char → Prop where
  | null : Spells .null ['n', 'u', 'l', 'l']
  | yes : Spells (.bool true) ['t', 'r', 'u', 'e']
  | no : Spells (.bool false) ['f', 'a', 'l', 's', 'e']
  | number {n : JsonNumber} {cs : List Char} (h : readNumber cs = .ok (n, [])) :
    Spells (.number n) cs
  | text (s : String) : Spells (.text s) (quotedText s)
  | array {items : List Json} {body : List Char} (h : SpellsItems true items body) :
    Spells (.array items) ('[' :: body ++ [']'])
  | object {members : List (String × Json)} {body : List Char}
    (h : SpellsMembers true members body) : Spells (.object members) ('{' :: body ++ ['}'])

/-- The spellings of items up to the end of their list. -/
inductive SpellsItems : Bool → List Json → List Char → Prop where
  | close {isFirst : Bool} {blanks : List Char} (h : Blanks blanks) :
    SpellsItems isFirst [] blanks
  | item {isFirst : Bool} {v : Json} {items : List Json} {sep cs tail : List Char}
    (hsep : Separates isFirst sep) (hv : Spells v cs) (htail : SpellsItems false items tail) :
    SpellsItems isFirst (v :: items) (sep ++ cs ++ tail)

/-- The spellings of members up to the end of their object. -/
inductive SpellsMembers : Bool → List (String × Json) → List Char → Prop where
  | close {isFirst : Bool} {blanks : List Char} (h : Blanks blanks) :
    SpellsMembers isFirst [] blanks
  | member {isFirst : Bool} {key : String} {v : Json} {members : List (String × Json)}
    {sep before after cs tail : List Char} (hsep : Separates isFirst sep)
    (hbefore : Blanks before) (hafter : Blanks after) (hv : Spells v cs)
    (htail : SpellsMembers false members tail) :
    SpellsMembers isFirst ((key, v) :: members)
      (sep ++ quotedText key ++ (before ++ ':' :: (after ++ cs ++ tail)))

end

/-! ## Where spellings start -/

/-- The first character of a value is no blank, ends no list and separates nothing, and it is the
one of null only for null. -/
theorem Spells.exists_head (h : Spells v cs) : ∃ c tail, cs = c :: tail ∧ isBlank c = false ∧
    c ≠ ']' ∧ (c = 'n' → v = .null) := by
  cases h with
  | null => exact ⟨_, _, rfl, by decide, by decide, fun _ => rfl⟩
  | yes => exact ⟨_, _, rfl, by decide, by decide, fun hc => absurd hc (by decide)⟩
  | no => exact ⟨_, _, rfl, by decide, by decide, fun hc => absurd hc (by decide)⟩
  | number h =>
    obtain ⟨c, tail, rfl, hc⟩ := exists_of_readNumber h
    refine ⟨c, tail, rfl, ?_, ?_, ?_⟩
    · cases hblank : isBlank c with
      | false => rfl
      | true =>
        simp only [isBlank, Bool.or_eq_true, beq_iff_eq] at hblank
        obtain ((rfl | rfl) | rfl) | rfl := hblank <;> exact absurd hc (by decide)
    · rintro rfl
      exact absurd hc (by decide)
    · rintro rfl
      exact absurd hc (by decide)
  | text s => exact ⟨_, _, rfl, by decide, by decide, fun hc => absurd hc (by decide)⟩
  | array h => exact ⟨_, _, rfl, by decide, by decide, fun hc => absurd hc (by decide)⟩
  | object h => exact ⟨_, _, rfl, by decide, by decide, fun hc => absurd hc (by decide)⟩

/-- No value is spelled by nothing. -/
theorem Spells.length_pos (h : Spells v cs) : 0 < cs.length := by
  obtain ⟨c, tail, rfl, -⟩ := h.exists_head
  exact Nat.succ_pos _

/-- A numeral ends before blanks, and before what does not continue it. -/
theorem Blanks.endsNumeral (h : Blanks cs) (hc : continuesNumeral c = false) :
    EndsNumeral (cs ++ c :: rest) := by
  cases cs with
  | nil => exact endsNumeral_cons hc
  | cons d cs =>
    have hd := h d List.mem_cons_self
    simp only [isBlank, Bool.or_eq_true, beq_iff_eq] at hd
    obtain ((rfl | rfl) | rfl) | rfl := hd <;> exact endsNumeral_cons (by decide)

/-- A numeral ends before the items that follow in a list. -/
theorem SpellsItems.endsNumeral {items : List Json} (h : SpellsItems false items body)
    (rest : List Char) : EndsNumeral (body ++ ']' :: rest) := by
  cases h with
  | close h => exact h.endsNumeral (by decide)
  | item hsep hv htail =>
    obtain ⟨before, after, hbefore, -, rfl⟩ := hsep
    simp only [List.append_assoc, List.cons_append]
    exact hbefore.endsNumeral (by decide)

/-- A numeral ends before the members that follow in an object. -/
theorem SpellsMembers.endsNumeral {members : List (String × Json)}
    (h : SpellsMembers false members body) (rest : List Char) :
    EndsNumeral (body ++ '}' :: rest) := by
  cases h with
  | close h => exact h.endsNumeral (by decide)
  | member hsep _ _ hv htail =>
    obtain ⟨before, after, hbefore, -, rfl⟩ := hsep
    simp only [List.append_assoc, List.cons_append]
    exact hbefore.endsNumeral (by decide)

/-! ## What comes next -/

/-- The end of a list or table is scanned after blanks. -/
theorem scanNext_close (h : Blanks cs) (hclose : isBlank close = false) (rest : List Char) :
    scanNext isFirst close (cs ++ close :: rest) = .ok (.close rest) := by
  rw [scanNext, h.skip, skipBlanks_cons hclose]
  exact if_pos rfl

/-- The start of an entry is scanned after what separates it. -/
theorem scanNext_entry (hsep : Separates isFirst sep) (hc : isBlank c = false) (hne : c ≠ close)
    (hcomma : close ≠ ',') (cs : List Char) :
    scanNext isFirst close (sep ++ c :: cs) = .ok (.entry (c :: cs)) := by
  cases isFirst with
  | true =>
    have hblanks : Blanks sep := hsep
    rw [scanNext, hblanks.skip, skipBlanks_cons hc]
    exact (if_neg hne).trans (if_pos rfl)
  | false =>
    obtain ⟨before, after, hbefore, hafter, rfl⟩ := hsep
    rw [List.append_assoc, List.cons_append, scanNext, hbefore.skip, skipBlanks_cons (by decide)]
    simp only [if_neg hcomma.symm, Bool.false_eq_true, if_false, if_true, hafter.skip,
      skipBlanks_cons hc, if_neg hne]

/-! ## Printed forms -/

mutual

/-- The numbers in a value. -/
def numbers : Json → List JsonNumber
  | .number n => [n]
  | .array items => numbersOfItems items
  | .object members => numbersOfMembers members
  | _ => []

/-- The numbers in items. -/
def numbersOfItems : List Json → List JsonNumber
  | [] => []
  | item :: rest => numbers item ++ numbersOfItems rest

/-- The numbers in members. -/
def numbersOfMembers : List (String × Json) → List JsonNumber
  | [] => []
  | (_, value) :: rest => numbers value ++ numbersOfMembers rest

end

/-- The numbers in items are those in one of them. -/
theorem mem_numbersOfItems {items : List Json} {n : JsonNumber} :
    n ∈ numbersOfItems items ↔ ∃ v ∈ items, n ∈ numbers v := by
  induction items with
  | nil => simp [numbersOfItems]
  | cons item rest ih => simp [numbersOfItems, ih]

/-- The numbers in members are those in one of them. -/
theorem mem_numbersOfMembers {members : List (String × Json)} {n : JsonNumber} :
    n ∈ numbersOfMembers members ↔ ∃ m ∈ members, n ∈ numbers m.2 := by
  induction members with
  | nil => simp [numbersOfMembers]
  | cons m rest ih => simp [numbersOfMembers, ih]

/-- The first item of a list follows blanks. -/
theorem SpellsItems.first {items : List Json} (hsep : Blanks sep) (hv : Spells v cs)
    (htail : SpellsItems false items tail) :
    SpellsItems true (v :: items) (sep ++ cs ++ tail) :=
  have hfirst : Separates true sep := hsep
  .item hfirst hv htail

/-- The first member of an object follows blanks. -/
theorem SpellsMembers.first {members : List (String × Json)} {after : List Char} (hsep : Blanks sep)
    (key : String) (hafter : Blanks after) (hv : Spells v cs)
    (htail : SpellsMembers false members tail) :
    SpellsMembers true ((key, v) :: members)
      (sep ++ quotedText key ++ ':' :: (after ++ cs ++ tail)) :=
  have hfirst : Separates true sep := hsep
  .member hfirst blanks_nil hafter hv htail

/-- The first items of a list are spelled as others are after a comma. -/
theorem SpellsItems.afterComma {items : List Json} (h : SpellsItems true (v :: items) body) :
    SpellsItems false (v :: items) (',' :: body) := by
  cases h with
  | @item _ _ _ sep cs tail hsep hv htail =>
    have hsep' : Separates false (',' :: sep) := ⟨[], sep, blanks_nil, hsep, rfl⟩
    exact .item hsep' hv htail

/-- The first members of an object are spelled as others are after a comma. -/
theorem SpellsMembers.afterComma {member : String × Json} {members : List (String × Json)}
    (h : SpellsMembers true (member :: members) body) :
    SpellsMembers false (member :: members) (',' :: body) := by
  cases h with
  | @member _ key v _ sep before after cs tail hsep hbefore hafter hv htail =>
    have hsep' : Separates false (',' :: sep) := ⟨[], sep, blanks_nil, hsep, rfl⟩
    exact .member hsep' hbefore hafter hv htail

mutual

/-- The compact form of a value spells it, if its numbers are read as they are printed. -/
theorem spells_compactChars : ∀ v : Json, (∀ n ∈ numbers v, ReadsBack n) →
    Spells v (compactChars v)
  | .null, _ => .null
  | .bool true, _ => .yes
  | .bool false, _ => .no
  | .number n, h => .number (h n List.mem_cons_self)
  | .text s, _ => .text s
  | .array items, h => .array (spellsItems_compactItems items h)
  | .object members, h => .object (spellsMembers_compactMembers members h)

/-- Items are spelled by their compact text. -/
theorem spellsItems_compactItems : ∀ items : List Json, (∀ n ∈ numbersOfItems items, ReadsBack n) →
    SpellsItems true items (compactItems items)
  | [], _ => .close blanks_nil
  | [item], h => by
    have hitem := spells_compactChars item fun n hn => h n (List.mem_append_left _ hn)
    have hall := SpellsItems.first blanks_nil hitem (.close blanks_nil)
    simpa [compactItems] using hall
  | item :: next :: rest, h => by
    have hitem := spells_compactChars item fun n hn => h n (List.mem_append_left _ hn)
    have hrest := spellsItems_compactItems (next :: rest)
      fun n hn => h n (List.mem_append_right _ hn)
    exact .first blanks_nil hitem hrest.afterComma

/-- Members are spelled by their compact text. -/
theorem spellsMembers_compactMembers : ∀ members : List (String × Json),
    (∀ n ∈ numbersOfMembers members, ReadsBack n) →
    SpellsMembers true members (compactMembers members)
  | [], _ => .close blanks_nil
  | [(key, v)], h => by
    have hv := spells_compactChars v fun n hn => h n (List.mem_append_left _ hn)
    have hall := SpellsMembers.first blanks_nil key blanks_nil hv (.close blanks_nil)
    simpa [compactMembers] using hall
  | (key, v) :: next :: rest, h => by
    have hv := spells_compactChars v fun n hn => h n (List.mem_append_left _ hn)
    have hrest := spellsMembers_compactMembers (next :: rest)
      fun n hn => h n (List.mem_append_right _ hn)
    have hall := SpellsMembers.first blanks_nil key blanks_nil hv hrest.afterComma
    simpa [compactMembers] using hall

end

/-- A space is blank. -/
theorem blanks_space : Blanks [' '] := by decide

/-- The start of a line is blank. -/
theorem blanks_lineStart (width level : Nat) : Blanks (lineStart width level) := by
  intro c hc
  rw [lineStart, List.mem_cons, List.mem_replicate] at hc
  obtain rfl | ⟨-, rfl⟩ := hc <;> decide

mutual

/-- The indented forms of a value spell it, if its numbers are read as they are printed. -/
theorem spells_indentedChars (width : Nat) : ∀ (level : Nat) (v : Json),
    (∀ n ∈ numbers v, ReadsBack n) → Spells v (indentedChars width level v)
  | _, .null, h => spells_compactChars .null h
  | _, .bool b, h => spells_compactChars (.bool b) h
  | _, .number n, h => spells_compactChars (.number n) h
  | _, .text s, h => spells_compactChars (.text s) h
  | _, .array [], _ => .array (.close blanks_nil)
  | level, .array (item :: rest), h => by
    have hall := Spells.array (spellsItems_indentedItems width (level + 1) (item :: rest)
      (blanks_lineStart width level) h)
    simpa [indentedChars] using hall
  | _, .object [], _ => .object (.close blanks_nil)
  | level, .object (member :: rest), h => by
    have hall := Spells.object (spellsMembers_indentedMembers width (level + 1) (member :: rest)
      (blanks_lineStart width level) h)
    simpa [indentedChars] using hall

/-- Items are spelled by their indented text and blanks after it. -/
theorem spellsItems_indentedItems (width level : Nat) : ∀ (items : List Json) {ending : List Char},
    Blanks ending → (∀ n ∈ numbersOfItems items, ReadsBack n) →
    SpellsItems true items (indentedItems width level items ++ ending)
  | [], _, hending, _ => .close hending
  | [item], _, hending, h => by
    have hitem := spells_indentedChars width level item
      fun n hn => h n (List.mem_append_left _ hn)
    exact .first (blanks_lineStart width level) hitem (.close hending)
  | item :: next :: rest, _, hending, h => by
    have hitem := spells_indentedChars width level item
      fun n hn => h n (List.mem_append_left _ hn)
    have hrest := spellsItems_indentedItems width level (next :: rest) hending
      fun n hn => h n (List.mem_append_right _ hn)
    have hall := SpellsItems.first (blanks_lineStart width level) hitem hrest.afterComma
    simpa [indentedItems] using hall

/-- Members are spelled by their indented text and blanks after it. -/
theorem spellsMembers_indentedMembers (width level : Nat) : ∀ (members : List (String × Json))
    {ending : List Char}, Blanks ending → (∀ n ∈ numbersOfMembers members, ReadsBack n) →
    SpellsMembers true members (indentedMembers width level members ++ ending)
  | [], _, hending, _ => .close hending
  | [(key, v)], _, hending, h => by
    have hv := spells_indentedChars width level v fun n hn => h n (List.mem_append_left _ hn)
    have hall := SpellsMembers.first (blanks_lineStart width level) key blanks_space hv
      (.close hending)
    simpa [indentedMembers] using hall
  | (key, v) :: next :: rest, _, hending, h => by
    have hv := spells_indentedChars width level v fun n hn => h n (List.mem_append_left _ hn)
    have hrest := spellsMembers_indentedMembers width level (next :: rest) hending
      fun n hn => h n (List.mem_append_right _ hn)
    have hall := SpellsMembers.first (blanks_lineStart width level) key blanks_space hv
      hrest.afterComma
    simpa [indentedMembers] using hall

end

end ClientGen.Json
