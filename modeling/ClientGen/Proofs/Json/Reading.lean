import ClientGen.Proofs.Json.Spelling
import ClientGen.Proofs.OrderedMap

/-!
# Reading by a schema

A value fits a schema if it is of the kind that the schema asks for. Every spelling of a value that
fits is read as the value, and whatever is read fits. So reading forgets nothing but the spelling:
what was read once can be written again, in another spelling, and read again.
-/

namespace ClientGen.Json

section Schemas

variable {Record : Type} {fields : Fields Record}

/-! ## Values of a schema -/

/-- Whether a value is of the kind that a schema asks for and its lists and tables nest at most as
deeply as given. The members of a record are fields that are set, each of them once. -/
inductive Fits (fields : Fields Record) : Nat → Schema Record → Json → Prop where
  | text {depth : Nat} {s : String} : Fits fields depth .text (.text s)
  | flag {depth : Nat} {b : Bool} : Fits fields depth .flag (.bool b)
  | count {depth : Nat} {n : Int} (hpos : 0 ≤ n) (h : IsMachine (.int n)) :
    Fits fields depth .count (.int n)
  | real {depth : Nat} {x : Float} : Fits fields depth .real (.real x)
  | choice {depth : Nat} {words : List String} {s : String} (h : words.contains s = true) :
    Fits fields depth (.choice words) (.text s)
  | list {depth : Nat} {item : Schema Record} {items : List Json}
    (h : ∀ v ∈ items, Fits fields depth item v) :
    Fits fields (depth + 1) (.list item) (.array items)
  | table {depth : Nat} {value : Schema Record} {members : List (String × Json)}
    (hkeys : (members.map Prod.fst).Nodup) (h : ∀ m ∈ members, Fits fields depth value m.2) :
    Fits fields (depth + 1) (.table value) (.object members)
  | record {depth : Nat} {name : Record} {members : List (String × Json)}
    (hkeys : (members.map Prod.fst).Nodup)
    (hrequired : missingKeys (fields name) (members.map Prod.fst) = [])
    (hset : ∀ m ∈ members, ∃ f, (fields name).find? (fun f => f.key == m.1) = some f ∧
      (f.presence.isNullable = true → m.2 ≠ .null))
    (h : ∀ m ∈ members, ∀ f, (fields name).find? (fun f => f.key == m.1) = some f →
      Fits fields depth f.schema m.2) :
    Fits fields (depth + 1) (.record name) (.object members)
  | anyNull {depth : Nat} : Fits fields depth .any .null
  | anyFlag {depth : Nat} {b : Bool} : Fits fields depth .any (.bool b)
  | anyText {depth : Nat} {s : String} : Fits fields depth .any (.text s)
  | anyNumber {depth : Nat} {n : JsonNumber} (h : IsMachine n) : Fits fields depth .any (.number n)
  | anyList {depth : Nat} {items : List Json} (h : ∀ v ∈ items, Fits fields depth .any v) :
    Fits fields (depth + 1) .any (.array items)
  | anyTable {depth : Nat} {members : List (String × Json)}
    (hkeys : (members.map Prod.fst).Nodup) (h : ∀ m ∈ members, Fits fields depth .any m.2) :
    Fits fields (depth + 1) .any (.object members)

/-- No keys are missing if all required fields are given. -/
theorem missingKeys_eq_nil_iff {fields : List (Field Record)} {given : List String} :
    missingKeys fields given = [] ↔ ∀ f ∈ fields, f.presence = .required → f.key ∈ given := by
  simp [missingKeys, List.filter_eq_nil_iff]

/-- Whether a field may have a value. -/
structure FieldFits (fields : Fields Record) (depth : Nat) (field : Field Record) (v : Json) :
    Prop where
  fits : Fits fields depth field.schema v
  ne_null : field.presence.isNullable = true → v ≠ .null

/-- Members fit a record if each fits a field, no key is repeated and none is missing. -/
theorem Fits.ofMembers {depth : Nat} {name : Record} {members : List (String × Json)}
    (hkeys : (members.map Prod.fst).Nodup)
    (hrequired : missingKeys (fields name) (members.map Prod.fst) = [])
    (h : ∀ m ∈ members, ∃ f, (fields name).find? (fun f => f.key == m.1) = some f ∧
      FieldFits fields depth f m.2) : Fits fields (depth + 1) (.record name) (.object members) := by
  refine .record hkeys hrequired (fun m hm => ?_) fun m hm f hf => ?_
  · obtain ⟨f, hf, hfits⟩ := h m hm
    exact ⟨f, hf, hfits.ne_null⟩
  · obtain ⟨g, hg, hfits⟩ := h m hm
    obtain rfl := Option.some.inj (hf.symm.trans hg)
    exact hfits.fits

/-- The numbers of a value that fits a schema are doubles or integers of at most 64 bits. -/
theorem Fits.isMachine {depth : Nat} {schema : Schema Record} {v : Json}
    (h : Fits fields depth schema v) : ∀ n ∈ numbers v, IsMachine n := by
  have hitems {items : List Json} (ih : ∀ v ∈ items, ∀ n ∈ numbers v, IsMachine n) :
      ∀ n ∈ numbers (.array items), IsMachine n := fun n hn =>
    have ⟨v, hv, hmem⟩ := mem_numbersOfItems.mp hn
    ih v hv n hmem
  have hmembers {members : List (String × Json)}
      (ih : ∀ m ∈ members, ∀ n ∈ numbers m.2, IsMachine n) :
      ∀ n ∈ numbers (.object members), IsMachine n := fun n hn =>
    have ⟨m, hm, hmem⟩ := mem_numbersOfMembers.mp hn
    ih m hm n hmem
  induction h with
  | text | flag | choice | anyNull | anyFlag | anyText =>
    exact fun n hn => absurd hn List.not_mem_nil
  | count _ h | anyNumber h =>
    intro n hn
    obtain rfl := List.mem_singleton.mp hn
    exact h
  | real =>
    intro n hn
    obtain rfl := List.mem_singleton.mp hn
    trivial
  | list _ ih | anyList _ ih => exact hitems ih
  | table _ _ ih | anyTable _ _ ih => exact hmembers ih
  | record _ _ hset _ ih =>
    refine hmembers fun m hm => ?_
    obtain ⟨f, hf, -⟩ := hset m hm
    exact ih m hm f hf

/-- The numbers of a value that fits a schema are read as they are printed, if its doubles are. -/
theorem Fits.readsBack {depth : Nat} {schema : Schema Record} {v : Json}
    (h : Fits fields depth schema v)
    (hreals : ∀ x, JsonNumber.real x ∈ numbers v → ReadsBack (.real x)) :
    ∀ n ∈ numbers v, ReadsBack n := by
  intro n hn
  cases n with
  | int i => exact readsBack_int (h.isMachine _ hn)
  | real x => exact hreals x hn

/-! ## Spellings are read -/

variable {cs given rest : List Char}

/-- A text is read from its quoted form. -/
theorem readText_spelled {s : String} (hgiven : skipBlanks given = quotedText s ++ rest) :
    readText given = .ok (s, rest) := by
  have hopen : skipBlanks given = '"' :: (s.toList.flatMap escapedChar ++ '"' :: rest) := by
    simpa [quotedText] using hgiven
  simp only [readText, hopen, scanText_quoted]

/-- A number is read as what it is converted to. -/
theorem readNumberAs_spelled {α : Type} {convert? : JsonNumber → Option α} {n : JsonNumber} {x : α}
    (h : readNumber cs = .ok (n, [])) (hrest : EndsNumeral rest)
    (hgiven : skipBlanks given = cs ++ rest) (hconvert : convert? n = some x) :
    readNumberAs convert? given = .ok (x, rest) := by
  obtain ⟨c, tail, rfl, hc⟩ := exists_of_readNumber h
  have hread : readNumber (c :: (tail ++ rest)) = .ok (n, rest) := readNumber_append h hrest
  rw [List.cons_append] at hgiven
  simp only [readNumberAs, hgiven, hc, if_true, hread]
  exact bind_eq_ok_iff.mpr ⟨_, rfl, by simp only [hconvert]⟩

/-- A key is scanned from its quoted form. -/
theorem scanKey_quoted (key : String) (rest : List Char) :
    scanKey (quotedText key ++ rest) = .ok (key, rest) := by
  have hopen : quotedText key ++ rest = '"' :: (key.toList.flatMap escapedChar ++ '"' :: rest) := by
    simp [quotedText]
  rw [hopen]
  exact scanText_quoted key rest

/-- A colon is scanned after blanks. -/
theorem scanColon_spelled {before : List Char} (h : Blanks before) (rest : List Char) :
    scanColon (before ++ ':' :: rest) = .ok rest := by
  rw [scanColon, h.skip, skipBlanks_cons (by decide)]
  rfl

/-- No null is scanned where one may not stand or the text starts with another letter. -/
theorem scanNull?_eq_none {presence : Presence} {c : Char} (hgiven : skipBlanks given = c :: rest)
    (hc : presence.isNullable = true → c ≠ 'n') : scanNull? presence given = none := by
  unfold scanNull?
  rw [hgiven]
  split
  next hnullable hcons => exact absurd (List.cons.inj hcons).1 (hc hnullable)
  next => rfl

/-- Nothing is passed over in front of a spelling but the blanks. -/
theorem Spells.blanks_append {v : Json} (h : Spells v cs) {blanks : List Char} (hb : Blanks blanks)
    (rest : List Char) : skipBlanks (blanks ++ cs ++ rest) = cs ++ rest := by
  obtain ⟨c, tail, rfl, hblank, -⟩ := h.exists_head
  rw [List.append_assoc, hb.skip, List.cons_append, skipBlanks_cons hblank]

/-- The next entry of a list starts with its spelling. -/
theorem scanNext_item {isFirst : Bool} {v : Json} {sep : List Char} (hsep : Separates isFirst sep)
    (h : Spells v cs) (rest : List Char) :
    scanNext isFirst ']' (sep ++ (cs ++ rest)) = .ok (.entry (cs ++ rest)) := by
  obtain ⟨c, tail, rfl, hblank, hne, -⟩ := h.exists_head
  exact scanNext_entry hsep hblank hne (by decide) (tail ++ rest)

/-- The next entry of a table starts with its key. -/
theorem scanNext_member {isFirst : Bool} {sep : List Char} (hsep : Separates isFirst sep)
    (key : String) (rest : List Char) :
    scanNext isFirst '}' (sep ++ (quotedText key ++ rest)) =
      .ok (.entry (quotedText key ++ rest)) :=
  scanNext_entry hsep (c := '"') (by decide) (by decide) (by decide) _

/-- A number is read where a value of any kind may be, as no other value starts as a number does. -/
theorem readValue_number {fuel depth : Nat} {n : JsonNumber} (h : readNumber cs = .ok (n, []))
    (hrest : EndsNumeral rest) (hgiven : skipBlanks given = cs ++ rest) :
    readValue fields (fuel + 1) depth .any given = .ok (.number n, rest) := by
  obtain ⟨c, tail, rfl, hc⟩ := exists_of_readNumber h
  have hread : readNumber (c :: (tail ++ rest)) = .ok (n, rest) := readNumber_append h hrest
  rw [List.cons_append] at hgiven
  simp only [readValue, hgiven]
  split
  case h_7 => rw [if_pos hc, hread]; rfl
  all_goals exact absurd hc (by decide)

mutual

/-- A spelling of a value that fits a schema is read as the value. -/
theorem readValue_spelled : ∀ (fuel : Nat) (given : List Char) {depth : Nat}
    {schema : Schema Record} {v : Json} {cs rest : List Char}, Fits fields depth schema v →
    Spells v cs → EndsNumeral rest → skipBlanks given = cs ++ rest → cs.length < fuel →
    readValue fields fuel depth schema given = .ok (v, rest)
  | 0, _, _, _, _, _, _, _, _, _, _, hfuel => absurd hfuel (Nat.not_lt_zero _)
  | fuel + 1, given, _, _, _, cs, rest, hfit, h, hrest, hgiven, hfuel => by
    have hnested {opening closing : Char} {body : List Char}
        (hcs : cs = opening :: body ++ [closing]) :
        skipBlanks given = opening :: (body ++ closing :: rest) ∧ body.length + 1 < fuel := by
      subst hcs
      simp only [List.length_append, List.length_cons, List.length_nil] at hfuel
      exact ⟨by simpa using hgiven, by omega⟩
    cases hfit with
    | text =>
      cases h
      rw [readValue, readText_spelled hgiven]
      rfl
    | flag =>
      cases h <;> simp only [readValue, readFlag, hgiven] <;> rfl
    | count hpos hword =>
      cases h with
      | number hn =>
        rw [readValue, readNumberAs_spelled hn hrest hgiven (if_pos hpos)]
        rfl
    | @real _ x =>
      cases h with
      | number hn =>
        have hreal : some (JsonNumber.toReal (.real x)) = some x := rfl
        rw [readValue, readNumberAs_spelled hn hrest hgiven hreal]
        rfl
    | choice hword =>
      cases h
      rw [readValue, readText_spelled hgiven]
      exact if_pos hword
    | list hitems =>
      cases h with
      | array hbody =>
        obtain ⟨hopen, hshort⟩ := hnested rfl
        have hread := readItems_spelled fuel hitems hbody rest hshort
        simp only [readValue, hopen, hread]
        rfl
    | table hkeys hvalues =>
      cases h with
      | object hbody =>
        obtain ⟨hopen, hshort⟩ := hnested rfl
        have hread := readEntries_spelled fuel [] hkeys hvalues hbody rest hshort
        simp only [readValue, hopen, hread]
        rfl
    | @record depth name members hkeys hrequired hset hvalues =>
      cases h with
      | object hbody =>
        obtain ⟨hopen, hshort⟩ := hnested rfl
        have hfields (m : String × Json) (hm : m ∈ members) :
            ∃ f, (fields name).find? (fun f => f.key == m.1) = some f ∧
              FieldFits fields depth f m.2 :=
          (hset m hm).imp fun f hf => ⟨hf.1, hvalues m hm f hf.1, hf.2⟩
        have hread := readMembers_spelled fuel [] hkeys hrequired hfields hbody rest
          hshort
        simp only [List.reverse_nil, List.map_nil, List.nil_append] at hread
        simp only [readValue, hopen, hread]
        rfl
    | anyNull =>
      cases h
      simp only [readValue, hgiven]
      rfl
    | anyFlag =>
      cases h <;> simp only [readValue, hgiven] <;> rfl
    | @anyText _ s =>
      cases h
      have hopen : skipBlanks given = '"' :: (s.toList.flatMap escapedChar ++ '"' :: rest) := by
        simpa [quotedText] using hgiven
      simp only [readValue, hopen, scanText_quoted]
      rfl
    | anyNumber hword =>
      cases h with
      | number hn => exact readValue_number hn hrest hgiven
    | anyList hitems =>
      cases h with
      | array hbody =>
        obtain ⟨hopen, hshort⟩ := hnested rfl
        have hread := readItems_spelled fuel hitems hbody rest hshort
        simp only [readValue, hopen, hread]
        rfl
    | anyTable hkeys hvalues =>
      cases h with
      | object hbody =>
        obtain ⟨hopen, hshort⟩ := hnested rfl
        have hread := readEntries_spelled fuel [] hkeys hvalues hbody rest hshort
        simp only [readValue, hopen, hread]
        rfl
termination_by structural fuel => fuel

/-- Items that fit a list are read from their spellings. -/
theorem readItems_spelled : ∀ (fuel : Nat) {depth : Nat} {item : Schema Record} {isFirst : Bool}
    {items : List Json} {body : List Char}, (∀ v ∈ items, Fits fields depth item v) →
    SpellsItems isFirst items body → ∀ rest : List Char, body.length + 1 < fuel →
    readItems fields fuel depth item isFirst (body ++ ']' :: rest) = .ok (items, rest)
  | 0, _, _, _, _, _, _, _, _, hfuel => absurd hfuel (Nat.not_lt_zero _)
  | fuel + 1, _, _, _, _, _, hitems, h, rest, hfuel => by
    cases h with
    | close hblanks =>
      rw [readItems, scanNext_close hblanks (by decide)]
      rfl
    | @item _ v items sep cs tail hsep hv htail =>
      obtain ⟨hfit, hitems⟩ := List.forall_mem_cons.mp hitems
      have hpos := hv.length_pos
      simp only [List.length_append] at hfuel
      have hread := readValue_spelled fuel (cs ++ (tail ++ ']' :: rest)) hfit hv
        (htail.endsNumeral rest) (hv.blanks_append blanks_nil _) (by omega)
      have hothers := readItems_spelled fuel hitems htail rest (by omega)
      rw [readItems, List.append_assoc, List.append_assoc, scanNext_item hsep hv]
      refine bind_eq_ok_iff.mpr ⟨_, rfl, ?_⟩
      exact bind_eq_ok_iff.mpr ⟨_, hread, bind_eq_ok_iff.mpr ⟨_, hothers, rfl⟩⟩
termination_by structural fuel => fuel

/-- Entries that fit a table are read from their spellings, after those read before. -/
theorem readEntries_spelled : ∀ (fuel : Nat) (entries : List (String × Json)) {depth : Nat}
    {value : Schema Record} {isFirst : Bool} {members : List (String × Json)} {body : List Char},
    ((entries ++ members).map Prod.fst).Nodup → (∀ m ∈ members, Fits fields depth value m.2) →
    SpellsMembers isFirst members body → ∀ rest : List Char, body.length + 1 < fuel →
    readEntries fields fuel depth value isFirst entries (body ++ '}' :: rest) =
      .ok (entries ++ members, rest)
  | 0, _, _, _, _, _, _, _, _, _, _, hfuel => absurd hfuel (Nat.not_lt_zero _)
  | fuel + 1, entries, _, _, _, _, _, hkeys, hvalues, h, rest, hfuel => by
    cases h with
    | close hblanks =>
      rw [readEntries, scanNext_close hblanks (by decide), List.append_nil]
      rfl
    | @member _ key v members sep before after cs tail hsep hbefore hafter hv htail =>
      obtain ⟨hfit, hvalues⟩ := List.forall_mem_cons.mp hvalues
      simp only [List.length_append, List.length_cons] at hfuel
      have hnew : insertEntry entries key v = entries ++ [(key, v)] := by
        refine OrderedMap.insertEntry_of_not_mem (hkeys.sublist ?_)
        simp
      have hread := readValue_spelled fuel (after ++ cs ++ (tail ++ '}' :: rest)) hfit hv
        (htail.endsNumeral rest) (hv.blanks_append hafter _) (by omega)
      have hothers := readEntries_spelled fuel (entries ++ [(key, v)])
        (by simpa using hkeys) hvalues htail rest (by omega)
      simp only [List.append_assoc, List.cons_append, List.nil_append] at hread hothers ⊢
      rw [readEntries, scanNext_member hsep]
      refine bind_eq_ok_iff.mpr ⟨_, rfl, bind_eq_ok_iff.mpr ⟨_, scanKey_quoted key _, ?_⟩⟩
      refine bind_eq_ok_iff.mpr ⟨_, scanColon_spelled hbefore _, ?_⟩
      refine bind_eq_ok_iff.mpr ⟨_, hread, ?_⟩
      simpa only [hnew] using hothers
termination_by structural fuel => fuel

/-- Members that fit a record are read from their spellings, after those read before. -/
theorem readMembers_spelled : ∀ (fuel : Nat) (read : List (String × Json)) {depth : Nat}
    {name : Record} {isFirst : Bool} {members : List (String × Json)} {body : List Char},
    ((read ++ members).map Prod.fst).Nodup →
    missingKeys (fields name) ((read ++ members).map Prod.fst) = [] →
    (∀ m ∈ members, ∃ f, (fields name).find? (fun f => f.key == m.1) = some f ∧
      FieldFits fields depth f m.2) →
    SpellsMembers isFirst members body → ∀ rest : List Char, body.length + 1 < fuel →
    readMembers fields fuel depth (fields name) isFirst
      (read.reverse.map fun m => (m.1, some m.2)) (body ++ '}' :: rest) =
      .ok (read ++ members, rest)
  | 0, _, _, _, _, _, _, _, _, _, _, _, hfuel => absurd hfuel (Nat.not_lt_zero _)
  | fuel + 1, read, _, name, _, _, _, hkeys, hrequired, hfields, h, rest, hfuel => by
    cases h with
    | close hblanks =>
      have hgiven : missingKeys (fields name)
          ((read.reverse.map fun m => (m.1, some m.2)).map Prod.fst) = [] := by
        rw [missingKeys_eq_nil_iff] at hrequired ⊢
        simpa using hrequired
      rw [readMembers, scanNext_close hblanks (by decide)]
      refine bind_eq_ok_iff.mpr ⟨_, rfl, ?_⟩
      simp only [hgiven, if_true, ← List.map_reverse, List.reverse_reverse, List.filterMap_map,
        List.append_nil]
      exact congrArg (fun members => Except.ok (members, rest)) List.filterMap_some
    | @member _ key v members sep before after cs tail hsep hbefore hafter hv htail =>
      obtain ⟨⟨f, hf, hfit⟩, hfields⟩ := List.forall_mem_cons.mp hfields
      simp only [List.length_append, List.length_cons] at hfuel
      have hnew : ((read.reverse.map fun m => (m.1, some m.2)).map Prod.fst).contains key =
          false := by
        rw [List.map_append, List.nodup_append] at hkeys
        have hfresh : key ∉ read.map Prod.fst := fun hmem =>
          hkeys.2.2 key hmem key List.mem_cons_self rfl
        simpa using hfresh
      have hread := readField_spelled fuel (after ++ cs ++ (tail ++ '}' :: rest)) hfit hv
        (htail.endsNumeral rest) (hv.blanks_append hafter _) (by omega)
      have hothers := readMembers_spelled fuel (read ++ [(key, v)]) (by simpa using hkeys)
        (by simpa using hrequired) hfields htail rest (by omega)
      simp only [List.append_assoc, List.cons_append, List.nil_append, List.reverse_append,
        List.reverse_cons, List.reverse_nil, List.map_cons] at hread hothers ⊢
      rw [readMembers, scanNext_member hsep]
      refine bind_eq_ok_iff.mpr ⟨_, rfl, bind_eq_ok_iff.mpr ⟨_, scanKey_quoted key _, ?_⟩⟩
      simp only [hf, hnew, Bool.false_eq_true, if_false]
      refine bind_eq_ok_iff.mpr ⟨_, scanColon_spelled hbefore _, ?_⟩
      exact bind_eq_ok_iff.mpr ⟨_, hread, hothers⟩
termination_by structural fuel => fuel

/-- A value that fits a field is read from its spelling. -/
theorem readField_spelled : ∀ (fuel : Nat) (given : List Char) {depth : Nat}
    {field : Field Record} {v : Json} {cs rest : List Char}, FieldFits fields depth field v →
    Spells v cs → EndsNumeral rest → skipBlanks given = cs ++ rest → cs.length + 1 < fuel →
    readField fields fuel depth field given = .ok (some v, rest)
  | 0, _, _, _, _, _, _, _, _, _, _, hfuel => absurd hfuel (Nat.not_lt_zero _)
  | fuel + 1, _, _, _, _, _, _, hfit, h, hrest, hgiven, hfuel => by
    obtain ⟨c, tail, rfl, -, -, hnull⟩ := h.exists_head
    have hnone := scanNull?_eq_none hgiven fun hnullable hc => hfit.ne_null hnullable (hnull hc)
    have hread := readValue_spelled fuel _ hfit.fits h hrest hgiven (by omega)
    rw [readField, hnone, hread]
    rfl
termination_by structural fuel => fuel

end

/-! ## Whole texts -/

/-- Reads a whole text by a schema; `depth` lists and tables may nest. -/
def readWithin (fields : Fields Record) (depth : Nat) (schema : Schema Record) (text : String) :
    Except Fault Json := do
  let cs := text.toList
  let (value, rest) ← readValue fields (3 * cs.length + 3) depth schema cs
  if skipBlanks rest = [] then .ok value else .error .malformed

/-- Reading is done within 127 levels. -/
theorem read_eq_readWithin (schema : Schema Record) (text : String) :
    read fields schema text = readWithin fields 127 schema text := rfl

/-- There are no records among values of any kind. -/
def noRecords : Fields Empty := fun record => nomatch record

/-- Parsing is reading a value of any kind. -/
theorem parse_eq_readWithin (text : String) : parse text = readWithin noRecords 127 .any text := rfl

/-- A text that spells a value of a schema is read as the value. -/
theorem readWithin_spelled {depth : Nat} {schema : Schema Record} {v : Json} {text : String}
    (hfit : Fits fields depth schema v) (h : Spells v text.toList) :
    readWithin fields depth schema text = .ok v := by
  have hgiven : skipBlanks text.toList = text.toList ++ [] := by
    simpa using h.blanks_append blanks_nil []
  have hread := readValue_spelled (3 * text.toList.length + 3) _ hfit h endsNumeral_nil hgiven
    (by omega)
  exact bind_eq_ok_iff.mpr ⟨_, hread, rfl⟩

end Schemas

end ClientGen.Json
