import ClientGen.OrderedMap
import Mathlib.Data.List.Basic
import Mathlib.Data.List.Induction
import Mathlib.Data.List.Nodup
import Mathlib.Data.List.Perm.Subperm

/-!
# Lookup and insertion in ordered maps

A map is seen through its entries: a key has a value exactly if the two are an entry, a new key is
appended, and an insertion never moves or removes a key that was there before. If values are
inserted one after the other under their own keys, the keys stand in the order of their first
occurrences, each with the last value that has it. Maps that are laid over each other do not depend
on which two are combined first.
-/

namespace ClientGen

/-! ## First occurrences -/

section FirstOccurrences

variable {α : Type} [BEq α] [LawfulBEq α] {xs ys : List α}

/-- A list without repetitions has only first occurrences. -/
theorem eraseDups_eq_self (h : xs.Nodup) : xs.eraseDups = xs := by
  induction xs with
  | nil => rfl
  | cons x rest ih =>
    obtain ⟨hx, hrest⟩ := List.nodup_cons.mp h
    have hkeep : rest.filter (fun y => !y == x) = rest := by
      rw [List.filter_eq_self]
      intro y hy
      have hne : y ≠ x := fun heq => hx (heq ▸ hy)
      simpa using hne
    rw [List.eraseDups_cons, hkeep, ih hrest]

/-- First occurrences are taken from the elements that satisfy a test as from all. -/
theorem eraseDups_filter (test : α → Bool) (xs : List α) :
    (xs.filter test).eraseDups = xs.eraseDups.filter test := by
  induction hlength : xs.length using Nat.strongRecOn generalizing xs with
  | ind length ih =>
    cases xs with
    | nil => rfl
    | cons x rest =>
      have hshort := List.length_filter_le (fun y => !y == x) rest
      rw [List.length_cons] at hlength
      have hrest := ih _ (by omega) (rest.filter fun y => !y == x) rfl
      rw [List.filter_filter] at hrest
      rw [List.eraseDups_cons]
      cases hx : test x with
      | true =>
        rw [List.filter_cons_of_pos hx, List.filter_cons_of_pos hx, List.eraseDups_cons,
          List.filter_filter, ← hrest]
        simp only [Bool.and_comm]
      | false =>
        have hsame : rest.filter (fun y => test y && !y == x) = rest.filter test := by
          refine List.filter_congr fun y _ => ?_
          by_cases hy : y = x <;> simp [hy, hx]
        rw [List.filter_cons_of_neg (by simp [hx]), List.filter_cons_of_neg (by simp [hx]), ← hrest,
          hsame]

/-- Erasing repetitions leaves none. -/
theorem nodup_eraseDups (xs : List α) : xs.eraseDups.Nodup := by
  induction hlength : xs.length using Nat.strongRecOn generalizing xs with
  | ind length ih =>
    cases xs with
    | nil => simp
    | cons x rest =>
      have hshort := List.length_filter_le (fun y => !y == x) rest
      rw [List.length_cons] at hlength
      rw [List.eraseDups_cons, List.nodup_cons, List.mem_eraseDups]
      exact ⟨by simp, ih _ (by omega) _ rfl⟩

/-- Repetitions in the first part of a list do not count. -/
theorem eraseDups_append_left (xs ys : List α) :
    (xs.eraseDups ++ ys).eraseDups = (xs ++ ys).eraseDups := by
  have hrest : ys.removeAll xs.eraseDups = ys.removeAll xs := by
    refine List.filter_congr fun y _ => ?_
    rw [List.elem_eq_contains, List.elem_eq_contains, Bool.eq_iff_iff]
    simp
  rw [List.eraseDups_append, List.eraseDups_append, eraseDups_eq_self (nodup_eraseDups xs), hrest]

/-- Repetitions in the last part of a list do not count. -/
theorem eraseDups_append_right (xs ys : List α) :
    (xs ++ ys.eraseDups).eraseDups = (xs ++ ys).eraseDups := by
  have hrest : (ys.eraseDups.removeAll xs).eraseDups = (ys.removeAll xs).eraseDups := by
    rw [List.removeAll, List.removeAll, ← eraseDups_filter, eraseDups_eq_self (nodup_eraseDups _)]
  rw [List.eraseDups_append, List.eraseDups_append, hrest]

end FirstOccurrences

namespace OrderedMap

variable {α β : Type} {m : OrderedMap α} {key k : String} {value v : α}

/-! ## Lookup and insertion -/

/-- The values of a map are those of its entries. -/
theorem get?_eq_some_iff : m.get? key = some value ↔ (key, value) ∈ m.entries := by
  obtain ⟨entries, hnodup⟩ := m
  induction entries with
  | nil => simp [get?]
  | cons entry rest ih =>
    obtain ⟨k', v'⟩ := entry
    simp only [List.map_cons, List.nodup_cons] at hnodup
    have hrest := ih hnodup.2
    simp only [get?] at hrest ⊢
    by_cases hk : key = k'
    · subst hk
      have hnew : (key, value) ∉ rest := fun h => hnodup.1 (List.mem_map_of_mem h)
      simp [hnew, eq_comm]
    · have hbeq : (key == k') = false := by simpa using hk
      simp [List.lookup_cons, hbeq, hrest, hk]

/-- A key has no value exactly if it is not among the keys. -/
theorem get?_eq_none_iff : m.get? key = none ↔ key ∉ m.keys := by
  simp only [get?, keys, List.lookup_eq_none_iff, List.mem_map, not_exists, not_and]
  constructor
  · intro h entry hentry hkey
    exact absurd (h entry hentry) (by simp [hkey])
  · intro h entry hentry
    have hne : key ≠ entry.1 := fun hkey => h entry hentry hkey.symm
    simpa using hne

/-- A key is bound exactly if it is among the keys. -/
theorem contains_iff_mem_keys : m.contains key = true ↔ key ∈ m.keys := by
  rw [contains, Option.isSome_iff_ne_none, ne_eq, get?_eq_none_iff, not_not]

/-- Inserting adds a key and keeps all others. -/
theorem mem_keys_insert : k ∈ (m.insert key value).keys ↔ k = key ∨ k ∈ m.keys :=
  mem_keys_insertEntry

/-- A key is looked up in the first entry or in the others. -/
theorem lookup_cons_eq_ite (entry : String × α) (entries : List (String × α)) :
    (entry :: entries).lookup k = if k = entry.1 then some entry.2 else entries.lookup k := by
  obtain ⟨k', v'⟩ := entry
  by_cases hk : k = k'
  · simp [hk]
  · have hbeq : (k == k') = false := by simpa using hk
    simp [List.lookup_cons, hbeq, hk]

/-- Insertion changes what is found under its key and nothing else. -/
theorem get?_insert (m : OrderedMap α) (key k : String) (value : α) :
    (m.insert key value).get? k = if k = key then some value else m.get? k := by
  simp only [get?, entries_insert]
  generalize m.entries = entries
  induction entries with
  | nil => rw [insertEntry, lookup_cons_eq_ite]
  | cons entry rest ih =>
    obtain ⟨k', v'⟩ := entry
    rw [insertEntry]
    by_cases hk' : k' = key
    · rw [if_pos hk', lookup_cons_eq_ite, lookup_cons_eq_ite, hk']
      by_cases hk : k = key <;> simp [hk]
    · rw [if_neg hk', lookup_cons_eq_ite, lookup_cons_eq_ite, ih]
      by_cases hk : k = k'
      · simp [hk, hk']
      · simp [hk]

/-- A key that was not bound goes to the end. -/
theorem entries_insert_of_get?_eq_none (h : m.get? key = none) (value : α) :
    (m.insert key value).entries = m.entries ++ [(key, value)] := by
  have hnew : key ∉ m.entries.map Prod.fst := get?_eq_none_iff.mp h
  rw [entries_insert]
  generalize m.entries = entries at hnew
  induction entries with
  | nil => rfl
  | cons entry rest ih =>
    obtain ⟨k', v'⟩ := entry
    simp only [List.map_cons, List.mem_cons, not_or] at hnew
    simp only [insertEntry, if_neg (Ne.symm hnew.1), List.cons_append]
    rw [ih hnew.2]

/-- Insertion keeps the keys that were there, in their order. -/
theorem keys_prefix_insert (m : OrderedMap α) (key : String) (value : α) :
    m.keys <+: (m.insert key value).keys := by
  simp only [keys, entries_insert]
  generalize m.entries = entries
  induction entries with
  | nil => exact List.nil_prefix
  | cons entry rest ih =>
    obtain ⟨k', v'⟩ := entry
    by_cases hk : k' = key
    · subst hk
      simp [insertEntry]
    · simpa [insertEntry, hk] using ih

/-- Changing all values changes what is found under a key. -/
theorem get?_mapEntries {f : String → α → β} :
    (m.mapEntries f).get? key = (m.get? key).map (f key) := by
  simp only [get?, mapEntries]
  generalize m.entries = entries
  induction entries with
  | nil => rfl
  | cons entry rest ih =>
    obtain ⟨k', v'⟩ := entry
    by_cases hk : key = k'
    · subst hk
      simp
    · have hbeq : (key == k') = false := by simpa using hk
      simp [List.lookup_cons, hbeq, ih]

/-- Values can be computed from the old ones before or after an insertion. -/
theorem mapEntries_insert {f : String → α → β} (m : OrderedMap α) (key : String) (value : α) :
    (m.insert key value).mapEntries f = (m.mapEntries f).insert key (f key value) := by
  simp only [mapEntries, insert, mk.injEq]
  induction m.entries with
  | nil => rfl
  | cons entry rest ih =>
    obtain ⟨k', v'⟩ := entry
    by_cases hk : k' = key
    · simp [insertEntry, hk]
    · simp [insertEntry, hk, ih]

/-- Changing all values changes them one by one. -/
theorem values_mapEntries {f : α → β} : (m.mapEntries fun _ => f).values = m.values.map f := by
  simp only [values, mapEntries, List.map_map]
  rfl

/-- Values that are computed and taken back are the old ones. -/
theorem mapEntries_mapEntries_self {f : α → β} {g : β → α} (h : ∀ v, g (f v) = v)
    (m : OrderedMap α) : (m.mapEntries fun _ => f).mapEntries (fun _ => g) = m := by
  have hid : ((fun entry : String × β => (entry.1, g entry.2)) ∘
      fun entry : String × α => (entry.1, f entry.2)) = id := by
    funext entry
    simp [h]
  simp only [mapEntries, List.map_map, hid, List.map_id]

/-- Changing the value of a key changes the value found under it, and no other. -/
theorem get?_modify {f : α → α} (k : String) :
    (m.modify key f).get? k = (m.get? k).map fun v => if k = key then f v else v := by
  have h : m.modify key f = m.mapEntries fun k v => if k = key then f v else v := rfl
  rw [h, get?_mapEntries]

/-- Modifying the value of a key changes what is found under it. -/
theorem get?_modify_self {f : α → α} : (m.modify key f).get? key = (m.get? key).map f := by
  simp [get?_modify]

/-- Changes of one value add up. -/
theorem modify_modify (m : OrderedMap α) (key : String) (f g : α → α) :
    (m.modify key f).modify key g = m.modify key (g ∘ f) := by
  simp only [modify, List.map_map, mk.injEq]
  refine List.map_congr_left fun entry _ => ?_
  by_cases hk : entry.1 = key <;> simp [hk]

/-- The keys of a map are different. -/
theorem eraseDups_keys (m : OrderedMap α) : m.keys.eraseDups = m.keys :=
  eraseDups_eq_self m.nodup_keys

/-- Insertion adds its key at the end, unless it is there already. -/
theorem keys_insert (m : OrderedMap α) (key : String) (value : α) :
    (m.insert key value).keys = (m.keys ++ [key]).eraseDups := by
  have hinsert : (m.insert key value).keys =
      if key ∈ m.keys then m.keys else m.keys ++ [key] := by
    rw [keys, keys, entries_insert]
    induction m.entries with
    | nil => rfl
    | cons entry rest ih =>
      obtain ⟨k', v'⟩ := entry
      by_cases hk : k' = key
      · simp [insertEntry, hk]
      · simp only [insertEntry, if_neg hk, List.map_cons, ih, List.mem_cons, Ne.symm hk, false_or]
        split <;> rfl
  rw [hinsert, List.eraseDups_append, eraseDups_keys]
  by_cases hkey : key ∈ m.keys <;> simp [List.removeAll, hkey, List.eraseDups_cons]

/-! ## Many entries -/

/-- Entries can be inserted in two parts. -/
theorem insertMany_append (m : OrderedMap α) (entries later : List (String × α)) :
    m.insertMany (entries ++ later) = (m.insertMany entries).insertMany later :=
  List.foldl_append

/-- The last of many entries is inserted last. -/
theorem insertMany_concat (m : OrderedMap α) (entries : List (String × α))
    (entry : String × α) :
    m.insertMany (entries ++ [entry]) = (m.insertMany entries).insert entry.1 entry.2 :=
  insertMany_append m entries [entry]

/-- The keys of entries come after those that were there, each where it first occurs. -/
theorem keys_insertMany (m : OrderedMap α) (entries : List (String × α)) :
    (m.insertMany entries).keys = (m.keys ++ entries.map Prod.fst).eraseDups := by
  induction entries using List.reverseRecOn with
  | nil =>
    rw [List.map_nil, List.append_nil, eraseDups_keys]
    rfl
  | append_singleton entries entry ih =>
    rw [insertMany_concat, keys_insert, ih, eraseDups_append_left, List.map_append,
      List.map_singleton, List.append_assoc]

/-- Under a key the last value that is inserted is found, or else the one that was there. -/
theorem get?_insertMany_eq_or (m : OrderedMap α) (entries : List (String × α)) (key : String) :
    (m.insertMany entries).get? key =
      ((entries.filter fun entry => entry.1 = key).getLast?.map Prod.snd).or (m.get? key) := by
  induction entries using List.reverseRecOn with
  | nil => rfl
  | append_singleton entries entry ih =>
    rw [insertMany_concat, get?_insert, ih, List.filter_append, List.getLast?_append]
    by_cases hkey : entry.1 = key
    · simp [hkey]
    · simp [hkey, Ne.symm hkey]

example : ((ofList [("a", 1), ("b", 2)]).insertMany [("c", 3), ("b", 4), ("c", 5)]).entries =
    [("a", 1), ("b", 4), ("c", 5)] := by decide

/-- The keys of a list of entries stand where they first occur. -/
theorem keys_ofList (entries : List (String × α)) :
    (ofList entries).keys = (entries.map Prod.fst).eraseDups :=
  keys_insertMany empty entries

/-- The value of a key in a list of entries is the last one. -/
theorem get?_ofList (entries : List (String × α)) (key : String) :
    (ofList entries).get? key =
      (entries.filter fun entry => entry.1 = key).getLast?.map Prod.snd := by
  have hempty : (empty : OrderedMap α).get? key = none := rfl
  rw [ofList, get?_insertMany_eq_or, hempty, Option.or_none]

/-! ## Values under their own keys -/

/-- The map of values under their own keys, in which the last of several with one key counts. -/
def collect (keyOf : α → String) (values : List α) : OrderedMap α :=
  values.foldl (fun m value => m.insert (keyOf value) value) .empty

variable {keyOf : α → String} {values : List α}

/-- One more value comes last. -/
theorem collect_concat : collect keyOf (values ++ [value]) =
    (collect keyOf values).insert (keyOf value) value := by
  rw [collect, List.foldl_concat, ← collect]

/-- Collecting values is listing them under their keys. -/
theorem collect_eq_ofList :
    collect keyOf values = ofList (values.map fun value => (keyOf value, value)) := by
  rw [collect, ofList, insertMany, List.foldl_map]

/-- Collected values have their keys in the order in which these first occur. -/
theorem keys_collect : (collect keyOf values).keys = (values.map keyOf).eraseDups := by
  rw [collect_eq_ofList, keys_ofList, List.map_map]
  rfl

/-- Under a key the last value with that key is found. -/
theorem get?_collect :
    (collect keyOf values).get? key = (values.filter fun value => keyOf value = key).getLast? := by
  have hvalue : Prod.snd ∘ (fun value => (keyOf value, value)) = id := rfl
  rw [collect_eq_ofList, get?_ofList, List.filter_map, List.getLast?_map, Option.map_map, hvalue,
    Option.map_id_fun, id]
  rfl

/-- Collected values are under their own keys. -/
theorem keyOf_of_mem_collect (h : (k, value) ∈ (collect keyOf values).entries) :
    keyOf value = k ∧ value ∈ values := by
  have hlast := get?_eq_some_iff.mpr h
  rw [get?_collect] at hlast
  simpa [and_comm] using List.mem_of_getLast? hlast

/-- Collected values stand in the order of their keys. -/
theorem map_keyOf_values_collect :
    (collect keyOf values).values.map keyOf = (collect keyOf values).keys := by
  rw [OrderedMap.values, keys, List.map_map]
  exact List.map_congr_left fun entry hentry => (keyOf_of_mem_collect hentry).1

/-- If every value is under its own key, the value under a key is the only one with that key. -/
theorem filter_values_of_own (hown : ∀ entry ∈ m.entries, keyOf entry.2 = entry.1) :
    m.values.filter (fun value => keyOf value = key) = (m.get? key).toList := by
  obtain ⟨entries, hnodup⟩ := m
  simp only [OrderedMap.values, get?]
  induction entries with
  | nil => rfl
  | cons entry rest ih =>
    obtain ⟨hnew, hnodup⟩ := List.nodup_cons.mp hnodup
    obtain ⟨howns, hown⟩ := List.forall_mem_cons.mp hown
    have hrest := ih hnodup hown
    rw [List.map_cons, List.filter_cons, hrest, lookup_cons_eq_ite, howns]
    by_cases hkey : entry.1 = key
    · have hnone : rest.lookup key = none := by
        rw [List.lookup_eq_none_iff]
        intro other hother
        have hne : key ≠ other.1 := fun heq => hnew (hkey ▸ heq ▸ List.mem_map_of_mem hother)
        simpa using hne
      simp [hkey, hnone]
    · simp [hkey, Ne.symm hkey]

/-- Collecting keeps the last value with each key. -/
theorem getLast?_filter_values_collect :
    ((collect keyOf values).values.filter fun value => keyOf value = key).getLast? =
      (values.filter fun value => keyOf value = key).getLast? := by
  rw [filter_values_of_own fun entry hentry => (keyOf_of_mem_collect hentry).1, get?_collect]
  cases (values.filter fun value => keyOf value = key).getLast? <;> rfl

/-- Values can be changed before or after they are collected, if their keys stay. -/
theorem collect_map {f : α → α} (hf : ∀ value, keyOf (f value) = keyOf value) :
    collect keyOf (values.map f) = (collect keyOf values).mapEntries fun _ => f := by
  induction values using List.reverseRecOn with
  | nil => rfl
  | append_singleton values value ih =>
    rw [List.map_append, List.map_singleton, collect_concat, collect_concat, mapEntries_insert, ih,
      hf]

/-- Collected values are among the values, each at most as often. -/
theorem values_collect_subperm : (collect keyOf values).values.Subperm values := by
  refine List.subperm_of_subset ?_ fun value hvalue => ?_
  · refine List.Nodup.of_map keyOf ?_
    rw [map_keyOf_values_collect]
    exact (collect keyOf values).nodup_keys
  · obtain ⟨entry, hentry, rfl⟩ := List.mem_map.mp hvalue
    exact (keyOf_of_mem_collect hentry).2

/-! ## Entries with different keys -/

variable {entries : List (String × α)}

/-- An entry with a new key is inserted at the end. -/
theorem insertEntry_of_not_mem (h : (entries.map Prod.fst ++ [key]).Nodup) :
    insertEntry entries key value = entries ++ [(key, value)] := by
  obtain ⟨hnodup, -, hnew⟩ := List.nodup_append.mp h
  have hget : (OrderedMap.mk entries hnodup).get? key = none :=
    get?_eq_none_iff.mpr fun hmem => hnew key hmem key List.mem_cons_self rfl
  exact entries_insert_of_get?_eq_none hget value

/-- Inserting adds no other entries. -/
theorem mem_insertEntry {entry : String × α} (h : entry ∈ insertEntry entries key value) :
    entry = (key, value) ∨ entry ∈ entries := by
  induction entries with
  | nil => simpa [insertEntry] using h
  | cons first rest ih =>
    rw [insertEntry] at h
    split at h
    · rw [List.mem_cons] at h ⊢
      exact h.imp_right Or.inr
    · rw [List.mem_cons] at h ⊢
      obtain rfl | hrest := h
      · exact Or.inr (Or.inl rfl)
      · exact (ih hrest).imp_right Or.inr

/-- Entries whose keys are new go to the end. -/
theorem entries_insertMany (h : ((m.entries ++ entries).map Prod.fst).Nodup) :
    (m.insertMany entries).entries = m.entries ++ entries := by
  induction entries generalizing m with
  | nil => exact (List.append_nil _).symm
  | cons entry rest ih =>
    have hinsert : (m.insert entry.1 entry.2).entries = m.entries ++ [entry] :=
      insertEntry_of_not_mem (h.sublist (by simp))
    have hrest : ((m.insert entry.1 entry.2).insertMany rest).entries =
        (m.insert entry.1 entry.2).entries ++ rest := by
      refine ih ?_
      rw [hinsert]
      simpa using h
    rw [insertMany, List.foldl_cons, ← insertMany, hrest, hinsert, List.append_assoc,
      List.singleton_append]

/-- Maps with the same keys, in the same order and with the same values, are the same. -/
theorem eq_of_keys_eq {other : OrderedMap α} (hkeys : m.keys = other.keys)
    (hget : ∀ key, m.get? key = other.get? key) : m = other := by
  have hentries (n : OrderedMap α) : n.entries.map (fun entry => (entry.1, some entry.2)) =
      n.keys.map fun key => (key, n.get? key) := by
    rw [keys, List.map_map]
    refine List.map_congr_left fun entry hentry => ?_
    rw [Function.comp_apply, get?_eq_some_iff.mpr hentry]
  have hinjective : Function.Injective fun entry : String × α => (entry.1, some entry.2) := by
    rintro ⟨k, v⟩ ⟨k', v'⟩ heq
    simpa using heq
  have hsame : m.entries = other.entries := by
    refine List.map_injective_iff.mpr hinjective ?_
    rw [hentries, hentries, hkeys]
    exact List.map_congr_left fun key _ => by rw [hget]
  obtain ⟨entries, hnodup⟩ := m
  exact mk.injEq .. ▸ hsame

/-- The entries of a map are entries of no other map. -/
theorem ofList_entries (m : OrderedMap α) : ofList m.entries = m := by
  have hentries : (ofList m.entries).entries = m.entries := entries_insertMany m.nodup_keys
  obtain ⟨entries, hnodup⟩ := m
  exact mk.injEq .. ▸ hentries

/-! ## Maps over maps -/

/-- An entry of a map that is laid over another one takes the place of the other's. -/
theorem get?_insertMany (m user : OrderedMap α) (key : String) :
    (m.insertMany user.entries).get? key = (user.get? key).or (m.get? key) := by
  rw [get?_insertMany_eq_or, ← get?_ofList, ofList_entries]

/-- The keys of a map that is laid over another one come after the other's, if they are new. -/
theorem keys_insertMany_entries (m user : OrderedMap α) :
    (m.insertMany user.entries).keys = m.keys ++ user.keys.filter fun key => key ∉ m.keys := by
  have hnew : user.keys.removeAll m.keys = user.keys.filter fun key => key ∉ m.keys :=
    List.filter_congr fun key _ => by simp
  have hnodup : (user.keys.filter fun key => key ∉ m.keys).Nodup := user.nodup_keys.filter _
  rw [keys_insertMany, ← keys, List.eraseDups_append, eraseDups_keys, hnew,
    eraseDups_eq_self hnodup]

/-- Entries can be laid over a map one by one or as a map of their own. -/
theorem insertMany_ofList (m : OrderedMap α) (entries : List (String × α)) :
    m.insertMany (ofList entries).entries = m.insertMany entries := by
  refine eq_of_keys_eq ?_ fun key => ?_
  · rw [keys_insertMany, keys_insertMany, ← keys, keys_ofList, eraseDups_append_right]
  · rw [get?_insertMany, get?_ofList, get?_insertMany_eq_or]

/-- Of three maps the first two or the last two can be laid over each other first. -/
theorem insertMany_assoc (m user further : OrderedMap α) :
    (m.insertMany user.entries).insertMany further.entries =
      m.insertMany (user.insertMany further.entries).entries := by
  have huser : ofList (user.entries ++ further.entries) = user.insertMany further.entries := by
    rw [ofList, insertMany_append, ← ofList, ofList_entries]
  calc (m.insertMany user.entries).insertMany further.entries
      = m.insertMany (user.entries ++ further.entries) := (insertMany_append ..).symm
    _ = m.insertMany (ofList (user.entries ++ further.entries)).entries :=
        (insertMany_ofList ..).symm
    _ = m.insertMany (user.insertMany further.entries).entries := by rw [huser]

/-- Values of which some come later are collected like maps that are laid over each other. -/
theorem collect_append (keyOf : α → String) (values later : List α) :
    collect keyOf (values ++ later) =
      (collect keyOf values).insertMany (collect keyOf later).entries := by
  rw [collect_eq_ofList, collect_eq_ofList, collect_eq_ofList, insertMany_ofList, List.map_append,
    ofList, insertMany_append, ← ofList]

end OrderedMap

end ClientGen
