/-!
# Maps that remember the order of their keys

An ordered map is a list of entries with distinct keys. Inserting a key that is present replaces
its value and keeps its place; a new key goes to the end.
-/

namespace ClientGen

/-- Entries after `key` is bound to `value`: in place if the key occurs, at the end otherwise. -/
def insertEntry {α : Type} (entries : List (String × α)) (key : String) (value : α) :
    List (String × α) :=
  match entries with
  | [] => [(key, value)]
  | (k, v) :: rest =>
    if k = key then (key, value) :: rest else (k, v) :: insertEntry rest key value

/-- Inserting an entry adds its key and keeps all others. -/
theorem mem_keys_insertEntry {α : Type} {entries : List (String × α)} {key k : String}
    {value : α} :
    k ∈ (insertEntry entries key value).map Prod.fst ↔ k = key ∨ k ∈ entries.map Prod.fst := by
  induction entries with
  | nil => simp [insertEntry]
  | cons entry rest ih =>
    obtain ⟨k', v'⟩ := entry
    by_cases h : k' = key
    · subst h
      simp [insertEntry]
    · simp only [insertEntry, if_neg h, List.map_cons, List.mem_cons, ih]
      exact or_left_comm

/-- Inserting an entry repeats no key. -/
theorem nodup_keys_insertEntry {α : Type} {entries : List (String × α)} (key : String)
    (value : α) (h : (entries.map Prod.fst).Nodup) :
    ((insertEntry entries key value).map Prod.fst).Nodup := by
  induction entries with
  | nil => simp [insertEntry]
  | cons entry rest ih =>
    obtain ⟨k', v'⟩ := entry
    simp only [List.map_cons, List.nodup_cons] at h
    by_cases hk : k' = key
    · subst hk
      simpa [insertEntry] using h
    · simp only [insertEntry, if_neg hk, List.map_cons, List.nodup_cons, ih h.2, and_true]
      rw [mem_keys_insertEntry]
      rintro (rfl | hmem)
      · exact hk rfl
      · exact h.1 hmem

/-- A map from texts with the order in which its keys were first inserted. -/
structure OrderedMap (α : Type) where
  entries : List (String × α)
  nodup_keys : (entries.map Prod.fst).Nodup

namespace OrderedMap

variable {α β : Type}

/-- The map without keys. -/
def empty : OrderedMap α := ⟨[], List.nodup_nil⟩

instance : Inhabited (OrderedMap α) := ⟨empty⟩

instance : EmptyCollection (OrderedMap α) := ⟨empty⟩

/-- Binds a key, in place if it is present and at the end otherwise. -/
def insert (m : OrderedMap α) (key : String) (value : α) : OrderedMap α :=
  ⟨insertEntry m.entries key value, nodup_keys_insertEntry key value m.nodup_keys⟩

/-- The value of a key. -/
def get? (m : OrderedMap α) (key : String) : Option α :=
  m.entries.lookup key

/-- Whether a key is bound. -/
def contains (m : OrderedMap α) (key : String) : Bool :=
  (m.get? key).isSome

/-- The keys in the order of their first insertion. -/
def keys (m : OrderedMap α) : List String :=
  m.entries.map Prod.fst

/-- The values in the order of their keys. -/
def values (m : OrderedMap α) : List α :=
  m.entries.map Prod.snd

/-- The number of keys. -/
def size (m : OrderedMap α) : Nat :=
  m.entries.length

/-- Whether the map has no keys. -/
def isEmpty (m : OrderedMap α) : Bool :=
  m.entries.isEmpty

/-- Inserts entries one after the other. -/
def insertMany (m : OrderedMap α) (entries : List (String × α)) : OrderedMap α :=
  entries.foldl (fun m entry => m.insert entry.1 entry.2) m

/-- The map of a list of entries, in which the last value of a repeated key counts. -/
def ofList (entries : List (String × α)) : OrderedMap α :=
  insertMany empty entries

/-- The map with the same keys and with values computed from the old entries. -/
def mapEntries (f : String → α → β) (m : OrderedMap α) : OrderedMap β :=
  ⟨m.entries.map fun entry => (entry.1, f entry.1 entry.2), by
    simpa [List.map_map, Function.comp_def] using m.nodup_keys⟩

/-- Changes the value of a key, if it is bound. -/
def modify (m : OrderedMap α) (key : String) (f : α → α) : OrderedMap α :=
  ⟨m.entries.map fun entry => (entry.1, if entry.1 = key then f entry.2 else entry.2), by
    simpa [List.map_map, Function.comp_def] using m.nodup_keys⟩

/-- An empty map has no entries. -/
@[simp] theorem entries_empty : (empty : OrderedMap α).entries = [] := rfl

/-- Inserting into a map inserts into its entries. -/
@[simp] theorem entries_insert (m : OrderedMap α) (key : String) (value : α) :
    (m.insert key value).entries = insertEntry m.entries key value := rfl

end OrderedMap

end ClientGen
