import ClientGen.Context
import ClientGen.Profile
import ClientGen.Proofs.OrderedMap

/-!
# Precedence of later values

Of several security schemes with one type the last counts, and of a default option and the user's
the user's does. Neither moves a key: a type stands where it first occurs, and a default stays
before the options that only the user has. So options can be laid over each other in any grouping.
-/

namespace ClientGen

namespace OrderedMap

variable {α : Type}

/-- What it means that a map holds values under their keys: the keys stand in the order in which
they first occur, and each has the last value with that key. -/
structure Indexes (index : OrderedMap α) (keyOf : α → String) (values : List α) : Prop where
  keys_eq : index.keys = (values.map keyOf).eraseDups
  get?_eq : ∀ key, index.get? key = (values.filter fun value => keyOf value = key).getLast?

/-- What it means that a map is made by laying one over another: the keys below come first and then
those that are only above, each in their order, and a value above counts before the one below. -/
structure LiesOver (combined below above : OrderedMap α) : Prop where
  keys_eq : combined.keys = below.keys ++ above.keys.filter fun key => key ∉ below.keys
  get?_eq : ∀ key, combined.get? key = (above.get? key).or (below.get? key)

/-- Values that are collected are held under their keys. -/
theorem indexes_collect (keyOf : α → String) (values : List α) :
    (collect keyOf values).Indexes keyOf values :=
  ⟨keys_collect, fun _ => get?_collect⟩

/-- Entries that are inserted one after the other lie over those that were there. -/
theorem liesOver_insertMany (below above : OrderedMap α) :
    (below.insertMany above.entries).LiesOver below above :=
  ⟨keys_insertMany_entries below above, get?_insertMany below above⟩

end OrderedMap

/-! ## Security schemes -/

namespace Context

/-- Schemes are collected under their types, whichever entries they stand in. -/
theorem schemesByType_eq_collect (entries : List (OrderedMap SecurityScheme)) :
    schemesByType entries =
      .collect SecurityScheme.type (entries.flatMap OrderedMap.values) :=
  rfl

/-- Schemes that are declared later are laid over those before them. -/
theorem schemesByType_append (entries later : List (OrderedMap SecurityScheme)) :
    schemesByType (entries ++ later) =
      (schemesByType entries).insertMany (schemesByType later).entries := by
  simp only [schemesByType_eq_collect, List.flatMap_append, OrderedMap.collect_append]

end Context

/-! ## Options -/

/-- Of three layers of options the first two or the last two can be combined first. -/
theorem Options.overlay_assoc (defaults user further : Options) :
    (defaults.overlay user).overlay further = defaults.overlay (user.overlay further) :=
  OrderedMap.insertMany_assoc defaults user further

/-! ## Precedence -/

/-- Of several values with one key the last counts, in the place of the first: among the security
schemes of any entries, and between default options and the user's. Hence neither depends on how the
entries or the layers of options are grouped. -/
theorem indexes_schemesByType_and_liesOver_overlay :
    (∀ entries : List (OrderedMap SecurityScheme),
      (Context.schemesByType entries).Indexes SecurityScheme.type
        (entries.flatMap OrderedMap.values)) ∧
    (∀ entries later : List (OrderedMap SecurityScheme),
      Context.schemesByType (entries ++ later) =
        (Context.schemesByType entries).insertMany (Context.schemesByType later).entries) ∧
    (∀ defaults user : Options, (defaults.overlay user).LiesOver defaults user) ∧
    ∀ defaults user further : Options,
      (defaults.overlay user).overlay further = defaults.overlay (user.overlay further) := by
  refine ⟨fun entries => ?_, Context.schemesByType_append, fun defaults user => ?_,
    Options.overlay_assoc⟩
  · rw [Context.schemesByType_eq_collect]
    exact OrderedMap.indexes_collect _ _
  · exact OrderedMap.liesOver_insertMany defaults user

end ClientGen
