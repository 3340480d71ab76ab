import ClientGen.Helper.Standard
import ClientGen.OrderedMap

/-!
# Sets of helpers

A language adds helpers of its own to the standard ones. One with the name of a standard helper
takes its place. All of them are registered as functions and as filters.
-/

namespace ClientGen

/-- The helpers of a language, beside the standard ones. -/
structure HelperSet where
  own : OrderedMap Helper

namespace HelperSet

/-- Where a name leads: to a helper of the language or to a standard one. -/
inductive Found where
  | own (helper : Helper)
  | standard (helper : StandardHelper)

/-- The helper with a name. -/
def lookup? (helpers : HelperSet) (name : String) : Option Found :=
  match helpers.own.get? name with
  | some helper => some (.own helper)
  | none => (StandardHelper.ofName? name).map .standard

/-- The function that is found under a name. -/
def Found.function : Found → Helper
  | .own helper => helper
  | .standard helper => helper.call

/-- The function of the helper with a name. -/
def find? (helpers : HelperSet) (name : String) : Option Helper :=
  (helpers.lookup? name).map Found.function

/-- Calls the helper with a name. -/
def call (helpers : HelperSet) (context : Context) (name : String) (args : List Value) :
    Except TemplateError Value :=
  match helpers.lookup? name with
  | some found => found.function context args
  | none => .error (.unknownHelper name)

/-- The names of all helpers: the standard ones first, then those of the language alone. -/
def names (helpers : HelperSet) : List String :=
  StandardHelper.all.map StandardHelper.name ++
    helpers.own.keys.filter fun name => (StandardHelper.ofName? name).isNone

end HelperSet

/-- What templates can call by a name: as a function, and as a filter of a value. -/
structure Registry where
  functions : OrderedMap Helper
  filters : OrderedMap Helper

/-- Adds a helper as a function and as a filter, in the place of what had its name before. -/
def Registry.add (registry : Registry) (name : String) (helper : Helper) : Registry where
  functions := registry.functions.insert name helper
  filters := registry.filters.insert name helper

namespace HelperSet

/-- Registers the helper with a name. A name without a helper is passed over. -/
def registerName (helpers : HelperSet) (registry : Registry) (name : String) : Registry :=
  match helpers.find? name with
  | some helper => registry.add name helper
  | none => registry

/-- Registers all helpers. -/
def register (helpers : HelperSet) (registry : Registry) : Registry :=
  helpers.names.foldl helpers.registerName registry

end HelperSet

end ClientGen
