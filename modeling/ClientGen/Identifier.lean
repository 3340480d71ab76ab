/-!
# Identifiers

An identifier is a prefix and a number: how many identifiers with that prefix have been handed out
since the last reset. A language may number in its own way instead; its numbering sees every
request that was made of it before, and a reset does not concern it.
-/

namespace ClientGen

/-- The prefixes numbered since the last reset, latest first. -/
structure Numbering where
  issued : List String
deriving DecidableEq

namespace Numbering

/-- A numbering that has not been used. -/
def fresh : Numbering := ⟨[]⟩

instance : Inhabited Numbering := ⟨fresh⟩

/-- The next identifier with a prefix. -/
def next (numbering : Numbering) (stem : String) : String × Numbering :=
  (stem ++ toString (numbering.issued.count stem), ⟨stem :: numbering.issued⟩)

end Numbering

/-- A language's own way of numbering: from the prefixes of all earlier requests, latest first, and
the prefix asked for. -/
abbrev CustomNumbering := List String → String → String

/-- What identifiers have been asked for: of the plain numbering since its last reset, and of a
language's own numbering at any time. -/
structure Identifiers where
  numbering : Numbering
  custom : List String
deriving DecidableEq

namespace Identifiers

/-- No identifier has been asked for. -/
def fresh : Identifiers := ⟨.fresh, []⟩

instance : Inhabited Identifiers := ⟨fresh⟩

/-- Starts the plain numbering anew. -/
def reset (ids : Identifiers) : Identifiers :=
  { ids with numbering := .fresh }

/-- The next identifier, by a language's own numbering if it has one. -/
def next (ids : Identifiers) (own : Option CustomNumbering) (stem : String) :
    String × Identifiers :=
  match own with
  | some numberOwn => (numberOwn ids.custom stem, { ids with custom := stem :: ids.custom })
  | none =>
    let (id, numbering) := ids.numbering.next stem
    (id, { ids with numbering })

end Identifiers

end ClientGen
