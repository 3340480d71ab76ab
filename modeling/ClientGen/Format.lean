import ClientGen.Identifier

/-!
# Formats of a language

How a language wants URIs and names to be written and identifiers to be numbered. Only the writing
of names must be given; URIs are left as they are and identifiers numbered plainly by default.
-/

namespace ClientGen

/-- The parts of a format that a language chooses. -/
structure FormatChoices where
  writeUri : Option (String → String)
  writeName : Option (String → String)
  numbering : Option CustomNumbering

instance : Inhabited FormatChoices := ⟨⟨none, none, none⟩⟩

/-- A complete format. -/
structure Format where
  writeUri : String → String
  writeName : String → String
  numbering : Option CustomNumbering

/-- The format of some choices; there is none without a way to write names. -/
def FormatChoices.resolve? (choices : FormatChoices) : Option Format :=
  choices.writeName.map fun writeName => {
    writeUri := choices.writeUri.getD id
    writeName
    numbering := choices.numbering }

/-- A format without a way to write names is incomplete, and no other is. -/
theorem FormatChoices.resolve?_eq_none_iff {choices : FormatChoices} :
    choices.resolve? = none ↔ choices.writeName = none := by
  simp [resolve?]

/-- The next identifier in a format. -/
def Format.nextId (format : Format) (ids : Identifiers) (stem : String) : String × Identifiers :=
  ids.next format.numbering stem

end ClientGen
