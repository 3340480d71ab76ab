import ClientGen.Description.Decode
import ClientGen.Description.Layout
import ClientGen.Json.Reader
import ClientGen.Text.Blank
import ClientGen.Yaml.Reader

/-!
# Reading descriptions

A description is written in JSON or in YAML. It must have a title that is not blank.
-/

namespace ClientGen

/-- Why a text is no description. -/
inductive DescriptionError where
  /-- The text is no JSON, or JSON of another layout. -/
  | json (fault : Json.Fault)
  /-- The text is no YAML, or YAML of another layout. -/
  | yaml
  /-- The title is missing or blank. -/
  | missingTitle
deriving DecidableEq

/-- The notations in which a description is written. -/
inductive Markup where
  | json
  | yaml
deriving DecidableEq

namespace Specification

/-- A specification, if its title is not blank. -/
def withTitle (spec : Specification) : Except DescriptionError Specification :=
  if Text.trim spec.title = "" then .error .missingTitle else .ok spec

/-- The specification that a JSON text describes. -/
def ofJsonText (text : String) : Except DescriptionError Specification :=
  match Json.read Description.fields (.record .specification) text with
  | .error fault => .error (.json fault)
  | .ok value => withTitle (ofJson value)

/-- The specification that a YAML text describes. -/
def ofYamlText (text : String) : Except DescriptionError Specification :=
  match Yaml.read Description.fields (.record .specification) text with
  | none => .error .yaml
  | some value => withTitle (ofJson value)

/-- The specification that a text describes in a markup. -/
def read : Markup → String → Except DescriptionError Specification
  | .json => ofJsonText
  | .yaml => ofYamlText

end Specification

end ClientGen
