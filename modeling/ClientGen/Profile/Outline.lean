import ClientGen.Json.Printer
import ClientGen.Profile
import ClientGen.Text.Quoted

/-!
# Outlines of profiles

A profile on one line for diagnosis. Functions are shown only by whether they are there, and the
sources of templates only by how many bytes they have.
-/

namespace ClientGen

/-- Parts with commas between them. -/
def commaSeparated (parts : List String) : String :=
  ", ".intercalate parts

/-- Parts in braces. -/
def braced (parts : List String) : String :=
  "\x7b" ++ commaSeparated parts ++ "\x7d"

/-- Named parts in braces, after the name of what they make up. -/
def record (name : String) (parts : List (String × String)) : String :=
  name ++ " \x7b " ++ commaSeparated (parts.map fun part => part.1 ++ ": " ++ part.2) ++ " \x7d"

/-- Texts in brackets. -/
def bracketedTexts (texts : List String) : String :=
  "[" ++ commaSeparated (texts.map Text.quoted) ++ "]"

namespace Json

mutual

/-- A value with the names of its kinds. -/
def outline : Json → String
  | .null => "Null"
  | .bool b => "Bool(" ++ toString b ++ ")"
  | .number n => "Number(" ++ String.ofList (numberText n) ++ ")"
  | .text s => "String(" ++ Text.quoted s ++ ")"
  | .array items => "Array [" ++ commaSeparated (outlineItems items) ++ "]"
  | .object members => "Object " ++ braced (outlineMembers members)

/-- Items with the names of their kinds. -/
def outlineItems : List Json → List String
  | [] => []
  | item :: rest => outline item :: outlineItems rest

/-- Members with the names of their kinds. -/
def outlineMembers : List (String × Json) → List String
  | [] => []
  | (key, value) :: rest => (Text.quoted key ++ ": " ++ outline value) :: outlineMembers rest

end

end Json

/-- What a format chooses. -/
def FormatChoices.outline (choices : FormatChoices) : String :=
  record "FormatOverrides" [
    ("uri", toString choices.writeUri.isSome),
    ("variable", toString choices.writeName.isSome),
    ("unique_id", toString choices.numbering.isSome)]

/-- A complete format. -/
def Format.outline (format : Format) : String :=
  "FormatStrategy \x7b unique_id: " ++ toString format.numbering.isSome ++ ", .. \x7d"

/-- How a file is produced. -/
def TemplateBody.outline : TemplateBody → String
  | .source text => "Source(" ++ toString text.utf8ByteSize ++ ")"
  | .native _ => "Native"

/-- A profile on one line. -/
def Profile.outline (profile : Profile) : String :=
  record "LanguageProfile" [
    ("name", Text.quoted profile.name),
    ("templates", braced (profile.templates.entries.map fun entry =>
      Text.quoted entry.1 ++ ": " ++ entry.2.outline)),
    ("partials", bracketedTexts profile.fragments.keys),
    ("helpers", bracketedTexts profile.helpers.keys),
    ("format", profile.format.outline),
    ("options", braced (Json.outlineMembers profile.options.entries)),
    ("files", toString profile.files.isSome)]

end ClientGen
