/-!
# Errors of templates

Why a template cannot be compiled or rendered.
-/

namespace ClientGen

/-- What is wrong with a template or what it does. -/
inductive TemplateError where
  /-- The template does not follow the grammar. -/
  | malformed
  /-- A quoted text has an escape that means nothing. -/
  | badEscape
  /-- Something undefined is looked into. -/
  | undefinedValue
  | unknownFilter
  | unknownTest
  | unknownFunction
  | unknownMethod
  /-- No helper has the name. -/
  | unknownHelper (name : String)
  /-- A helper is called with fewer arguments than it needs. -/
  | missingArguments (needed : Nat)
  /-- A helper is called without its only argument. -/
  | missingArgument
  | tooManyArguments
  /-- Values do not allow what is done with them. -/
  | invalidOperation
  /-- A map has a key that JSON does not allow. -/
  | unserializable
  /-- A value cannot be taken apart into as many names as are given. -/
  | cannotUnpack
  | templateNotFound
  /-- Rendering an included template fails. -/
  | failedInclude
deriving DecidableEq

/-- The text of an error, where it is worded by the helpers. -/
def TemplateError.message? : TemplateError → Option String
  | .unknownHelper name => some ("unknown helper \x60" ++ name ++ "\x60")
  | .missingArguments needed =>
    some ("helper expects at least " ++ toString needed ++ " argument(s)")
  | .missingArgument => some "helper expects at least 1 argument"
  | _ => none

end ClientGen
