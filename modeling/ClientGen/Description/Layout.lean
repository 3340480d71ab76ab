import ClientGen.Schema

/-!
# The layout of a description

The records of an API description and their fields, in the order in which they are declared and
printed.
-/

namespace ClientGen.Description

/-- The records of a description. -/
inductive Record where
  | specification
  | documentation
  | resource
  | method
  | parameter
  | securityScheme

/-- The fields of each record. -/
def fields : Fields Record
  | .specification => [
    ⟨"title", .text, .defaulted⟩,
    ⟨"version", .text, .optionalDefaulted⟩,
    ⟨"baseUri", .text, .optionalDefaulted⟩,
    ⟨"baseUriParameters", .table (.record .parameter), .defaulted⟩,
    ⟨"resources", .list (.record .resource), .defaulted⟩,
    ⟨"securitySchemes", .list (.table (.record .securityScheme)), .defaulted⟩,
    ⟨"documentation", .list (.record .documentation), .defaulted⟩]
  | .documentation => [
    ⟨"title", .text, .required⟩,
    ⟨"content", .text, .defaulted⟩]
  | .resource => [
    ⟨"relativeUri", .text, .defaulted⟩,
    ⟨"displayName", .text, .optional⟩,
    ⟨"uriParameters", .table (.record .parameter), .defaulted⟩,
    ⟨"methods", .list (.record .method), .defaulted⟩,
    ⟨"description", .text, .optional⟩,
    ⟨"resources", .list (.record .resource), .defaulted⟩]
  | .method => [
    ⟨"method", .text, .required⟩,
    ⟨"protocols", .list .text, .defaulted⟩,
    ⟨"responses", .table .any, .defaulted⟩,
    ⟨"body", .any, .optional⟩,
    ⟨"headers", .table (.record .parameter), .defaulted⟩,
    ⟨"queryParameters", .table (.record .parameter), .defaulted⟩,
    ⟨"securedBy", .list .any, .defaulted⟩,
    ⟨"description", .text, .optional⟩]
  | .parameter => [
    ⟨"displayName", .text, .optional⟩,
    ⟨"type", .text, .optional⟩,
    ⟨"enum", .list .any, .optional⟩,
    ⟨"pattern", .text, .optional⟩,
    ⟨"minLength", .count, .optional⟩,
    ⟨"maxLength", .count, .optional⟩,
    ⟨"minimum", .real, .optional⟩,
    ⟨"maximum", .real, .optional⟩,
    ⟨"example", .any, .optional⟩,
    ⟨"repeat", .flag, .defaulted⟩,
    ⟨"required", .flag, .defaulted⟩,
    ⟨"default", .any, .optional⟩,
    ⟨"description", .text, .optional⟩]
  | .securityScheme => [
    ⟨"type", .text, .required⟩,
    ⟨"description", .text, .optional⟩,
    ⟨"settings", .table .any, .defaulted⟩,
    ⟨"describedBy", .any, .optional⟩]

end ClientGen.Description
