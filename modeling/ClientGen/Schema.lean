/-!
# Schemas

A schema says what kind of value a document must have at a place. Records have named fields; the
fields of a record are looked up by the record's name, so that records can contain themselves.
Both notations of a description, JSON and YAML, are read by the same schemas.
-/

namespace ClientGen

/-- The kind of value that a place of a document must hold. -/
inductive Schema (Record : Type) where
  /-- A text. -/
  | text
  /-- A natural number of at most 64 bits. -/
  | count
  /-- A number. -/
  | real
  /-- A truth value. -/
  | flag
  /-- Any value. -/
  | any
  /-- One of a few words. -/
  | choice (words : List String)
  /-- A list whose items have one schema. -/
  | list (item : Schema Record)
  /-- A table with any keys whose values have one schema. -/
  | table (value : Schema Record)
  /-- A record. -/
  | record (name : Record)

/-- When a field of a record may be left out. -/
inductive Presence where
  /-- It must be given. -/
  | required
  /-- It may be left out. -/
  | defaulted
  /-- It may be left out of a table or be null, but a list of the fields must reach it. -/
  | optional
  /-- It may be left out or be null. -/
  | optionalDefaulted
deriving DecidableEq

/-- Whether null stands for a field that is not set. -/
def Presence.isNullable : Presence → Bool
  | .optional | .optionalDefaulted => true
  | .required | .defaulted => false

/-- Whether a list of a record's fields may end before a field. -/
def Presence.mayEndBefore : Presence → Bool
  | .defaulted | .optionalDefaulted => true
  | .required | .optional => false

/-- A field of a record. -/
structure Field (Record : Type) where
  key : String
  schema : Schema Record
  presence : Presence

/-- The fields of each record, in the order of their declaration. -/
abbrev Fields (Record : Type) := Record → List (Field Record)

/-- The keys of required fields that are not among the keys given. -/
def missingKeys {Record : Type} (fields : List (Field Record)) (given : List String) :
    List String :=
  (fields.filter fun f => f.presence == .required && !given.contains f.key).map Field.key

end ClientGen
