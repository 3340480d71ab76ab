import ClientGen.Json.Lexeme
import ClientGen.OrderedMap
import ClientGen.Schema

/-!
# Reading JSON by a schema

A text is read in one pass from left to right, and the first problem met, whether in the text or in
the kind of its values, is the one reported. A record may be written as an object or as an array of
its fields in order. Members that are no fields are passed over; a field that is given twice, a
missing field and a value of the wrong kind are mismatches. Lists and tables that are read may nest
127 deep.

The functions recurse on fuel; `read` supplies more than the length of the text can use up.
-/

namespace ClientGen.Json

mutual

/-- Passes over a value that nobody asked for. -/
def skipValue : Nat → List Char → Except Fault (List Char)
  | 0, _ => .error .truncated
  | fuel + 1, cs =>
    match skipBlanks cs with
    | [] => .error .truncated
    | c :: rest =>
      match c with
      | 'n' => scanWord ['u', 'l', 'l'] rest
      | 't' => scanWord ['r', 'u', 'e'] rest
      | 'f' => scanWord ['a', 'l', 's', 'e'] rest
      | '"' => skipText rest
      | '[' => skipItems fuel true rest
      | '{' => skipMembers fuel true rest
      | c =>
        if c = '-' ∨ c.isDigit then (scanNumeral .malformed (c :: rest)).map Prod.snd
        else .error .malformed

/-- Passes over the items of a list up to its end. -/
def skipItems : Nat → Bool → List Char → Except Fault (List Char)
  | 0, _, _ => .error .truncated
  | fuel + 1, isFirst, cs => do
    match ← scanNext isFirst ']' cs with
    | .close rest => .ok rest
    | .entry rest =>
      let rest ← skipValue fuel rest
      skipItems fuel false rest

/-- Passes over the members of an object up to its end. -/
def skipMembers : Nat → Bool → List Char → Except Fault (List Char)
  | 0, _, _ => .error .truncated
  | fuel + 1, isFirst, cs => do
    match ← scanNext isFirst '}' cs with
    | .close rest => .ok rest
    | .entry ('"' :: rest) =>
      let rest ← skipText rest
      let rest ← scanColon rest
      let rest ← skipValue fuel rest
      skipMembers fuel false rest
    | .entry _ => .error .malformed

end

/-- The fault of a value that is not of the kind asked for: a malformed value is reported as such,
but of a list or table only the opening is looked at. -/
def mismatch (cs : List Char) : Fault :=
  let faultOf {α : Type} : Except Fault α → Fault
    | .error fault => fault
    | .ok _ => .mismatched
  match cs with
  | [] => .truncated
  | c :: rest =>
    match c with
    | 'n' => faultOf (scanWord ['u', 'l', 'l'] rest)
    | 't' => faultOf (scanWord ['r', 'u', 'e'] rest)
    | 'f' => faultOf (scanWord ['a', 'l', 's', 'e'] rest)
    | '"' => faultOf (scanText rest)
    | '[' | '{' => .mismatched
    | c =>
      if c = '-' ∨ c.isDigit then
        match scanNumeral .truncated (c :: rest) with
        | .error fault => fault
        | .ok (numeral, _) => if numeral.toNumber?.isSome then .mismatched else .malformed
      else .malformed

/-- Reads a number. -/
def readNumber (cs : List Char) : Except Fault (Found JsonNumber) := do
  let (numeral, rest) ← scanNumeral .truncated cs
  match numeral.toNumber? with
  | some n => .ok (n, rest)
  | none => .error .malformed

/-- Whether a number starts with the character. -/
def startsNumeral (c : Char) : Bool :=
  c == '-' || c.isDigit

/-- Reads a text. -/
def readText (cs : List Char) : Except Fault (Found String) :=
  match skipBlanks cs with
  | '"' :: rest => scanText rest
  | cs => .error (mismatch cs)

/-- Reads a truth value. -/
def readFlag (cs : List Char) : Except Fault (Found Bool) :=
  match skipBlanks cs with
  | 't' :: rest => (scanWord ['r', 'u', 'e'] rest).map fun rest => (true, rest)
  | 'f' :: rest => (scanWord ['a', 'l', 's', 'e'] rest).map fun rest => (false, rest)
  | cs => .error (mismatch cs)

/-- Reads a number that satisfies a condition. -/
def readNumberAs {α : Type} (convert? : JsonNumber → Option α) (cs : List Char) :
    Except Fault (Found α) :=
  match skipBlanks cs with
  | c :: rest =>
    if startsNumeral c then do
      let (n, rest) ← readNumber (c :: rest)
      match convert? n with
      | some x => .ok (x, rest)
      | none => .error .mismatched
    else .error (mismatch (c :: rest))
  | [] => .error .truncated

/-- A number as a natural number, if it is an integer and not negative. -/
def JsonNumber.toCount? : JsonNumber → Option Int
  | .int n => if 0 ≤ n then some n else none
  | .real _ => none

/-- A number as a double. -/
def JsonNumber.toReal : JsonNumber → Float
  | .int n => Float.ofInt n
  | .real x => x

/-- Passes the end of an array after the last field of a record. -/
def closeFields (cs : List Char) : Except Fault (List Char) :=
  match skipBlanks cs with
  | [] => .error .truncated
  | ']' :: rest => .ok rest
  | _ => .error .malformed

/-- How a value that is null may be read: as a field that is not set. -/
def scanNull? (presence : Presence) (cs : List Char) : Option (Except Fault (List Char)) :=
  match presence.isNullable, skipBlanks cs with
  | true, 'n' :: rest => some (scanWord ['u', 'l', 'l'] rest)
  | _, _ => none

section Values

variable {Record : Type} (fields : Fields Record)

mutual

/-- Reads a value by a schema; `depth` lists and tables may still be opened. -/
def readValue : Nat → Nat → Schema Record → List Char → Except Fault (Found Json)
  | 0, _, _, _ => .error .truncated
  | _ + 1, _, .text, cs => (readText cs).map fun (s, rest) => (.text s, rest)
  | _ + 1, _, .flag, cs => (readFlag cs).map fun (b, rest) => (.bool b, rest)
  | _ + 1, _, .count, cs =>
    (readNumberAs JsonNumber.toCount? cs).map fun (n, rest) => (.int n, rest)
  | _ + 1, _, .real, cs =>
    (readNumberAs (fun n => some (JsonNumber.toReal n)) cs).map fun (x, rest) => (.real x, rest)
  | _ + 1, _, .choice words, cs => do
    let (s, rest) ← readText cs
    if words.contains s then .ok (.text s, rest) else .error .mismatched
  | fuel + 1, depth, .list item, cs =>
    match skipBlanks cs with
    | '[' :: rest =>
      match depth with
      | 0 => .error .malformed
      | depth + 1 => do
        let (items, rest) ← readItems fuel depth item true rest
        .ok (.array items, rest)
    | cs => .error (mismatch cs)
  | fuel + 1, depth, .table value, cs =>
    match skipBlanks cs with
    | '{' :: rest =>
      match depth with
      | 0 => .error .malformed
      | depth + 1 => do
        let (members, rest) ← readEntries fuel depth value true [] rest
        .ok (.object members, rest)
    | cs => .error (mismatch cs)
  | fuel + 1, depth, .record name, cs =>
    match skipBlanks cs with
    | '{' :: rest =>
      match depth with
      | 0 => .error .malformed
      | depth + 1 => do
        let (members, rest) ← readMembers fuel depth (fields name) true [] rest
        .ok (.object members, rest)
    | '[' :: rest =>
      match depth with
      | 0 => .error .malformed
      | depth + 1 => do
        let (members, rest) ← readFields fuel depth true (fields name) rest
        .ok (.object members, rest)
    | cs => .error (mismatch cs)
  | fuel + 1, depth, .any, cs =>
    match skipBlanks cs with
    | [] => .error .truncated
    | c :: rest =>
      match c with
      | 'n' => (scanWord ['u', 'l', 'l'] rest).map fun rest => (.null, rest)
      | 't' => (scanWord ['r', 'u', 'e'] rest).map fun rest => (.bool true, rest)
      | 'f' => (scanWord ['a', 'l', 's', 'e'] rest).map fun rest => (.bool false, rest)
      | '"' => (scanText rest).map fun (s, rest) => (.text s, rest)
      | '[' =>
        match depth with
        | 0 => .error .malformed
        | depth + 1 => do
          let (items, rest) ← readItems fuel depth .any true rest
          .ok (.array items, rest)
      | '{' =>
        match depth with
        | 0 => .error .malformed
        | depth + 1 => do
          let (members, rest) ← readEntries fuel depth .any true [] rest
          .ok (.object members, rest)
      | c =>
        if startsNumeral c then
          (readNumber (c :: rest)).map fun (n, rest) => (.number n, rest)
        else .error .malformed

/-- Reads the items of a list up to its end. -/
def readItems :
    Nat → Nat → Schema Record → Bool → List Char → Except Fault (Found (List Json))
  | 0, _, _, _, _ => .error .truncated
  | fuel + 1, depth, item, isFirst, cs => do
    match ← scanNext isFirst ']' cs with
    | .close rest => .ok ([], rest)
    | .entry rest =>
      let (value, rest) ← readValue fuel depth item rest
      let (values, rest) ← readItems fuel depth item false rest
      .ok (value :: values, rest)

/-- Reads the entries of a table up to its end; a key that comes again replaces its value. -/
def readEntries :
    Nat → Nat → Schema Record → Bool → List (String × Json) → List Char →
      Except Fault (Found (List (String × Json)))
  | 0, _, _, _, _, _ => .error .truncated
  | fuel + 1, depth, value, isFirst, entries, cs => do
    match ← scanNext isFirst '}' cs with
    | .close rest => .ok (entries, rest)
    | .entry rest =>
      let (key, rest) ← scanKey rest
      let rest ← scanColon rest
      let (v, rest) ← readValue fuel depth value rest
      readEntries fuel depth value false (insertEntry entries key v) rest

/-- Reads the members of a record up to its end. A field that is null or left out is not among the
members returned. -/
def readMembers :
    Nat → Nat → List (Field Record) → Bool → List (String × Option Json) → List Char →
      Except Fault (Found (List (String × Json)))
  | 0, _, _, _, _, _ => .error .truncated
  | fuel + 1, depth, fields, isFirst, members, cs => do
    match ← scanNext isFirst '}' cs with
    | .close rest =>
      if missingKeys fields (members.map Prod.fst) = [] then
        .ok (members.reverse.filterMap fun (key, value) => value.map fun v => (key, v), rest)
      else .error .mismatched
    | .entry rest =>
      let (key, rest) ← scanKey rest
      match fields.find? fun f => f.key == key with
      | none =>
        let rest ← scanColon rest
        let rest ← skipValue fuel rest
        readMembers fuel depth fields false members rest
      | some field =>
        if (members.map Prod.fst).contains key then .error .mismatched
        else
          let rest ← scanColon rest
          let (value, rest) ← readField fuel depth field rest
          readMembers fuel depth fields false ((key, value) :: members) rest

/-- Reads the fields of a record that is written as an array. -/
def readFields :
    Nat → Nat → Bool → List (Field Record) → List Char →
      Except Fault (Found (List (String × Json)))
  | 0, _, _, _, _ => .error .truncated
  | _ + 1, _, _, [], cs => (closeFields cs).map fun rest => ([], rest)
  | fuel + 1, depth, isFirst, field :: fields, cs => do
    match ← scanNext isFirst ']' cs with
    | .close rest =>
      if (field :: fields).all fun f => f.presence.mayEndBefore then .ok ([], rest)
      else .error .mismatched
    | .entry rest =>
      let (value, rest) ← readField fuel depth field rest
      let (members, rest) ← readFields fuel depth false fields rest
      .ok (((value.map fun v => (field.key, v)).toList ++ members), rest)

/-- Reads the value of a field, which may be null if the field need not be set. -/
def readField : Nat → Nat → Field Record → List Char → Except Fault (Found (Option Json))
  | 0, _, _, _ => .error .truncated
  | fuel + 1, depth, field, cs =>
    match scanNull? field.presence cs with
    | some scanned => scanned.map fun rest => (none, rest)
    | none => (readValue fuel depth field.schema cs).map fun (v, rest) => (some v, rest)

end

/-- Reads a whole text by a schema. -/
def read (schema : Schema Record) (text : String) : Except Fault Json := do
  let cs := text.toList
  let (value, rest) ← readValue fields (3 * cs.length + 3) 127 schema cs
  if skipBlanks rest = [] then .ok value else .error .malformed

end Values

/-- Reads a whole text as a value of any kind. -/
def parse (text : String) : Except Fault Json :=
  read (fun record : Empty => nomatch record) .any text

end ClientGen.Json
