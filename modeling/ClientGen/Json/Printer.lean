import ClientGen.Decimal.Layout
import ClientGen.Json.Basic

/-!
# Printing JSON

The compact form has no blanks. The indented form puts every item and member on a line of its own
and leaves empty arrays and objects on one line.
-/

namespace ClientGen.Json

/-- Doubles are written positionally for decimal exponents from -5 to 15. -/
def numberLayout : Decimal.Layout := ⟨fun e => -5 ≤ e && e ≤ 15, ['+']⟩

/-- A number as text; a double that is not finite has none and becomes null. -/
def numberText : JsonNumber → List Char
  | .int (.ofNat n) => Nat.toDigits 10 n
  | .int (.negSucc n) => '-' :: Nat.toDigits 10 (n + 1)
  | .real x => if x.isFinite then numberLayout.text x else ['n', 'u', 'l', 'l']

/-- The form of one character inside a JSON text. -/
def escapedChar (c : Char) : List Char :=
  match c with
  | '"' => ['\\', '"']
  | '\\' => ['\\', '\\']
  | '\x08' => ['\\', 'b']
  | '\x0c' => ['\\', 'f']
  | '\n' => ['\\', 'n']
  | '\r' => ['\\', 'r']
  | '\t' => ['\\', 't']
  | c =>
    if c.toNat < 0x20 then
      ['\\', 'u', '0', '0', Nat.digitChar (c.toNat / 16), Nat.digitChar (c.toNat % 16)]
    else [c]

/-- A text in quotes. -/
def quotedText (s : String) : List Char :=
  '"' :: s.toList.flatMap escapedChar ++ ['"']

mutual

/-- The compact form of a value. -/
def compactChars : Json → List Char
  | .null => ['n', 'u', 'l', 'l']
  | .bool true => ['t', 'r', 'u', 'e']
  | .bool false => ['f', 'a', 'l', 's', 'e']
  | .number n => numberText n
  | .text s => quotedText s
  | .array items => '[' :: compactItems items ++ [']']
  | .object members => '{' :: compactMembers members ++ ['}']

/-- The compact forms of items with commas between them. -/
def compactItems : List Json → List Char
  | [] => []
  | [item] => compactChars item
  | item :: rest => compactChars item ++ ',' :: compactItems rest

/-- The compact forms of members with commas between them. -/
def compactMembers : List (String × Json) → List Char
  | [] => []
  | [(key, value)] => quotedText key ++ ':' :: compactChars value
  | (key, value) :: rest =>
    quotedText key ++ ':' :: compactChars value ++ ',' :: compactMembers rest

end

/-- A line break and the blanks that start a line at a nesting level. -/
def lineStart (width level : Nat) : List Char :=
  '\n' :: List.replicate (width * level) ' '

mutual

/-- The indented form of a value at a nesting level, with `width` blanks a level. -/
def indentedChars (width level : Nat) : Json → List Char
  | .array [] => ['[', ']']
  | .array (item :: rest) =>
    '[' :: indentedItems width (level + 1) (item :: rest) ++ lineStart width level ++ [']']
  | .object [] => ['{', '}']
  | .object (member :: rest) =>
    '{' :: indentedMembers width (level + 1) (member :: rest) ++ lineStart width level ++ ['}']
  | value => compactChars value

/-- The indented forms of items, each on a line of its own. -/
def indentedItems (width level : Nat) : List Json → List Char
  | [] => []
  | [item] => lineStart width level ++ indentedChars width level item
  | item :: rest =>
    lineStart width level ++ indentedChars width level item ++
      ',' :: indentedItems width level rest

/-- The indented forms of members, each on a line of its own. -/
def indentedMembers (width level : Nat) : List (String × Json) → List Char
  | [] => []
  | [(key, value)] =>
    lineStart width level ++ quotedText key ++ ':' :: ' ' :: indentedChars width level value
  | (key, value) :: rest =>
    lineStart width level ++ quotedText key ++ ':' :: ' ' :: indentedChars width level value ++
      ',' :: indentedMembers width level rest

end

/-- The compact text of a value. -/
def compact (value : Json) : String :=
  String.ofList (compactChars value)

/-- The indented text of a value, with `width` blanks a level. -/
def indented (width : Nat) (value : Json) : String :=
  String.ofList (indentedChars width 0 value)

end ClientGen.Json
