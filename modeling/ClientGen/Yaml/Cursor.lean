/-!
# Reading positions of YAML

The classes of characters that the structure of a YAML text hangs on, and a cursor: the characters
that are left, with the number of characters passed and the current line and column.
-/

namespace ClientGen.Yaml

/-- Whether a character may occur in a YAML text at all. -/
def isAllowed (c : Char) : Bool :=
  let n := c.toNat
  n == 0x9 || n == 0xA || n == 0xD || (0x20 ≤ n && n ≤ 0x7E) || n == 0x85 ||
    (0xA0 ≤ n && n ≤ 0xFFFD) || 0x10000 ≤ n

/-- Whether a character ends a line. -/
def isBreak (c : Char) : Bool :=
  c == '\n' || c == '\r' || c == '\u0085' || c == '\u2028' || c == '\u2029'

/-- Whether a character is a blank or a tab. -/
def isBlank (c : Char) : Bool :=
  c == ' ' || c == '\t'

/-- Whether a character may stand in the name of an anchor, a directive or a tag handle. -/
def isWordChar (c : Char) : Bool :=
  c.isAlphanum || c == '-' || c == '_'

/-- Whether the characters start with a blank or a line break, or there are none. -/
def atGap : List Char → Bool
  | [] => true
  | c :: _ => isBlank c || isBreak c

/-- Whether the characters start with a line break, or there are none. -/
def atLineEnd : List Char → Bool
  | [] => true
  | c :: _ => isBreak c

/-- A position in a text: the characters left, how many were passed, and line and column. -/
structure Cursor where
  rest : List Char
  index : Nat
  line : Nat
  column : Nat

namespace Cursor

/-- The position at the start of a text. -/
def start (text : List Char) : Cursor := ⟨text, 0, 0, 0⟩

/-- The position after one character of the same line. -/
def skip (c : Cursor) : Cursor :=
  match c.rest with
  | [] => c
  | _ :: rest => { c with rest, index := c.index + 1, column := c.column + 1 }

/-- The position after as many characters of the same line as given. -/
def skipMany (c : Cursor) (count : Nat) : Cursor :=
  { c with rest := c.rest.drop count, index := c.index + count, column := c.column + count }

/-- The position after all characters of the same line that satisfy a test. -/
def skipWhile (c : Cursor) (test : Char → Bool) : Cursor :=
  c.skipMany (c.rest.takeWhile test).length

/-- Passes a line break, if one comes next, and returns how it counts in a scalar. -/
def readBreak (c : Cursor) : List Char × Cursor :=
  let next (text : List Char) (count : Nat) (rest : List Char) : List Char × Cursor :=
    (text, { rest, index := c.index + count, line := c.line + 1, column := 0 })
  match c.rest with
  | '\r' :: '\n' :: rest => next ['\n'] 2 rest
  | b :: rest =>
    if b = '\u2028' ∨ b = '\u2029' then next [b] 1 rest
    else if isBreak b then next ['\n'] 1 rest
    else ([], c)
  | [] => ([], c)

/-- Whether the position is at a line that starts with a document marker made of a character. -/
def atMarker (c : Cursor) (mark : Char) : Bool :=
  c.column == 0 &&
    match c.rest with
    | x :: y :: z :: rest => x == mark && y == mark && z == mark && atGap rest
    | _ => false

/-- Whether the position is at the start or the end marker of a document. -/
def atDocumentMarker (c : Cursor) : Bool :=
  c.atMarker '-' || c.atMarker '.'

end Cursor

end ClientGen.Yaml
