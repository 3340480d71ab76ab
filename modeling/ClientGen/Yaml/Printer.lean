import ClientGen.Json.Printer
import ClientGen.Yaml.Cursor
import ClientGen.Yaml.Plain

/-!
# Printing YAML

Values are written in block style: every entry of a mapping and every item of a list starts a line,
empty collections stand on one line, and a list in a mapping starts at the column of its key. A text
is plain if it then reads as itself. Otherwise it is a literal block if it has several lines, is put
between single quotes, or, if a character has to be escaped, between double quotes.
-/

namespace ClientGen.Yaml

/-- Whether a scalar may hold a character as it is, which is not so for controls and the byte order
mark. -/
def isShown (c : Char) : Bool :=
  let n := c.toNat
  n == 0xA || (0x20 ≤ n && n ≤ 0x7E) || (0xA0 ≤ n && n ≤ 0xFFFD && n != 0xFEFF) || 0x10000 ≤ n

/-- Whether a character begins something else than a plain scalar. -/
def isIndicator (c : Char) : Bool :=
  ['#', ',', '[', ']', '\x7b', '\x7d', '&', '*', '!', '|', '>', '\x27', '"', '%', '@',
    '\x60'].contains c

/-- Whether a text starts with an indicator or a document marker. -/
def startsWithIndicator : List Char → Bool
  | [] => false
  | cs@(c :: rest) =>
    isIndicator c || (['?', ':', '-'].contains c && atGap rest) ||
      cs.take 3 == ['-', '-', '-'] || cs.take 3 == ['.', '.', '.']

/-- Whether a text has a colon that ends a key, or a hash that starts a comment, after its first
character. -/
def hasInnerIndicator : List Char → Bool
  | a :: b :: rest =>
    (b == ':' && atGap rest) || (b == '#' && (isBlank a || isBreak a)) ||
      hasInnerIndicator (b :: rest)
  | _ => false

/-- Whether a character with one property is followed by one with another property. -/
def hasPair (first second : Char → Bool) (cs : List Char) : Bool :=
  (cs.zip cs.tail).any fun (a, b) => first a && second b

/-- Whether a text can be written without escapes, at least as a literal block. -/
def isPlainlyShown (cs : List Char) : Bool :=
  cs.all isShown && !hasPair (· == ' ') isBreak cs

/-- Whether a text can stand between single quotes. -/
def fitsSingle (cs : List Char) : Bool :=
  isPlainlyShown cs && !hasPair isBreak (· == ' ') cs

/-- Whether a text can be a literal block. -/
def fitsLiteral (cs : List Char) : Bool :=
  isPlainlyShown cs && cs.getLast?.any (· != ' ')

/-- Whether a text can be plain without being taken for something that is no scalar. -/
def fitsPlain (cs : List Char) : Bool :=
  fitsSingle cs && !cs.any isBreak && cs.head? != some ' ' && cs.getLast? != some ' ' &&
    !startsWithIndicator cs && !hasInnerIndicator cs

/-- Whether a plain scalar would be read as another value than a text, or looks like a number with
a needless zero in front. -/
def isAmbiguous (s : String) : Bool :=
  match meaning s with
  | .text => hasLeadingZero s.toList
  | _ => true

/-- The characters of a text with blanks up to a column at the start of every line but the last one
if that is empty. No break is added. -/
def indentLines (column : Nat) (atStart : Bool) : List Char → List Char
  | [] => []
  | c :: rest =>
    if isBreak c then c :: indentLines column true rest
    else if atStart then List.replicate column ' ' ++ c :: indentLines column false rest
    else c :: indentLines column false rest

/-- A text between single quotes, where a single quote is written twice. -/
def singleQuoted (column : Nat) (cs : List Char) : List Char :=
  let inner := indentLines column false (cs.flatMap fun c => if c = '\x27' then [c, c] else [c])
  let closing := if cs.getLast?.any isBreak then List.replicate column ' ' else []
  '\x27' :: inner ++ closing ++ ['\x27']

/-- What follows the bar of a literal block: the depth of its lines if its first line does not show
it, and whether the breaks at its end are dropped or kept, beyond the usual one. -/
def literalHints (cs : List Char) : List Char :=
  let depth := if cs.head?.any fun c => c == ' ' || isBreak c then ['2'] else []
  let ending :=
    match cs.reverse with
    | [] => ['-']
    | [c] => if isBreak c then ['+'] else ['-']
    | c :: before :: _ => if !isBreak c then ['-'] else if isBreak before then ['+'] else []
  depth ++ ending

/-- A text as a literal block whose lines start at a column. -/
def literalBlock (column : Nat) (cs : List Char) : List Char :=
  '|' :: literalHints cs ++ '\n' :: indentLines column true cs

/-- A number in hexadecimal digits with capital letters, at least as many as given. -/
def paddedHex (width n : Nat) : List Char :=
  let digits := (Nat.toDigits 16 n).map Char.toUpper
  List.replicate (width - digits.length) '0' ++ digits

/-- The form of a character between double quotes. -/
def doubleQuotedChar (c : Char) : List Char :=
  match c with
  | '\x00' => ['\\', '0']
  | '\x07' => ['\\', 'a']
  | '\x08' => ['\\', 'b']
  | '\t' => ['\\', 't']
  | '\n' => ['\\', 'n']
  | '\x0b' => ['\\', 'v']
  | '\x0c' => ['\\', 'f']
  | '\r' => ['\\', 'r']
  | '\x1b' => ['\\', 'e']
  | '"' => ['\\', '"']
  | '\\' => ['\\', '\\']
  | '\u0085' => ['\\', 'N']
  | '\u2028' => ['\\', 'L']
  | '\u2029' => ['\\', 'P']
  | c =>
    if isShown c then [c]
    else if c.toNat ≤ 0xFF then '\\' :: 'x' :: paddedHex 2 c.toNat
    else if c.toNat ≤ 0xFFFF then '\\' :: 'u' :: paddedHex 4 c.toNat
    else '\\' :: 'U' :: paddedHex 8 c.toNat

/-- A text between double quotes. -/
def doubleQuoted (cs : List Char) : List Char :=
  '"' :: cs.flatMap doubleQuotedChar ++ ['"']

/-- A text as a scalar; its further lines start at a column. -/
def scalarChars (column : Nat) (s : String) : List Char :=
  let cs := s.toList
  if cs.contains '\n' then if fitsLiteral cs then literalBlock column cs else doubleQuoted cs
  else if fitsPlain cs && !isAmbiguous s then cs
  else if fitsSingle cs then singleQuoted column cs
  else doubleQuoted cs

/-- What ends the line of a text: nothing if the text is a literal block that ends with a break. -/
def lineEnd (s : String) : List Char :=
  if fitsLiteral s.toList && s.toList.getLast?.any isBreak && s.toList.contains '\n' then []
  else ['\n']

mutual

/-- The form of a value after the indicator of a list's item, whose inner lines start at a
column. -/
def itemChars (column : Nat) : Json → List Char
  | .array (item :: rest) => listChars (column + 2) false (item :: rest)
  | .object (entry :: rest) => mappingChars (column + 2) false (entry :: rest)
  | value => inlineChars column value

/-- The form of a value after a key in a column. -/
def entryChars (column : Nat) : Json → List Char
  | .array (item :: rest) => '\n' :: listChars column true (item :: rest)
  | .object (entry :: rest) => '\n' :: mappingChars (column + 2) true (entry :: rest)
  | value => ' ' :: inlineChars column value

/-- The form of a value that starts on a line that is begun, with the end of its last line. -/
def inlineChars (column : Nat) : Json → List Char
  | .text s => scalarChars (column + 2) s ++ lineEnd s
  | .array _ => ['[', ']', '\n']
  | .object _ => ['\x7b', '\x7d', '\n']
  | .null => "null\n".toList
  | .bool b => (if b then "true\n" else "false\n").toList
  | .number n => Json.numberText n ++ ['\n']

/-- The items of a list in a column; `fresh` says whether the first one starts a line. -/
def listChars (column : Nat) (fresh : Bool) : List Json → List Char
  | [] => []
  | item :: rest =>
    List.replicate (if fresh then column else 0) ' ' ++ '-' :: ' ' :: itemChars column item ++
      listChars column true rest

/-- The entries of a mapping in a column; `fresh` says whether the first one starts a line. -/
def mappingChars (column : Nat) (fresh : Bool) : List (String × Json) → List Char
  | [] => []
  | (key, value) :: rest =>
    List.replicate (if fresh then column else 0) ' ' ++ scalarChars (column + 2) key ++
      ':' :: entryChars column value ++ mappingChars column true rest

end

/-- The YAML text of a value. -/
def render (value : Json) : String :=
  String.ofList <|
    match value with
    | .array (item :: rest) => listChars 0 true (item :: rest)
    | .object (entry :: rest) => mappingChars 0 true (entry :: rest)
    | value => inlineChars 0 value

end ClientGen.Yaml
