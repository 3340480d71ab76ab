import ClientGen.Decimal.Nearest
import ClientGen.Template.Error
import ClientGen.Text.Blank
import ClientGen.Text.CodePoint
import ClientGen.Text.Digits
import ClientGen.Width

/-!
# Tokens of templates

A template is text with outputs between `{{` and `}}`, blocks between `{%` and `%}`, and comments
between `{#` and `#}`. A hyphen inside a delimiter removes the white space on its outer side. Apart
from that, the blanks between the start of a line and a block or a comment are removed, and so is
the line break right after one; a plus sign inside the delimiter keeps them. Between `{% raw %}` and
`{% endraw %}` everything is text. An output or a block ends only where no bracket is open in it.

Scanning never fails: a fault becomes the last token, and is met where reading gets to it.
-/

namespace ClientGen.Template

/-- A token. -/
inductive Token where
  /-- Text that is written as it is. -/
  | content (text : String)
  | outputStart
  | outputEnd
  | blockStart
  | blockEnd
  /-- A name or a keyword. -/
  | word (name : String)
  /-- A quoted text. -/
  | text (value : String)
  | int (value : Nat)
  | real (value : Float)
  /-- An operator or a bracket. -/
  | sign (sign : String)
  /-- What cannot be scanned. -/
  | fault (error : TemplateError)
deriving DecidableEq

namespace Token

/-- A quoted text. -/
def text? : Token → Option String
  | .text value => some value
  | _ => none

/-- Whether a token is a quoted text. -/
def isText (token : Token) : Bool :=
  token.text?.isSome

/-- Whether a token stands for what cannot be scanned. -/
def isFault : Token → Bool
  | .fault _ => true
  | _ => false

/-! ## White space around delimiters -/

/-- What becomes of the white space next to a delimiter. -/
inductive Trim where
  /-- Blanks at the start of a line, or the line break after a block, are removed. -/
  | line
  /-- All white space is kept. -/
  | keep
  /-- All white space is removed. -/
  | remove
deriving DecidableEq

/-- The trimming that a character inside a delimiter asks for. -/
def Trim.ofChar? : Option Char → Trim
  | some '-' => .remove
  | some '+' => .keep
  | _ => .line

/-- Whether a character is white space that does not end a line. -/
def isInlineBlank (c : Char) : Bool :=
  Text.isBlank c && c != '\n'

/-- The text before a block without the blanks at the start of its last line; whether the text
itself starts a line is given. -/
def dropLineStart (startsLine : Bool) (cs : List Char) : List Char :=
  match cs.reverse.dropWhile isInlineBlank with
  | [] => if startsLine then [] else cs
  | c :: rest => if c = '\n' then (c :: rest).reverse else cs

/-- The text before a delimiter, trimmed. -/
def trimBefore (trim : Trim) (startsLine isOutput : Bool) (cs : List Char) : List Char :=
  match trim with
  | .remove => Text.dropEndWhile Text.isBlank cs
  | .keep => cs
  | .line => if isOutput then cs else dropLineStart startsLine cs

/-- The text after a block without the line break at its start, and whether there was one. -/
def dropLineBreak : List Char → List Char × Bool
  | '\r' :: '\n' :: rest => (rest, true)
  | '\r' :: rest => (rest, true)
  | '\n' :: rest => (rest, true)
  | cs => (cs, false)

/-- The text after a block or a comment, trimmed, and whether it starts a line. -/
def trimAfter (trim : Trim) (cs : List Char) : List Char × Bool :=
  match trim with
  | .remove => (cs.dropWhile Text.isBlank, false)
  | .keep => (cs, false)
  | .line => dropLineBreak cs

/-- A template without the line break at its end. -/
def dropFinalBreak (cs : List Char) : List Char :=
  let dropLast (c : Char) (cs : List Char) : List Char :=
    match cs with
    | d :: rest => if c = d then rest else d :: rest
    | [] => []
  (dropLast '\r' (dropLast '\n' cs.reverse)).reverse

/-! ## Delimiters -/

/-- What a delimiter opens. -/
inductive Opening where
  | output
  | block
  | comment
deriving DecidableEq

/-- The characters before the first opening delimiter, and what follows it. -/
def splitAtOpening : List Char → List Char × Option (Opening × List Char)
  | '{' :: '{' :: rest => ([], some (.output, rest))
  | '{' :: '%' :: rest => ([], some (.block, rest))
  | '{' :: '#' :: rest => ([], some (.comment, rest))
  | c :: rest =>
    let (before, opening) := splitAtOpening rest
    (c :: before, opening)
  | [] => ([], none)

/-- The characters before a mark of two characters, and those after it. -/
def splitAtMark? (first second : Char) : List Char → Option (List Char × List Char)
  | c :: d :: rest =>
    if c = first ∧ d = second then some ([], rest)
    else (splitAtMark? first second (d :: rest)).map fun (before, after) => (c :: before, after)
  | _ => none

/-- Whether a character is white space inside a delimiter. -/
def isPlainBlank (c : Char) : Bool :=
  c == ' ' || c == '\t' || c == '\n' || c == '\r' || c == '\x0c'

/-- What follows a block that consists of a word, and the trimming at its end. The characters after
the opening delimiter and the sign for trimming in it are given. -/
def afterWordBlock? (word : List Char) (cs : List Char) : Option (List Char × Trim) :=
  let cs := cs.dropWhile isPlainBlank
  if word.isPrefixOf cs then
    match (cs.drop word.length).dropWhile isPlainBlank with
    | '-' :: '%' :: '}' :: rest => some (rest, .remove)
    | '+' :: '%' :: '}' :: rest => some (rest, .keep)
    | '%' :: '}' :: rest => some (rest, .line)
    | _ => none
  else none

/-- The characters after the sign for trimming in an opening delimiter. -/
def dropTrimSign : List Char → List Char
  | '-' :: rest | '+' :: rest => rest
  | cs => cs

/-- The content of a raw block, and what follows the block that ends it with the trimming there. -/
def splitAtRawEnd? (cs : List Char) (trim : Trim) : Option (List Char × List Char × Trim) :=
  let rec search (before : List Char) : List Char → Option (List Char × List Char × Trim)
    | '{' :: '%' :: rest =>
      match afterWordBlock? "endraw".toList (dropTrimSign rest) with
      | some (after, trimEnd) =>
        let content := before.reverse
        let content :=
          match trim with
          | .line => (dropLineBreak content).1
          | .remove => content.dropWhile Text.isBlank
          | .keep => content
        some (trimBefore (.ofChar? rest.head?) true false content, after, trimEnd)
      | none => search ('%' :: '{' :: before) rest
    | c :: rest => search (c :: before) rest
    | [] => none
  search [] cs

/-! ## Inside delimiters -/

/-- Whether a character may start a name. -/
def isNameStart (c : Char) : Bool :=
  c == '_' || ('a' ≤ c && c ≤ 'z') || ('A' ≤ c && c ≤ 'Z')

/-- Whether a character may go on a name. -/
def isNamePart (c : Char) : Bool :=
  isNameStart c || c.isDigit

/-- What has been scanned of a number. -/
inductive NumberPart where
  | whole
  | fraction
  | exponentStart
  | exponent
deriving DecidableEq

/-- Whether a point after digits belongs to their number, by what follows it: neither the name of a
member nor a number with its first digit missing. -/
def continuesNumber : List Char → Bool
  | c :: _ => c == 'e' || c == 'E' || !isNameStart c
  | [] => true

/-- The characters of a number and those after it, with the last part of the number. -/
def splitNumber (part : NumberPart) : List Char → List Char × List Char × NumberPart
  | [] => ([], [], part)
  | c :: rest =>
    let next : Option NumberPart :=
      if c = '_' then some part
      else if c.isDigit then some (if part = .exponentStart then .exponent else part)
      else if c = '.' ∧ part = .whole ∧ continuesNumber rest then some .fraction
      else if (c = 'e' ∨ c = 'E') ∧ (part = .whole ∨ part = .fraction) then some .exponentStart
      else if (c = '+' ∨ c = '-') ∧ part = .exponentStart then some .exponent
      else none
    match next with
    | none => ([], c :: rest, part)
    | some part =>
      let (taken, after, last) := splitNumber part rest
      (c :: taken, after, last)

/-- The double that is written with a point or an exponent. -/
def decimalReal? (cs : List Char) : Option Float :=
  let whole := cs.takeWhile Char.isDigit
  let rest := cs.dropWhile Char.isDigit
  let (fraction, rest) :=
    match rest with
    | '.' :: rest => (rest.takeWhile Char.isDigit, rest.dropWhile Char.isDigit)
    | rest => ([], rest)
  let value (exponent : Int) : Float :=
    Decimal.nearest (Text.decimal (whole ++ fraction)) (exponent - fraction.length)
  match rest.drop 1 with
  | [] => if rest = [] then some (value 0) else none
  | '-' :: digits => if digits = [] then none else some (value (-Text.decimal digits))
  | '+' :: digits => if digits = [] then none else some (value (Text.decimal digits))
  | digits => some (value (Text.decimal digits))

/-- The token of a number. -/
def ofNumber (cs : List Char) (last : NumberPart) : Token :=
  let digits := cs.filter (· != '_')
  if cs.getLast? = some '_' then .fault .malformed
  else if last = .whole then
    let n := Text.decimal digits
    if fitsUnsigned 128 n then .int n else .fault .malformed
  else
    match decimalReal? digits with
    | some x => .real x
    | none => .fault .malformed

/-- The base that the first two characters of a number stand for, if they do. -/
def radix? : List Char → Option Nat
  | '0' :: 'b' :: _ | '0' :: 'B' :: _ => some 2
  | '0' :: 'o' :: _ | '0' :: 'O' :: _ => some 8
  | '0' :: 'x' :: _ | '0' :: 'X' :: _ => some 16
  | _ => none

/-- The token of a whole number in a base, for the characters after the mark of the base, and the
characters after the number. -/
def scanRadix (base : Nat) (cs : List Char) : Token × List Char :=
  let isPart (c : Char) : Bool :=
    c.isDigit || c == '_' || (base == 16 && (Text.digitValue? 16 c).isSome)
  let taken := cs.takeWhile isPart
  let digits := taken.filter (· != '_')
  let token : Token :=
    if taken.getLast? = some '_' then .fault .malformed
    else
      match Text.number? base digits with
      | some n => if fitsUnsigned 128 n then .int n else .fault .malformed
      | none => .fault .malformed
  (token, cs.dropWhile isPart)

/-- The characters of a quoted text up to the mark that ends it, and those after it. -/
def splitQuoted? (mark : Char) : List Char → Option (List Char × List Char)
  | [] => none
  | '\\' :: c :: rest =>
    (splitQuoted? mark rest).map fun (inside, after) => ('\\' :: c :: inside, after)
  | c :: rest =>
    if c = mark then some ([], rest)
    else if c = '\\' then none
    else (splitQuoted? mark rest).map fun (inside, after) => (c :: inside, after)

/-- The character of an escape of one letter. -/
def escapedChar? : Char → Option Char
  | '"' => some '"'
  | '\\' => some '\\'
  | '/' => some '/'
  | '\'' => some '\''
  | 'b' => some '\x08'
  | 'f' => some '\x0c'
  | 'n' => some '\n'
  | 'r' => some '\r'
  | 't' => some '\t'
  | _ => none

/-- The number that as many hexadecimal digits as given stand for, of which a plus sign may take the
place of the first, and the characters after them. -/
def splitHex? (count : Nat) (cs : List Char) : Option (Nat × List Char) :=
  let group := cs.take count
  let digits :=
    match group with
    | '+' :: digits => digits
    | digits => digits
  if group.length < count then none
  else (Text.number? 16 digits).map fun n => (n, cs.drop count)

/-- The octal digits at the start of characters, at most three. -/
def octalDigits (cs : List Char) : List Char :=
  (cs.take 3).takeWhile fun c => '0' ≤ c && c ≤ '7'

/-- A quoted text with its escapes replaced, in as many steps as given. Two units of a surrogate
pair give one character, and a backslash that starts no escape stays as it is. -/
def unescape? : Nat → List Char → Option (List Char)
  | 0, _ => none
  | _, [] => some []
  | _, '\\' :: [] => none
  | steps + 1, '\\' :: 'u' :: rest => do
    let (unit, after) ← splitHex? 4 rest
    if 0xD800 ≤ unit ∧ unit < 0xE000 then
      match after with
      | '\\' :: 'u' :: rest =>
        let (trail, after) ← splitHex? 4 rest
        let pair ← Text.charOfPair? unit trail
        return pair :: (← unescape? steps after)
      | _ => none
    else return Char.ofNat unit :: (← unescape? steps after)
  | steps + 1, '\\' :: 'x' :: rest => do
    let (code, after) ← splitHex? 2 rest
    return Char.ofNat code :: (← unescape? steps after)
  | steps + 1, '\\' :: c :: rest =>
    match escapedChar? c with
    | some e => (unescape? steps rest).map (e :: ·)
    | none =>
      let digits := octalDigits (c :: rest)
      match Text.number? 8 digits with
      | some code => (unescape? steps ((c :: rest).drop digits.length)).map (Char.ofNat code :: ·)
      | none => (unescape? steps rest).map fun inside => '\\' :: c :: inside
  | steps + 1, c :: rest => (unescape? steps rest).map (c :: ·)

/-- The operators and brackets, longer ones first. -/
def signs : List String := [
  "//", "**", "==", "!=", ">=", "<=", "+", "-", "*", "/", "%", ".", ",", ":", "~", "|", "=", ">",
  "<", "(", ")", "[", "]", "\x7b", "\x7d"]

/-- The operator or bracket at the start of characters. -/
def signAt? (cs : List Char) : Option String :=
  signs.find? fun sign => sign.toList.isPrefixOf cs

/-! ## Scanning -/

/-- Where scanning stands. -/
inductive Place where
  /-- Outside of delimiters; whether the text from here on starts a line. -/
  | outside (startsLine : Bool)
  /-- In an output, with some brackets open. -/
  | inOutput (brackets : Nat)
  /-- In a block, with some brackets open. -/
  | inBlock (brackets : Nat)
deriving DecidableEq

/-- The brackets that are open after a sign. -/
def bracketsAfter (brackets : Nat) (sign : String) : Nat :=
  if ["(", "[", "\x7b"].contains sign then brackets + 1
  else if [")", "]", "\x7d"].contains sign then brackets - 1
  else brackets

/-- Where scanning stands after a sign. -/
def Place.afterSign (place : Place) (sign : String) : Place :=
  match place with
  | .outside startsLine => .outside startsLine
  | .inOutput brackets => .inOutput (bracketsAfter brackets sign)
  | .inBlock brackets => .inBlock (bracketsAfter brackets sign)

/-- The token for text, which is left out if the text is empty. -/
def contentOf (cs : List Char) : List Token :=
  if cs = [] then [] else [.content (String.ofList cs)]

/-- Scans characters; each step takes some off or is the last one. -/
def scanFrom : Nat → Place → List Char → List Token
  | 0, _, _ => []
  | _, _, [] => []
  | fuel + 1, .outside startsLine, cs =>
    match splitAtOpening cs with
    | (before, none) => contentOf before
    | (before, some (opening, rest)) =>
      let trim := Trim.ofChar? rest.head?
      let text := contentOf (trimBefore trim startsLine (opening == .output) before)
      match opening with
      | .output => text ++ .outputStart :: scanFrom fuel (.inOutput 0) (dropTrimSign rest)
      | .comment =>
        match splitAtMark? '#' '}' (dropTrimSign rest) with
        | none => text ++ [.fault .malformed]
        | some (inside, after) =>
          let (after, startsLine) := trimAfter (.ofChar? inside.getLast?) after
          text ++ scanFrom fuel (.outside startsLine) after
      | .block =>
        match afterWordBlock? "raw".toList (dropTrimSign rest) with
        | some (after, trim) =>
          match splitAtRawEnd? after trim with
          | none => text ++ [.fault .malformed]
          | some (verbatim, after, trim) =>
            let (after, startsLine) := trimAfter trim after
            text ++ .content (String.ofList verbatim) ::
              scanFrom fuel (.outside startsLine) after
        | none => text ++ .blockStart :: scanFrom fuel (.inBlock 0) (dropTrimSign rest)
  | fuel + 1, place, c :: rest =>
    if isPlainBlank c then scanFrom fuel place rest
    else
      match place, c :: rest with
      | .inBlock 0, '-' :: '%' :: '}' :: after =>
        .blockEnd :: scanFrom fuel (.outside false) (trimAfter .remove after).1
      | .inBlock 0, '+' :: '%' :: '}' :: after => .blockEnd :: scanFrom fuel (.outside false) after
      | .inBlock 0, '%' :: '}' :: after =>
        let (after, startsLine) := trimAfter .line after
        .blockEnd :: scanFrom fuel (.outside startsLine) after
      | .inOutput 0, '-' :: '}' :: '}' :: after =>
        .outputEnd :: scanFrom fuel (.outside false) (trimAfter .remove after).1
      | .inOutput 0, '+' :: '}' :: '}' :: after =>
        .outputEnd :: scanFrom fuel (.outside false) after
      | .inOutput 0, '}' :: '}' :: after => .outputEnd :: scanFrom fuel (.outside false) after
      | place, cs =>
        match signAt? cs with
        | some mark => .sign mark :: scanFrom fuel (place.afterSign mark) (cs.drop mark.length)
        | none =>
          if c = '\'' ∨ c = '"' then
            match splitQuoted? c rest with
            | none => [.fault .malformed]
            | some (inside, after) =>
              match unescape? (inside.length + 1) inside with
              | none => [.fault .badEscape]
              | some value => .text (String.ofList value) :: scanFrom fuel place after
          else if c.isDigit then
            match radix? cs with
            | some base =>
              let (token, after) := scanRadix base (cs.drop 2)
              token :: scanFrom fuel place after
            | none =>
              let (number, after, last) := splitNumber .whole cs
              .ofNumber number last :: scanFrom fuel place after
          else if isNameStart c then
            .word (String.ofList (cs.takeWhile isNamePart)) ::
              scanFrom fuel place (cs.dropWhile isNamePart)
          else [.fault .malformed]

/-- The tokens of a template. -/
def scan (template : String) : List Token :=
  let cs := dropFinalBreak template.toList
  scanFrom (cs.length + 1) (.outside true) cs

end Token

end ClientGen.Template
