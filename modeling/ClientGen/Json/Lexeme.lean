import ClientGen.Json.Numeral
import ClientGen.Text.CodePoint

/-!
# Lexemes of JSON

The scanners for blanks, words, numerals and quoted texts. Each takes the characters that are left
and returns what it found with the characters after it. A value that nobody asked for is scanned
more leniently: surrogates need not be paired, and a numeral that the text's end cuts off is
malformed rather than truncated.
-/

namespace ClientGen.Json

/-- Why a text cannot be read. -/
inductive Fault where
  /-- The text is not JSON, nests too deeply or holds a number out of range. -/
  | malformed
  /-- The text ends too early. -/
  | truncated
  /-- The text is JSON, but not of the kind that was asked for. -/
  | mismatched
deriving DecidableEq

/-- What a scanner finds: a value and the characters after it. -/
abbrev Found (α : Type) := α × List Char

/-- Whether a character may stand between lexemes. -/
def isBlank (c : Char) : Bool :=
  c == ' ' || c == '\n' || c == '\t' || c == '\r'

/-- The characters after leading blanks. -/
def skipBlanks (cs : List Char) : List Char :=
  cs.dropWhile isBlank

/-- Scans the letters of a word. -/
def scanWord : List Char → List Char → Except Fault (List Char)
  | [], cs => .ok cs
  | _ :: _, [] => .error .truncated
  | w :: word, c :: cs => if w = c then scanWord word cs else .error .malformed

/-- Scans the digits of a numeral's whole part: a lone zero, or digits that start with another. -/
def scanWhole (atEnd : Fault) (cs : List Char) : Except Fault (Found (List Char)) :=
  match cs with
  | [] => .error atEnd
  | c :: rest =>
    if c = '0' then
      match rest with
      | [] => .ok (['0'], [])
      | d :: _ => if d.isDigit then .error .malformed else .ok (['0'], rest)
    else if c.isDigit then .ok (cs.takeWhile Char.isDigit, cs.dropWhile Char.isDigit)
    else .error .malformed

/-- Scans one or more digits. -/
def scanDigits (atEnd : Fault) (cs : List Char) : Except Fault (Found (List Char)) :=
  match cs with
  | [] => .error atEnd
  | c :: _ =>
    if c.isDigit then .ok (cs.takeWhile Char.isDigit, cs.dropWhile Char.isDigit)
    else .error .malformed

/-- Scans a fraction, if one comes next. -/
def scanFraction (atEnd : Fault) (cs : List Char) : Except Fault (Found (List Char)) :=
  match cs with
  | '.' :: rest => scanDigits atEnd rest
  | _ => .ok ([], cs)

/-- Scans an exponent, if one comes next: whether it is negative, and its digits. -/
def scanExponent (atEnd : Fault) (cs : List Char) : Except Fault (Found (Bool × List Char)) :=
  match cs with
  | c :: rest =>
    if c = 'e' ∨ c = 'E' then
      let (negative, digits) :=
        match rest with
        | '-' :: digits => (true, digits)
        | '+' :: digits => (false, digits)
        | digits => (false, digits)
      (scanDigits atEnd digits).map fun (digits, rest) => ((negative, digits), rest)
    else .ok ((false, []), cs)
  | [] => .ok ((false, []), [])

/-- Scans a numeral that starts with a digit or a minus sign. -/
def scanNumeral (atEnd : Fault) (cs : List Char) : Except Fault (Found Numeral) := do
  let (negative, cs) :=
    match cs with
    | '-' :: rest => (true, rest)
    | cs => (false, cs)
  let (whole, cs) ← scanWhole atEnd cs
  let (fraction, cs) ← scanFraction atEnd cs
  let ((exponentNegative, exponent), cs) ← scanExponent atEnd cs
  .ok ({ negative, whole, fraction, exponentNegative, exponent }, cs)

/-- Scans four hexadecimal digits. The text is truncated if it has fewer than four bytes left. -/
def scanHex (cs : List Char) : Except Fault (Found Nat) :=
  if (String.ofList (cs.take 4)).utf8ByteSize < 4 then .error .truncated
  else if cs.length < 4 then .error .malformed
  else
    match Text.number? 16 (cs.take 4) with
    | some n => .ok (n, cs.drop 4)
    | none => .error .malformed

/-- Scans the four digits of a code point and, after a leading surrogate, its trailing one. -/
def scanCodePoint (cs : List Char) : Except Fault (Found Char) := do
  let (lead, cs) ← scanHex cs
  if 0xDC00 ≤ lead ∧ lead ≤ 0xDFFF then .error .malformed
  else if 0xD800 ≤ lead ∧ lead ≤ 0xDBFF then
    match cs with
    | [] => .error .truncated
    | ['\\'] => .error .truncated
    | '\\' :: 'u' :: cs =>
      let (trail, cs) ← scanHex cs
      match Text.charOfPair? lead trail with
      | some c => .ok (c, cs)
      | none => .error .malformed
    | _ => .error .malformed
  else .ok (Char.ofNat lead, cs)

/-- The character that a one-letter escape stands for. -/
def simpleEscape? : Char → Option Char
  | '"' => some '"'
  | '\\' => some '\\'
  | '/' => some '/'
  | 'b' => some '\x08'
  | 'f' => some '\x0c'
  | 'n' => some '\n'
  | 'r' => some '\r'
  | 't' => some '\t'
  | _ => none

/-- Scans the character after a backslash. -/
def scanEscape (cs : List Char) : Except Fault (Found Char) :=
  match cs with
  | [] => .error .truncated
  | 'u' :: rest => scanCodePoint rest
  | c :: rest =>
    match simpleEscape? c with
    | some c => .ok (c, rest)
    | none => .error .malformed

/-- Scans the rest of a quoted text; each of its characters uses up one unit of fuel. -/
def scanQuoted (scanOne : List Char → Except Fault (Found Char)) :
    Nat → List Char → Except Fault (Found (List Char))
  | 0, _ => .error .truncated
  | _ + 1, [] => .error .truncated
  | fuel + 1, c :: rest =>
    if c = '"' then .ok ([], rest)
    else if c = '\\' then do
      let (c, rest) ← scanOne rest
      let (cs, rest) ← scanQuoted scanOne fuel rest
      .ok (c :: cs, rest)
    else if c.toNat < 0x20 then .error .malformed
    else do
      let (cs, rest) ← scanQuoted scanOne fuel rest
      .ok (c :: cs, rest)

/-- Scans a text after its opening quote. -/
def scanText (cs : List Char) : Except Fault (Found String) :=
  (scanQuoted scanEscape (cs.length + 1) cs).map fun (cs, rest) => (String.ofList cs, rest)

/-- Scans the character after a backslash in a text that nobody asked for. -/
def skipEscape (cs : List Char) : Except Fault (Found Char) :=
  match cs with
  | [] => .error .truncated
  | 'u' :: rest => (scanHex rest).map fun (_, rest) => ('u', rest)
  | c :: rest => if (simpleEscape? c).isSome then .ok (c, rest) else .error .malformed

/-- Passes over a text after its opening quote. -/
def skipText (cs : List Char) : Except Fault (List Char) :=
  (scanQuoted skipEscape (cs.length + 1) cs).map Prod.snd

/-- What comes next in a list or table that is being read: its end, or another entry. -/
inductive Next where
  | close (rest : List Char)
  | entry (rest : List Char)

/-- Finds the end of a list or table or its next entry; all entries but the first follow a
comma. -/
def scanNext (isFirst : Bool) (close : Char) (cs : List Char) : Except Fault Next :=
  match skipBlanks cs with
  | [] => .error .truncated
  | c :: rest =>
    if c = close then .ok (.close rest)
    else if isFirst then .ok (.entry (c :: rest))
    else if c = ',' then
      match skipBlanks rest with
      | [] => .error .truncated
      | d :: rest => if d = close then .error .malformed else .ok (.entry (d :: rest))
    else .error .malformed

/-- Scans the key of a member. -/
def scanKey (cs : List Char) : Except Fault (Found String) :=
  match cs with
  | '"' :: rest => scanText rest
  | _ => .error .malformed

/-- Scans the colon between a key and its value. -/
def scanColon (cs : List Char) : Except Fault (List Char) :=
  match skipBlanks cs with
  | [] => .error .truncated
  | ':' :: rest => .ok rest
  | _ => .error .malformed

end ClientGen.Json
