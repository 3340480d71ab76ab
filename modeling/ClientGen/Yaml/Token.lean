import ClientGen.Yaml.Scalar

/-!
# Tokens of YAML

A text is cut into tokens from left to right. Indentation becomes tokens too: a block collection
starts where an entry or a key stands deeper than the collection around it, and ends where a line
stands less deep. Whether something is a key shows only at the colon after it, so the places where
a key may have started are remembered, and the token of the key is put in there afterwards.
-/

namespace ClientGen.Yaml

/-- How a scalar is written. -/
inductive ScalarStyle where
  | plain
  | quoted
  | literal
  | folded
deriving DecidableEq

/-- A token. -/
inductive Token where
  | version (major minor : Nat)
  | tagDirective (handle stem : List Char)
  | documentStart
  | documentEnd
  | blockSequenceStart
  | blockMappingStart
  | blockEnd
  | flowSequenceStart
  | flowSequenceEnd
  | flowMappingStart
  | flowMappingEnd
  | blockEntry
  | flowEntry
  | key
  | value
  | alias (name : List Char)
  | anchor (name : List Char)
  | tag (handle suffix : List Char)
  | scalar (style : ScalarStyle) (text : List Char)
deriving DecidableEq

/-! ## Anchors, tags and directives -/

/-- Scans the name of an anchor or alias after its indicator. -/
def scanAnchorName (cursor : Cursor) : Option (List Char × Cursor) :=
  let name := cursor.rest.takeWhile isWordChar
  let cursor := cursor.skipMany name.length
  let ends : Bool :=
    match cursor.rest with
    | [] => true
    | c :: _ => isBlank c || isBreak c || ['?', ':', ',', ']', '}', '%', '@', '\x60'].contains c
  if name ≠ [] ∧ ends then some (name, cursor) else none

/-- Scans a tag handle. Outside a directive the text may turn out to be no whole handle. -/
def scanTagHandle (inDirective : Bool) (cursor : Cursor) : Option (List Char × Cursor) :=
  match cursor.rest with
  | '!' :: rest =>
    let word := rest.takeWhile isWordChar
    let after := cursor.skipMany (word.length + 1)
    if after.rest.head? = some '!' then some ('!' :: word ++ ['!'], after.skip)
    else if inDirective ∧ word ≠ [] then none
    else some ('!' :: word, after)
  | _ => none

/-- The number of octets of the character that starts with an octet. -/
def octetCount? (octet : Nat) : Option Nat :=
  if octet < 0x80 then some 1
  else if octet / 0x20 = 6 then some 2
  else if octet / 0x10 = 14 then some 3
  else if octet / 0x8 = 30 then some 4
  else none

/-- The octet that a percent sign and two hexadecimal digits stand for. -/
def escapedOctet? : List Char → Option (Nat × List Char)
  | '%' :: a :: b :: rest => do
    let octet ← Text.number? 16 [a, b]
    some (octet, rest)
  | _ => none

/-- Reads as many further octets of a character as given. -/
def escapedTail? : Nat → Nat → List Char → Option (Nat × List Char)
  | 0, code, rest => some (code, rest)
  | count + 1, code, rest => do
    let (octet, rest) ← escapedOctet? rest
    if octet / 0x40 = 2 then escapedTail? count (code * 0x40 + octet % 0x40) rest else none

/-- Reads a character written as escaped octets. -/
def escapedChar? (cs : List Char) : Option (Char × List Char) := do
  let (octet, rest) ← escapedOctet? cs
  let count ← octetCount? octet
  let (code, rest) ← escapedTail? (count - 1)
    (if count = 1 then octet else octet % Nat.pow 2 (7 - count)) rest
  some ((Text.charOfCode? code).getD '\ufffd', rest)

/-- Whether a character may stand in a tag as it is; in a verbatim tag or a directive some more
may. -/
def isTagChar (verbatim : Bool) (c : Char) : Bool :=
  isWordChar c ||
    [';', '/', '?', ':', '@', '&', '=', '+', '$', '.', '!', '~', '*', '\x27', '(', ')'].contains c
      || (verbatim && [',', '[', ']'].contains c)

/-- Scans the characters of a tag. -/
def scanTagChars (verbatim : Bool) : Nat → Cursor → Option (List Char × Cursor)
  | 0, cursor => some ([], cursor)
  | fuel + 1, cursor =>
    match cursor.rest with
    | [] => some ([], cursor)
    | c :: _ =>
      if c = '%' then do
        let (c, after) ← escapedChar? cursor.rest
        let (cs, cursor) ← scanTagChars verbatim fuel
          (cursor.skipMany (cursor.rest.length - after.length))
        some (c :: cs, cursor)
      else if isTagChar verbatim c then do
        let (cs, cursor) ← scanTagChars verbatim fuel cursor.skip
        some (c :: cs, cursor)
      else some ([], cursor)

/-- Scans the rest of a tag of which `head` has been read; there must be something of it. -/
def scanTagUri (verbatim : Bool) (head : List Char) (cursor : Cursor) :
    Option (List Char × Cursor) := do
  let (cs, cursor) ← scanTagChars verbatim (cursor.rest.length + 1) cursor
  if head = [] ∧ cs = [] then none else some (head.drop 1 ++ cs, cursor)

/-- Whether a text is a whole tag handle with a name or the secondary handle. -/
def isNamedHandle (handle : List Char) : Bool :=
  handle.length > 1 && handle.getLast? == some '!'

/-- Scans a tag. -/
def scanTag (inFlow : Bool) (cursor : Cursor) : Option (Token × Cursor) := do
  let (token, cursor) ←
    match cursor.rest with
    | '!' :: '<' :: _ => do
      let (suffix, cursor) ← scanTagUri true [] (cursor.skipMany 2)
      if cursor.rest.head? = some '>' then some (Token.tag [] suffix, cursor.skip) else none
    | _ => do
      let (handle, cursor) ← scanTagHandle false cursor
      if isNamedHandle handle then
        let (suffix, cursor) ← scanTagUri false [] cursor
        some (Token.tag handle suffix, cursor)
      else
        let (suffix, cursor) ← scanTagUri false handle cursor
        if suffix = [] then some (Token.tag [] ['!'], cursor)
        else some (Token.tag ['!'] suffix, cursor)
  if atGap cursor.rest ∨ (inFlow ∧ cursor.rest.head? = some ',') then some (token, cursor)
  else none

/-- Scans a number of a version; it has at most nine digits. -/
def scanVersionNumber (cursor : Cursor) : Option (Nat × Cursor) :=
  let digits := cursor.rest.takeWhile Char.isDigit
  if digits = [] ∨ digits.length > 9 then none
  else
    some (digits.foldl (fun n d => 10 * n + (d.toNat - '0'.toNat)) 0,
      cursor.skipMany digits.length)

/-- Scans a directive with the rest of its line. -/
def scanDirective (cursor : Cursor) : Option (Token × Cursor) := do
  let cursor := cursor.skip
  let name := cursor.rest.takeWhile isWordChar
  let cursor := cursor.skipMany name.length
  if name = [] ∨ !atGap cursor.rest then none
  else
    let cursor := cursor.skipWhile isBlank
    let (token, cursor) ←
      if name = "YAML".toList then do
        let (major, cursor) ← scanVersionNumber cursor
        if cursor.rest.head? = some '.' then
          let (minor, cursor) ← scanVersionNumber cursor.skip
          some (Token.version major minor, cursor)
        else none
      else if name = "TAG".toList then do
        let (handle, cursor) ← scanTagHandle true cursor
        if cursor.rest.head?.any isBlank then
          let (stem, cursor) ← scanTagUri true [] (cursor.skipWhile isBlank)
          if atGap cursor.rest then some (Token.tagDirective handle stem, cursor) else none
        else none
      else none
    let cursor := cursor.skipWhile isBlank
    let cursor :=
      if cursor.rest.head? = some '#' then cursor.skipWhile fun c => !isBreak c else cursor
    if atLineEnd cursor.rest then some (token, cursor.readBreak.2) else none

/-! ## The scanner -/

/-- A place where a key may have started: the position of its first token, and whether it must
turn out to be a key. -/
structure PossibleKey where
  token : Nat
  index : Nat
  line : Nat
  column : Nat
  isRequired : Bool

/-- The state of the scanner. There is one possible key for every flow collection that is open, the
innermost first, and one for the block around them. -/
structure Scanner where
  cursor : Cursor
  tokens : Array Token
  indent : Int
  indents : List Int
  keyAllowed : Bool
  keys : List (Option PossibleKey)

namespace Scanner

/-- The state at the start of a text. -/
def start (text : List Char) : Scanner where
  cursor := .start text
  tokens := #[]
  indent := -1
  indents := []
  keyAllowed := true
  keys := [none]

/-- Whether a flow collection is open. -/
def inFlow (s : Scanner) : Bool :=
  s.keys.length > 1

/-- Adds a token and moves on to a position. -/
def emit (s : Scanner) (token : Token) (cursor : Cursor) : Scanner :=
  { s with tokens := s.tokens.push token, cursor }

/-- Closes the block collections that stand deeper than a column. -/
def unrollTo (column : Int) : List Int → Int → Array Token → Array Token × Int × List Int
  | [], indent, tokens => (tokens, indent, [])
  | outer :: indents, indent, tokens =>
    if indent > column then unrollTo column indents outer (tokens.push .blockEnd)
    else (tokens, indent, outer :: indents)

/-- Closes the block collections that stand deeper than a column, unless a flow collection is
open. -/
def unroll (s : Scanner) (column : Int) : Scanner :=
  if s.inFlow then s
  else
    let (tokens, indent, indents) := unrollTo column s.indents s.indent s.tokens
    { s with tokens, indent, indents }

/-- Opens a block collection before a token if its column stands deeper than the collection around
it, unless a flow collection is open. -/
def roll (s : Scanner) (column : Nat) (position : Nat) (token : Token) : Scanner :=
  if s.inFlow ∨ (column : Int) ≤ s.indent then s
  else
    { s with
      indents := s.indent :: s.indents
      indent := column
      tokens := s.tokens.insertIdxIfInBounds position token }

/-- Forgets the innermost possible key, which must not be a required one. -/
def removeKey (s : Scanner) : Option Scanner :=
  match s.keys with
  | some key :: keys => if key.isRequired then none else some { s with keys := none :: keys }
  | _ => some s

/-- Remembers that a key may start here, if one is allowed. -/
def saveKey (s : Scanner) : Option Scanner :=
  if s.keyAllowed then do
    let s ← s.removeKey
    let key : PossibleKey := {
      token := s.tokens.size
      index := s.cursor.index
      line := s.cursor.line
      column := s.cursor.column
      isRequired := !s.inFlow && s.indent == (s.cursor.column : Int) }
    some { s with keys := some key :: s.keys.drop 1 }
  else some s

/-- Forgets the possible keys that are on an earlier line or too far back; none of them may be
required. -/
def dropStaleKeys (s : Scanner) : Option Scanner := do
  let isStale (key : PossibleKey) : Bool :=
    key.line < s.cursor.line || key.index + 1024 < s.cursor.index
  let keys ← s.keys.mapM fun
    | some key =>
      if !isStale key then some (some key) else if key.isRequired then none else some none
    | none => some none
  some { s with keys }

/-- Passes blanks, comments and line breaks. A tab counts as a blank only where no key may start;
in a block a key may start on a new line. -/
def skipGap : Nat → Scanner → Scanner
  | 0, s => s
  | fuel + 1, s =>
    let cursor :=
      if s.cursor.column = 0 ∧ s.cursor.rest.head? = some '\ufeff' then s.cursor.skip else s.cursor
    let tabsPass := s.inFlow || !s.keyAllowed
    let cursor := cursor.skipWhile fun c => c == ' ' || (tabsPass && c == '\t')
    let cursor :=
      if cursor.rest.head? = some '#' then cursor.skipWhile fun c => !isBreak c else cursor
    if cursor.rest.head?.any isBreak then
      skipGap fuel { s with cursor := cursor.readBreak.2, keyAllowed := s.keyAllowed || !s.inFlow }
    else { s with cursor }

/-- Scans a token that stands for itself and before which no key is pending. -/
def marker (s : Scanner) (token : Token) (width : Nat) (keyAllowed : Bool) : Option Scanner := do
  let s ← s.removeKey
  some { s.emit token (s.cursor.skipMany width) with keyAllowed }

/-- Scans the start of a flow collection, which may itself be a key. -/
def openFlow (s : Scanner) (token : Token) : Option Scanner := do
  let s ← s.saveKey
  some { s.emit token s.cursor.skip with keyAllowed := true, keys := none :: s.keys }

/-- Scans the end of a flow collection. -/
def closeFlow (s : Scanner) (token : Token) : Option Scanner := do
  let s ← s.marker token 1 false
  some (if s.inFlow then { s with keys := s.keys.drop 1 } else s)

/-- Scans the indicator of an entry of a block sequence. -/
def blockEntry (s : Scanner) : Option Scanner :=
  if s.inFlow then s.marker .blockEntry 1 true
  else if s.keyAllowed then
    (s.roll s.cursor.column s.tokens.size .blockSequenceStart).marker .blockEntry 1 true
  else none

/-- Scans the indicator of a key. -/
def explicitKey (s : Scanner) : Option Scanner :=
  if s.inFlow then s.marker .key 1 false
  else if s.keyAllowed then
    (s.roll s.cursor.column s.tokens.size .blockMappingStart).marker .key 1 true
  else none

/-- Scans the indicator of a value. If a key may have started before it, that was a key. -/
def valueIndicator (s : Scanner) : Option Scanner :=
  match s.keys with
  | some key :: keys =>
    let s := { s with tokens := s.tokens.insertIdxIfInBounds key.token .key, keys := none :: keys }
    let s := s.roll key.column key.token .blockMappingStart
    some { s.emit .value s.cursor.skip with keyAllowed := false }
  | _ =>
    if s.inFlow then some { s.emit .value s.cursor.skip with keyAllowed := false }
    else if s.keyAllowed then
      let s := s.roll s.cursor.column s.tokens.size .blockMappingStart
      some { s.emit .value s.cursor.skip with keyAllowed := true }
    else none

/-- Scans a token that may be a key or start one. -/
def keyToken (s : Scanner) (scan : Cursor → Option (Token × Cursor)) : Option Scanner := do
  let s ← s.saveKey
  let (token, cursor) ← scan s.cursor
  some { s.emit token cursor with keyAllowed := false }

/-- Scans a plain scalar. A key may start after it if line breaks follow. -/
def plainScalar (s : Scanner) : Option Scanner := do
  let s ← s.saveKey
  let (text, endsLine, cursor) ← scanPlain s.inFlow (s.indent + 1) s.cursor
  some { s.emit (.scalar .plain text) cursor with keyAllowed := endsLine }

/-- Scans a block scalar. -/
def blockScalar (s : Scanner) (style : ScalarStyle) : Option Scanner := do
  let s ← s.removeKey
  let (text, cursor) ← scanBlock (style == .literal) s.indent s.cursor
  some { s.emit (.scalar style text) cursor with keyAllowed := true }

/-- Whether a plain scalar may start with the characters. -/
def startsPlain (inFlow : Bool) : List Char → Bool
  | [] => false
  | c :: rest =>
    let isIndicator :=
      ['-', '?', ':', ',', '[', ']', '{', '}', '#', '&', '*', '!', '|', '>', '\x27', '"', '%', '@',
        '\x60'].contains c
    !(isBlank c || isBreak c || isIndicator) ||
      (c == '-' && !(rest.head?.any isBlank)) ||
      (!inFlow && (c == '?' || c == ':') && !atGap rest)

/-- Scans the next token that is in sight, which is not the end of the text. -/
def scanToken (s : Scanner) (c : Char) (rest : List Char) : Option Scanner :=
  if s.cursor.column = 0 ∧ c = '%' then do
    let s ← (s.unroll (-1)).removeKey
    let (token, cursor) ← scanDirective s.cursor
    some { s.emit token cursor with keyAllowed := false }
  else if s.cursor.atMarker '-' then (s.unroll (-1)).marker .documentStart 3 false
  else if s.cursor.atMarker '.' then (s.unroll (-1)).marker .documentEnd 3 false
  else if c = '[' then s.openFlow .flowSequenceStart
  else if c = '{' then s.openFlow .flowMappingStart
  else if c = ']' then s.closeFlow .flowSequenceEnd
  else if c = '}' then s.closeFlow .flowMappingEnd
  else if c = ',' then s.marker .flowEntry 1 true
  else if c = '-' ∧ atGap rest then s.blockEntry
  else if c = '?' ∧ (s.inFlow ∨ atGap rest) then s.explicitKey
  else if c = ':' ∧ (s.inFlow ∨ atGap rest) then s.valueIndicator
  else if c = '*' then
    s.keyToken fun cursor =>
      (scanAnchorName cursor.skip).map fun (name, cursor) => (.alias name, cursor)
  else if c = '&' then
    s.keyToken fun cursor =>
      (scanAnchorName cursor.skip).map fun (name, cursor) => (.anchor name, cursor)
  else if c = '!' then s.keyToken (scanTag s.inFlow)
  else if c = '|' ∧ !s.inFlow then s.blockScalar .literal
  else if c = '>' ∧ !s.inFlow then s.blockScalar .folded
  else if c = '\x27' ∨ c = '"' then
    s.keyToken fun cursor =>
      (scanQuoted (c == '\x27') cursor).map fun (text, cursor) => (.scalar .quoted text, cursor)
  else if startsPlain s.inFlow s.cursor.rest then s.plainScalar
  else none

/-- Scans tokens up to the end of the text. -/
def run : Nat → Scanner → Option (List Token)
  | 0, _ => none
  | fuel + 1, s => do
    let s := s.skipGap (s.cursor.rest.length + 1)
    let s ← s.dropStaleKeys
    match s.cursor.rest with
    | [] => do
      let s ← (s.unroll (-1)).removeKey
      some s.tokens.toList
    | c :: rest => do
      let s ← (s.unroll s.cursor.column).scanToken c rest
      run fuel s

end Scanner

/-- The tokens of a text. -/
def Token.scan? (text : List Char) : Option (List Token) :=
  if text.all isAllowed then (Scanner.start text).run (text.length + 1) else none

end ClientGen.Yaml
