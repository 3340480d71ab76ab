import ClientGen.Text.CodePoint
import ClientGen.Text.Digits
import ClientGen.Yaml.Cursor

/-!
# Scalars of YAML

The scanners for plain, quoted and block scalars. A single line break between two words of a plain
or quoted scalar is folded to a blank, and of several all but the first are kept. Every scanner
returns nothing if the scalar is malformed. Loops recurse on fuel, for which the number of
characters left is enough.
-/

namespace ClientGen.Yaml

/-- What separates two words of a scalar: blanks of one line, or line breaks. -/
inductive Gap where
  | blanks (chars : List Char)
  | lines (first more : List Char)

/-- How a gap counts in the scalar. -/
def Gap.text : Gap → List Char
  | .blanks chars => chars
  | .lines ['\n'] [] => [' ']
  | .lines ['\n'] more => more
  | .lines first more => first ++ more

/-- Whether a gap spans lines. -/
def Gap.isLines : Gap → Bool
  | .blanks _ => false
  | .lines _ _ => true

/-- Scans blanks and line breaks. After a line break there must be no tab before column
`tabLimit`. -/
def scanGap (tabLimit : Int) : Nat → Gap → Cursor → Option (Gap × Cursor)
  | 0, gap, cursor => some (gap, cursor)
  | fuel + 1, gap, cursor =>
    match cursor.rest with
    | [] => some (gap, cursor)
    | c :: _ =>
      if isBlank c then
        match gap with
        | .blanks chars => scanGap tabLimit fuel (.blanks (chars ++ [c])) cursor.skip
        | .lines first more =>
          if c = '\t' ∧ (cursor.column : Int) < tabLimit then none
          else scanGap tabLimit fuel (.lines first more) cursor.skip
      else if isBreak c then
        let (text, cursor) := cursor.readBreak
        match gap with
        | .blanks _ => scanGap tabLimit fuel (.lines text []) cursor
        | .lines first more => scanGap tabLimit fuel (.lines first (more ++ text)) cursor
      else some (gap, cursor)

/-! ## Plain scalars -/

/-- Whether a character delimits the entries of a flow collection. -/
def isFlowDelimiter (c : Char) : Bool :=
  c == ',' || c == '[' || c == ']' || c == '{' || c == '}'

/-- The characters of a plain scalar up to the next blank, line break or indicator. In a flow
collection a colon must not touch a delimiter. -/
def plainWord? (inFlow : Bool) : List Char → Option (List Char)
  | [] => some []
  | c :: rest =>
    if isBlank c || isBreak c then some []
    else if c == ':' && atGap rest then some []
    else if inFlow && c == ':' && (rest.head?.any fun d => isFlowDelimiter d || d == '?') then none
    else if inFlow && isFlowDelimiter c then some []
    else (plainWord? inFlow rest).map (c :: ·)

/-- Scans a plain scalar whose later lines must be indented at least as deep as given. Also returns
whether line breaks follow it. -/
def scanPlainFrom (inFlow : Bool) (indent : Int) :
    Nat → List Char → Gap → Cursor → Option (List Char × Bool × Cursor)
  | 0, text, gap, cursor => some (text, gap.isLines, cursor)
  | fuel + 1, text, gap, cursor =>
    if cursor.atDocumentMarker ∨ cursor.rest.head? = some '#' then
      some (text, gap.isLines, cursor)
    else do
      let word ← plainWord? inFlow cursor.rest
      if word = [] then some (text, gap.isLines, cursor)
      else
        let text := text ++ gap.text ++ word
        let cursor := cursor.skipMany word.length
        if cursor.rest ≠ [] ∧ atGap cursor.rest then
          let (gap, cursor) ← scanGap indent (cursor.rest.length + 1) (.blanks []) cursor
          if !inFlow ∧ (cursor.column : Int) < indent then some (text, gap.isLines, cursor)
          else scanPlainFrom inFlow indent fuel text gap cursor
        else some (text, false, cursor)

/-- Scans a plain scalar. -/
def scanPlain (inFlow : Bool) (indent : Int) (cursor : Cursor) :
    Option (List Char × Bool × Cursor) :=
  scanPlainFrom inFlow indent (cursor.rest.length + 1) [] (.blanks []) cursor

/-! ## Quoted scalars -/

/-- The character that a one-letter escape stands for. -/
def simpleEscape? : Char → Option Char
  | '0' => some '\x00'
  | 'a' => some '\x07'
  | 'b' => some '\x08'
  | 't' => some '\t'
  | '\t' => some '\t'
  | 'n' => some '\n'
  | 'v' => some '\x0b'
  | 'f' => some '\x0c'
  | 'r' => some '\r'
  | 'e' => some '\x1b'
  | ' ' => some ' '
  | '"' => some '"'
  | '/' => some '/'
  | '\\' => some '\\'
  | 'N' => some '\u0085'
  | '_' => some '\u00a0'
  | 'L' => some '\u2028'
  | 'P' => some '\u2029'
  | _ => none

/-- The number of hexadecimal digits after the letter of a numeric escape. -/
def escapeWidth? : Char → Option Nat
  | 'x' => some 2
  | 'u' => some 4
  | 'U' => some 8
  | _ => none

/-- The character that an escape stands for, and how many characters follow its letter. -/
def escape? (letter : Char) (rest : List Char) : Option (Char × Nat) :=
  match escapeWidth? letter with
  | some width =>
    if rest.length < width then none
    else ((Text.number? 16 (rest.take width)).bind Text.charOfCode?).map fun c => (c, width)
  | none => (simpleEscape? letter).map fun c => (c, 0)

/-- Scans the characters of a quoted scalar up to its end, the next blank or the next line break.
Also returns whether an escaped line break was passed. -/
def scanQuotedWord (single : Bool) : Nat → Cursor → Option (List Char × Bool × Cursor)
  | 0, cursor => some ([], false, cursor)
  | fuel + 1, cursor =>
    let goOn (c : Char) (next : Cursor) : Option (List Char × Bool × Cursor) :=
      (scanQuotedWord single fuel next).map fun (cs, escaped, cursor) => (c :: cs, escaped, cursor)
    match cursor.rest with
    | [] => some ([], false, cursor)
    | c :: rest =>
      if isBlank c || isBreak c then some ([], false, cursor)
      else if single then
        if c = '\x27' then
          if rest.head? = some '\x27' then goOn '\x27' (cursor.skipMany 2)
          else some ([], false, cursor)
        else goOn c cursor.skip
      else if c = '"' then some ([], false, cursor)
      else if c = '\\' then
        match rest with
        | [] => none
        | letter :: after =>
          if isBreak letter then some ([], true, cursor.skip.readBreak.2)
          else do
            let (c, width) ← escape? letter after
            goOn c (cursor.skipMany (2 + width))
      else goOn c cursor.skip

/-- Scans a quoted scalar from after its opening quote. -/
def scanQuotedFrom (single : Bool) : Nat → List Char → Cursor → Option (List Char × Cursor)
  | 0, _, _ => none
  | fuel + 1, text, cursor =>
    if cursor.atDocumentMarker ∨ cursor.rest = [] then none
    else do
      let (word, escaped, cursor) ← scanQuotedWord single (cursor.rest.length + 1) cursor
      let text := text ++ word
      if cursor.rest.head? = some (if single then '\x27' else '"') then some (text, cursor.skip)
      else
        let (gap, cursor) ← scanGap 0 (cursor.rest.length + 1)
          (if escaped then .lines [] [] else .blanks []) cursor
        scanQuotedFrom single fuel (text ++ gap.text) cursor

/-- Scans a quoted scalar. -/
def scanQuoted (single : Bool) (cursor : Cursor) : Option (List Char × Cursor) :=
  scanQuotedFrom single (cursor.rest.length + 1) [] cursor.skip

/-! ## Block scalars -/

/-- What happens to the line breaks at the end of a block scalar. -/
inductive Chomping where
  | strip
  | clip
  | keep
deriving DecidableEq

/-- The chomping that an indicator stands for. -/
def Chomping.ofChar? : Char → Option Chomping
  | '-' => some .strip
  | '+' => some .keep
  | _ => none

/-- Scans the indicators of a block scalar in either order; an indentation of zero is refused. -/
def scanBlockHeader (cursor : Cursor) : Option (Chomping × Nat × Cursor) :=
  let chomp (cursor : Cursor) : Chomping × Cursor :=
    match cursor.rest.head?.bind Chomping.ofChar? with
    | some chomping => (chomping, cursor.skip)
    | none => (.clip, cursor)
  let increment (cursor : Cursor) : Option (Nat × Cursor) :=
    match cursor.rest with
    | c :: _ =>
      if c = '0' then none
      else if c.isDigit then some (c.toNat - '0'.toNat, cursor.skip)
      else some (0, cursor)
    | [] => some (0, cursor)
  let (chomping, next) := chomp cursor
  if chomping = .clip then do
    let (width, next) ← increment cursor
    if width = 0 then some (.clip, 0, next)
    else
      let (chomping, next) := chomp next
      some (chomping, width, next)
  else do
    let (width, next) ← increment next
    some (chomping, width, next)

/-- Scans indentation and empty lines. An indentation of zero is not known yet; no tab may stand
within the indentation. Also returns the deepest column reached. -/
def scanIndentation (indent : Nat) :
    Nat → List Char → Nat → Cursor → Option (List Char × Nat × Cursor)
  | 0, breaks, deepest, cursor => some (breaks, deepest, cursor)
  | fuel + 1, breaks, deepest, cursor =>
    let blanks := (cursor.rest.takeWhile (· == ' ')).length
    let width := if indent = 0 then blanks else min blanks (indent - cursor.column)
    let cursor := cursor.skipMany width
    let deepest := max deepest cursor.column
    match cursor.rest with
    | [] => some (breaks, deepest, cursor)
    | c :: _ =>
      if c = '\t' ∧ (indent = 0 ∨ cursor.column < indent) then none
      else if isBreak c then
        let (text, cursor) := cursor.readBreak
        scanIndentation indent fuel (breaks ++ text) deepest cursor
      else some (breaks, deepest, cursor)

/-- The state between two lines of a block scalar. -/
structure BlockState where
  text : List Char
  lineBreak : List Char
  breaks : List Char
  afterBlank : Bool

/-- Scans the lines of a block scalar at an indentation. -/
def scanBlockLines (isLiteral : Bool) (indent : Nat) :
    Nat → BlockState → Cursor → Option (BlockState × Cursor)
  | 0, state, cursor => some (state, cursor)
  | fuel + 1, state, cursor =>
    if cursor.column ≠ indent ∨ cursor.rest = [] then some (state, cursor)
    else do
      let startsBlank := cursor.rest.head?.any isBlank
      let folds := !isLiteral && state.lineBreak == ['\n'] && !state.afterBlank && !startsBlank
      let joint :=
        if folds then (if state.breaks = [] then [' '] else []) else state.lineBreak
      let line := cursor.rest.takeWhile fun c => !isBreak c
      let text := state.text ++ joint ++ state.breaks ++ line
      let (lineBreak, cursor) := (cursor.skipMany line.length).readBreak
      let (breaks, _, cursor) ← scanIndentation indent (cursor.rest.length + 1) [] 0 cursor
      scanBlockLines isLiteral indent fuel ⟨text, lineBreak, breaks, startsBlank⟩ cursor

/-- Scans a block scalar inside a block of the indentation given. -/
def scanBlock (isLiteral : Bool) (parentIndent : Int) (cursor : Cursor) :
    Option (List Char × Cursor) := do
  let (chomping, increment, cursor) ← scanBlockHeader cursor.skip
  let cursor := cursor.skipWhile isBlank
  let cursor :=
    if cursor.rest.head? = some '#' then cursor.skipWhile fun c => !isBreak c else cursor
  if !atLineEnd cursor.rest then none
  else
    let cursor := cursor.readBreak.2
    let given := if increment = 0 then 0 else (max parentIndent 0).toNat + increment
    let (breaks, deepest, cursor) ←
      scanIndentation given (cursor.rest.length + 1) [] 0 cursor
    let indent := if given = 0 then max deepest (max (parentIndent + 1) 1).toNat else given
    let (state, cursor) ←
      scanBlockLines isLiteral indent (cursor.rest.length + 1) ⟨[], [], breaks, false⟩ cursor
    let tail :=
      match chomping with
      | .strip => []
      | .clip => state.lineBreak
      | .keep => state.lineBreak ++ state.breaks
    some (state.text ++ tail, cursor)

end ClientGen.Yaml
