import ClientGen.Text.Blank

/-!
# URI templates

A URI template is a text in which `{name}` stands for a value to be filled in. A placeholder is one
or more characters other than braces between an opening and a closing brace; every other brace is
ordinary text. The template is taken apart into pieces, and the indexed form of a template numbers
its placeholders from left to right.
-/

namespace ClientGen.Uri

/-- A part of a URI template. -/
inductive Piece where
  | text (chars : List Char)
  | placeholder (name : List Char)
deriving DecidableEq

/-- The characters that a piece stands for in its template. -/
def Piece.chars : Piece → List Char
  | .text cs => cs
  | .placeholder name => '{' :: name ++ ['}']

/-- Whether a character may stand in the name of a placeholder. -/
def isNameChar (c : Char) : Bool :=
  c != '{' && c != '}'

/-- The name of a placeholder and what follows it, if the characters after its opening brace are
given. -/
def nameBefore? (cs : List Char) : Option (List Char × List Char) :=
  match cs.takeWhile isNameChar, cs.dropWhile isNameChar with
  | c :: name, '}' :: rest => some (c :: name, rest)
  | _, _ => none

/-- What follows a name is shorter. -/
theorem nameBefore?_length {cs name rest : List Char} (h : nameBefore? cs = some (name, rest)) :
    rest.length < cs.length := by
  unfold nameBefore? at h
  split at h
  · next c name' rest' htake hdrop =>
    simp only [Option.some.injEq, Prod.mk.injEq] at h
    obtain ⟨-, rfl⟩ := h
    have hsplit : cs = cs.takeWhile isNameChar ++ cs.dropWhile isNameChar :=
      List.takeWhile_append_dropWhile.symm
    rw [hsplit, htake, hdrop]
    simp only [List.length_append, List.length_cons]
    omega
  · simp at h

/-- Puts a character of ordinary text in front of pieces. -/
def consText (c : Char) : List Piece → List Piece
  | .text cs :: rest => .text (c :: cs) :: rest
  | rest => .text [c] :: rest

/-- The pieces of a template: its placeholders and the texts around them, none of them empty. -/
def pieces : List Char → List Piece
  | [] => []
  | c :: rest =>
    if c = '{' then
      match h : nameBefore? rest with
      | some (name, after) =>
        have := nameBefore?_length h
        .placeholder name :: pieces after
      | none => consText c (pieces rest)
    else consText c (pieces rest)
termination_by cs => cs.length

/-- The template that pieces stand for. -/
def join (ps : List Piece) : List Char :=
  ps.flatMap Piece.chars

/-- The names of the placeholders among pieces. -/
def names : List Piece → List (List Char)
  | [] => []
  | .text _ :: rest => names rest
  | .placeholder name :: rest => name :: names rest

/-- The pieces with their placeholders numbered from `next` on. -/
def number (next : Nat) : List Piece → List Piece
  | [] => []
  | .text cs :: rest => .text cs :: number next rest
  | .placeholder _ :: rest => .placeholder (Nat.toDigits 10 next) :: number (next + 1) rest

/-- The template with its placeholders numbered from zero. -/
def indexed (uri : String) : String :=
  String.ofList (join (number 0 (pieces uri.toList)))

/-- The names of the placeholders of a template, from left to right. -/
def placeholderNames (uri : String) : List String :=
  (names (pieces uri.toList)).map String.ofList

/-- Where the placeholders of pieces stand in a template, the first piece of which starts at
`start`: the position of the opening brace and the name. -/
def placements (start : Nat) : List Piece → List (Nat × List Char)
  | [] => []
  | .text cs :: rest => placements (start + cs.length) rest
  | .placeholder name :: rest => (start, name) :: placements (start + name.length + 2) rest

/-- The text without the slashes at its end. -/
def dropTrailingSlashes (uri : String) : String :=
  String.ofList (Text.dropEndWhile (· == '/') uri.toList)

end ClientGen.Uri
