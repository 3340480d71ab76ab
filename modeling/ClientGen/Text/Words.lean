import ClientGen.Text.Alphanumeric
import ClientGen.Text.LetterCase

/-!
# Words and case styles

A text is split into words at every character that is not alphanumeric, between a small letter and
the capital after it, and before the last capital of a row of capitals that a small letter follows.
A character without case, such as a digit, continues the case of the letters before it. A case
style then says how words are written and joined.
-/

namespace ClientGen.Text

/-- What the characters of a word so far say about its case. -/
inductive WordCase where
  | unknown
  | small
  | capital
deriving DecidableEq

/-- The case of a word that goes on with `c`. -/
def WordCase.extend (word : WordCase) (c : Char) : WordCase :=
  if isLowercase c then .small else if isUppercase c then .capital else word

/-- Splits alphanumeric characters into words; `word` holds the current word, last character first,
and `state` its case. -/
def splitRow (state : WordCase) (word : List Char) : List Char → List (List Char)
  | [] => []
  | [c] => [(c :: word).reverse]
  | c :: next :: rest =>
    if state.extend c = .small ∧ isUppercase next then
      (c :: word).reverse :: splitRow .unknown [] (next :: rest)
    else if state = .capital ∧ isUppercase c ∧ isLowercase next then
      word.reverse :: splitRow .unknown [c] (next :: rest)
    else
      splitRow (state.extend c) (c :: word) (next :: rest)

/-- The maximal rows of characters that satisfy a test. -/
def rows (test : Char → Bool) : List Char → List (List Char)
  | [] => []
  | c :: rest =>
    if test c then
      match rest with
      | [] => [[c]]
      | next :: _ =>
        if test next then
          match rows test rest with
          | [] => [[c]]
          | row :: others => (c :: row) :: others
        else [c] :: rows test rest
    else rows test rest

/-- The words of a text. -/
def words (s : String) : List (List Char) :=
  (rows isAlphanumeric s.toList).flatMap (splitRow .unknown [])

/-- A word in small letters; a capital sigma that ends it has its final form. -/
def lowerWord : List Char → List Char
  | [] => []
  | c :: rest => (if c = 'Σ' ∧ rest = [] then ['ς'] else lowerChar c) ++ lowerWord rest

/-- A word in capital letters. -/
def upperWord (word : List Char) : List Char :=
  word.flatMap upperChar

/-- A word with a capital at its start and small letters after it. -/
def capitalizedWord : List Char → List Char
  | [] => []
  | c :: rest => upperChar c ++ lowerWord rest

/-- How the words of a name are written and joined. -/
inductive CaseStyle where
  | camel
  | pascal
  | snake
  | kebab
  | constant
  | title
deriving DecidableEq

/-- The form of the first word in a style. -/
def CaseStyle.firstWord : CaseStyle → List Char → List Char
  | .camel | .snake | .kebab => lowerWord
  | .pascal | .title => capitalizedWord
  | .constant => upperWord

/-- The form of every later word in a style. -/
def CaseStyle.laterWord : CaseStyle → List Char → List Char
  | .snake | .kebab => lowerWord
  | .camel | .pascal | .title => capitalizedWord
  | .constant => upperWord

/-- What stands between two words in a style. -/
def CaseStyle.separator : CaseStyle → List Char
  | .camel | .pascal => []
  | .snake | .constant => ['_']
  | .kebab => ['-']
  | .title => [' ']

/-- Words written in a style. -/
def CaseStyle.join (style : CaseStyle) : List (List Char) → List Char
  | [] => []
  | word :: others =>
    style.firstWord word ++ others.flatMap fun other => style.separator ++ style.laterWord other

/-- A text written in a style. -/
def CaseStyle.apply (style : CaseStyle) (s : String) : String :=
  String.ofList (style.join (words s))

/-- The text with its first character in capital form. -/
def upperFirst (s : String) : String :=
  match s.toList with
  | [] => ""
  | c :: rest => String.ofList (upperChar c ++ rest)

/-- The text with its first character in small form. -/
def lowerFirst (s : String) : String :=
  match s.toList with
  | [] => ""
  | c :: rest => String.ofList (lowerChar c ++ rest)

end ClientGen.Text
