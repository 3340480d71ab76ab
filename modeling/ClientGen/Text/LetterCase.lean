import ClientGen.Text.LetterCase.Table

/-!
# Letter case

Capital and small forms of characters and of whole texts, after the full Unicode mappings, which
may give several characters for one. A capital sigma at the end of a word has a small form of its
own; all other mappings look at one character only.
-/

namespace ClientGen.Text

/-- Whether a character has the property Uppercase. -/
def isUppercase (c : Char) : Bool :=
  if c.toNat < 0x80 then c.isUpper else inRuns uppercaseRuns c

/-- Whether a character has the property Lowercase. -/
def isLowercase (c : Char) : Bool :=
  if c.toNat < 0x80 then c.isLower else inRuns lowercaseRuns c

/-- Whether a character has the property Cased. -/
def isCased (c : Char) : Bool :=
  if c.toNat < 0x80 then c.isAlpha else inRuns casedRuns c

/-- Whether a character has the property Case_Ignorable. -/
def isCaseIgnorable (c : Char) : Bool :=
  if c.toNat < 0x80 then ['\x27', '.', ':', '^', '\x60'].contains c else inRuns caseIgnorableRuns c

/-- The other case of a character from U+0080 on, by the tables given. -/
def caseImage (expansions : List (Nat × List Nat)) (shifts : Array CaseShift) (c : Char) :
    List Char :=
  match expansions.lookup c.toNat with
  | some image => image.map Char.ofNat
  | none =>
    match shifts.find? fun shift => shift.run.contains c.toNat with
    | some shift => [Char.ofNat (shift.image + (c.toNat - shift.run.first))]
    | none => [c]

/-- The capital form of a character. -/
def upperChar (c : Char) : List Char :=
  if c.toNat < 0x80 then [c.toUpper] else caseImage upperExpansions upperShifts c

/-- The small form of a character by itself. -/
def lowerChar (c : Char) : List Char :=
  if c.toNat < 0x80 then [c.toLower] else caseImage lowerExpansions lowerShifts c

/-- Whether the first character that is not case-ignorable is cased. -/
def reachesCased (cs : List Char) : Bool :=
  match cs.dropWhile isCaseIgnorable with
  | [] => false
  | c :: _ => isCased c

/-- The small forms of characters that follow `before`, which is given last character first.
A capital sigma is final if a cased character comes before it and none after it, each time
across case-ignorable ones. -/
def lowerAfter (before : List Char) : List Char → List Char
  | [] => []
  | c :: rest =>
    let image :=
      if c = 'Σ' then if reachesCased before && !reachesCased rest then ['ς'] else ['σ']
      else lowerChar c
    image ++ lowerAfter (c :: before) rest

/-- A text in capital letters. -/
def upper (s : String) : String :=
  String.ofList (s.toList.flatMap upperChar)

/-- A text in small letters. -/
def lower (s : String) : String :=
  String.ofList (lowerAfter [] s.toList)

/-- What holds of the characters with the codes of ASCII holds of all ASCII characters. -/
theorem forall_ascii {p : Char → Prop} (h : ∀ n < 0x80, p (Char.ofNat n)) {c : Char}
    (hc : c.toNat < 0x80) : p c := by
  have hcode := h c.toNat hc
  rwa [Char.ofNat_toNat] at hcode

/-- An ASCII character has the usual capital form. -/
theorem upperChar_of_ascii {c : Char} (hc : c.toNat < 0x80) : upperChar c = [c.toUpper] := by
  simp [upperChar, hc]

/-- An ASCII character has the usual small form. -/
theorem lowerChar_of_ascii {c : Char} (hc : c.toNat < 0x80) : lowerChar c = [c.toLower] := by
  simp [lowerChar, hc]

/-- Only ASCII has the capitals from A to Z. -/
theorem not_capital_of_not_ascii {c : Char} (h : ¬c.toNat < 0x80) : ¬('A' ≤ c ∧ c ≤ 'Z') := by
  rintro ⟨-, hz⟩
  have hcode : c.toNat ≤ 90 := hz
  omega

/-- A character beyond ASCII is its own small letter, as far as ASCII has small letters. -/
theorem toLower_of_not_ascii {c : Char} (h : ¬c.toNat < 0x80) : c.toLower = c :=
  dif_neg (not_capital_of_not_ascii h)

end ClientGen.Text
