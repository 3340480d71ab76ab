import ClientGen.Proofs.JavaScript.Hygiene

/-!
# Parameters in strict mode

The generated file is in strict mode, so a parameter has to be an identifier and none of the words
that strict mode keeps for itself. For names in ASCII the first is always so: words consist of
letters and digits, and the underscore stands in front where a letter is missing. The second is
not. The words that get an underscore are the keywords, the literals and some of the words reserved
in strict mode, and eight others are left as they are.
-/

namespace ClientGen.JavaScript

variable {name s : String}

/-! ## Identifiers -/

/-- Whether a character may stand in an identifier. -/
def isIdentifierPart (c : Char) : Bool :=
  c.isAlphanum || c == '_'

/-- Whether a text is a letter of ASCII or an underscore, with letters and digits of ASCII and
underscores after it. -/
def isIdentifier (s : String) : Bool :=
  match s.toList with
  | [] => false
  | c :: rest => isIdentifierPart c && !c.isDigit && rest.all isIdentifierPart

/-- An identifier is not empty, starts with no digit and has no parts but those of identifiers. -/
theorem isIdentifier_iff : isIdentifier s = true ↔
    s ≠ "" ∧ startsWithDigit s = false ∧ ∀ c ∈ s.toList, isIdentifierPart c = true := by
  rw [ne_eq, ← String.toList_eq_nil_iff, isIdentifier, startsWithDigit]
  split
  next hnil => simp [hnil]
  next c rest hcons => simp [hcons, and_assoc, and_left_comm]

/-- Property names of names in ASCII are letters and digits. -/
theorem isAlphanum_of_mem_propertyName {c : Char} (hname : ∀ d ∈ name.toList, d.toNat < 0x80)
    (hc : c ∈ (propertyName name).toList) : c.isAlphanum = true :=
  (Text.isAlphanum_of_mem_apply hname hc).resolve_left (List.not_mem_nil)

/-- A name in ASCII is bound to an identifier. -/
theorem isIdentifier_bindingName (hname : ∀ c ∈ name.toList, c.toNat < 0x80) :
    isIdentifier (bindingName name) = true := by
  have hparts : ∀ c ∈ (propertyName name).toList, isIdentifierPart c = true := by
    intro c hc
    rw [isIdentifierPart, isAlphanum_of_mem_propertyName hname hc, Bool.true_or]
  rw [isIdentifier_iff, bindingName]
  split
  next =>
    refine ⟨by simp, by simp [startsWithDigit], fun c hc => ?_⟩
    rw [String.toList_append, List.mem_append] at hc
    rcases hc with hmark | hproperty
    · rw [List.mem_singleton.mp hmark]
      decide
    · exact hparts c hproperty
  next hplain =>
    obtain ⟨hne, hdigit, -⟩ := not_or.mp hplain |>.imp_right not_or.mp
    exact ⟨hne, Bool.not_eq_true _ ▸ hdigit, hparts⟩

/-! ## Words of strict mode -/

/-- The words that strict mode forbids as names of parameters: keywords and literals, words that
are reserved, and two names that may not be bound. -/
def strictWords : List String := [
  "break", "case", "catch", "class", "const", "continue", "debugger", "default", "delete",
  "do", "else", "enum", "export", "extends", "false", "finally", "for", "function", "if",
  "import", "in", "instanceof", "new", "null", "return", "super", "switch", "this", "throw",
  "true", "try", "typeof", "var", "void", "while", "with",
  "implements", "interface", "let", "package", "private", "protected", "public", "static", "yield",
  "eval", "arguments"]

/-- The words of strict mode that get no underscore. -/
def unmarkedWords : List String :=
  ["implements", "interface", "package", "private", "protected", "public", "eval", "arguments"]

/-- A word is unmarked if strict code reserves it and the client does not. -/
theorem mem_unmarkedWords_iff : s ∈ unmarkedWords ↔ s ∈ strictWords ∧ s ∉ reservedWords := by
  have hfilter :
      strictWords.filter (fun word => decide (word ∉ reservedWords)) = unmarkedWords := by
    decide
  rw [← hfilter, List.mem_filter, decide_eq_true_eq]

/-- Words of strict mode start with a letter, and none of them has an underscore. -/
theorem plain_of_mem_strictWords : ∀ s ∈ strictWords,
    s ≠ "" ∧ startsWithDigit s = false ∧ '_' ∉ s.toList := by
  decide

/-- A name is bound to a word of strict mode exactly if its property name is one that gets no
underscore. -/
theorem bindingName_mem_strictWords_iff :
    bindingName name ∈ strictWords ↔ propertyName name ∈ unmarkedWords := by
  rw [mem_unmarkedWords_iff, bindingName]
  split
  next hmarked =>
    constructor
    · intro hmem
      exact absurd (by simp) (plain_of_mem_strictWords _ hmem).2.2
    · rintro ⟨hmem, hreserved⟩
      obtain ⟨hne, hdigit, -⟩ := plain_of_mem_strictWords _ hmem
      exact absurd hmarked (by simp [hne, hdigit, hreserved])
  next hplain =>
    have hreserved := (not_or.mp (not_or.mp hplain).2).2
    simp [hreserved]

/-! ## Names of parameters -/

/-- A text may be the name of a parameter of a function in strict mode. -/
structure Bindable (s : String) : Prop where
  identifier : isIdentifier s = true
  not_strict : s ∉ strictWords

instance : Decidable (Bindable s) :=
  decidable_of_iff (isIdentifier s = true ∧ s ∉ strictWords)
    ⟨fun h => ⟨h.1, h.2⟩, fun h => ⟨h.identifier, h.not_strict⟩⟩

/-- A name in ASCII is bound to an identifier, and strict mode lets it be bound unless the property
name is one of the words that get no underscore. -/
theorem bindable_bindingName_iff (hname : ∀ c ∈ name.toList, c.toNat < 0x80) :
    isIdentifier (bindingName name) = true ∧
      (Bindable (bindingName name) ↔ propertyName name ∉ unmarkedWords) := by
  have hidentifier := isIdentifier_bindingName hname
  refine ⟨hidentifier, fun h => ?_, fun h => ⟨hidentifier, ?_⟩⟩
  · exact fun hmem => h.not_strict (bindingName_mem_strictWords_iff.mpr hmem)
  · exact fun hmem => h (bindingName_mem_strictWords_iff.mp hmem)

/-- A name that starts with a digit is bound after an underscore. -/
theorem bindable_ordinal : (∀ c ∈ "2nd package".toList, c.toNat < 0x80) ∧
    bindingName "2nd package" = "_2ndPackage" ∧ Bindable (bindingName "2nd package") := by
  have hname : ∀ c ∈ "2nd package".toList, c.toNat < 0x80 := by simp
  have hproperty : propertyName "2nd package" = "2ndPackage" := by decide +kernel
  have hplain : propertyName "2nd package" ∉ unmarkedWords := by
    rw [hproperty]
    decide
  exact ⟨hname, by decide +kernel, (bindable_bindingName_iff hname).2.mpr hplain⟩

/-- A child has a parameter that is called like a word of strict mode. -/
def packageSpec : Specification where
  resources := [{ relativeUri := "/\x7bpackage\x7d" }]

/-- The words that get no underscore are bound as they are, and the function for a child has one of
them as its parameter. -/
theorem unmarkedWords_not_bindable :
    (∀ word ∈ unmarkedWords, (∀ c ∈ word.toList, c.toNat < 0x80) ∧
      bindingName word = word ∧ isIdentifier word = true ∧ ¬Bindable (bindingName word)) ∧
    childText "package" (resourceAt (Context.build format packageSpec .fresh).1 1) =
      "    this[\"package\"] = (package) => new Resource1(client, path + " ++
        "template(\"/\x7b0\x7d\", [package]))\n" := by
  have hname : ∀ word ∈ unmarkedWords, ∀ c ∈ word.toList, c.toNat < 0x80 := by
    simp [unmarkedWords]
  have hbinding : ∀ word ∈ unmarkedWords, bindingName word = word := by decide +kernel
  have hidentifier : ∀ word ∈ unmarkedWords, isIdentifier word = true := by decide
  refine ⟨fun word hword => ?_, by decide +kernel⟩
  have hstrict : bindingName word ∈ strictWords := by
    rw [hbinding word hword]
    exact (mem_unmarkedWords_iff.mp hword).1
  exact ⟨hname word hword, hbinding word hword, hidentifier word hword,
    fun h => h.not_strict hstrict⟩

end ClientGen.JavaScript
