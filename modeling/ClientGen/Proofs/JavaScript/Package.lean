import ClientGen.Proofs.JavaScript.Client
import ClientGen.Proofs.Json.Reading

/-!
# The package description of a client

Whatever is described and whatever options are given, the package description is JSON: one object
with a member for each option that it shows, in a fixed order and each of them once.
-/

namespace ClientGen.JavaScript

open Json (Blanks Fits ReadsBack Spells SpellsMembers noRecords numbers quotedText)

/-! ## Options -/

/-- The value of an option; one that is not given counts as null. -/
def optionValue (options : Options) (name : String) : Json := (options.get? name).getD .null

/-- Whether a JSON value counts as true: all but null, false, zero and what is empty. -/
def isTruthy : Json → Bool
  | .null => false
  | .bool b => b
  | .number (.int n) => n != 0
  | .number (.real x) => !(x == 0)
  | .text s => s != ""
  | .array items => !items.isEmpty
  | .object members => !members.isEmpty

/-- JSON counts as true in a template as it does in an option. -/
theorem isTrue_ofJson (v : Json) : (Value.ofJson v).isTrue = isTruthy v := by
  cases v with
  | number n => cases n <;> rfl
  | array items => cases items <;> rfl
  | object members => cases members <;> rfl
  | _ => rfl

/-- An option is set if its value counts as true. -/
theorem isSet_eq (options : Options) (name : String) :
    isSet options name = isTruthy (optionValue options name) := by
  rw [isSet, optionValue]
  cases options.get? name with
  | none => rfl
  | some v => exact isTrue_ofJson v

/-- The members of a package description. -/
def packageMembers (title : String) (options : Options) : List (String × Json) :=
  [("name",
      if isTruthy (optionValue options "name") then optionValue options "name"
      else .text (packageName title)),
    ("version", optionValue options "package_version"),
    ("description", .text ("Client for " ++ title)),
    ("main", .text "index.js"),
    ("license", optionValue options "license")] ++
  (if isTruthy (optionValue options "repository") then
    [("repository", optionValue options "repository")] else []) ++
  [("engines", .object [("node", .text ">=18")])]

/-! ## Spelling -/

variable {options : Options} {context : Context}

/-- A line for a member. -/
def memberLine (key text : String) : String := "\n  " ++ quoted key ++ ": " ++ text

/-- Lines for members after others. -/
def memberLines (lines : List (String × String)) : String :=
  String.join (lines.map fun line => "," ++ memberLine line.1 line.2)

/-- A line for a member goes before the lines for other members. -/
theorem spells_memberLine (key : String) {text : String} {v : Json} {members : List (String × Json)}
    {rest : List Char} (hv : v.Spells text.toList) (h : SpellsMembers false members rest) :
    SpellsMembers true ((key, v) :: members) ((memberLine key text).toList ++ rest) := by
  have hbreak : Blanks "\n  ".toList := by decide
  have hline := SpellsMembers.first hbreak key Json.blanks_space hv h
  simpa [memberLine, quoted, Json.compact, Json.compactChars] using hline

/-- Lines for members, one after the other, spell the members. -/
theorem spells_memberLines {lines : List (String × String)} {members : List (String × Json)}
    (h : List.Forall₂ (fun line m => line.1 = m.1 ∧ m.2.Spells line.2.toList) lines members)
    {blanks : List Char} (hblanks : Blanks blanks) :
    SpellsMembers false members ((memberLines lines).toList ++ blanks) := by
  induction h with
  | nil => exact .close hblanks
  | @cons line m lines members hline _ ih =>
    obtain ⟨key, v⟩ := m
    obtain ⟨rfl, hv⟩ := hline
    have hall := (spells_memberLine line.1 hv ih).afterComma
    simpa [memberLines] using hall

/-- The lines of a package description after the first. -/
def packageLines (context : Context) (options : Options) : List (String × String) :=
  [("version", optionText options "package_version"),
    ("description", quoted ("Client for " ++ context.title)),
    ("main", quoted "index.js"),
    ("license", optionText options "license")] ++
  (if isSet options "repository" then [("repository", optionText options "repository")] else []) ++
  [("engines", "\x7b\n    \"node\": \">=18\"\n  \x7d")]

/-- The line of a member starts with its key. -/
theorem comma_memberLine {key line : String} (h : ",\n  " ++ quoted key ++ ": " = line)
    (text : String) : "," ++ memberLine key text = line ++ text := by
  rw [← h, memberLine, ← String.append_assoc, ← String.append_assoc, ← String.append_assoc]
  rfl

/-- Two texts that make up a third do so before any other. -/
theorem append_append_eq {s t u : String} (h : s ++ t = u) (rest : String) :
    s ++ (t ++ rest) = u ++ rest := by
  rw [← h, String.append_assoc]

/-- A package description is written line by line. The option for the repository decides about the
line that may be missing. -/
theorem packageText_eq : packageText context options =
    "\x7b" ++ memberLine "name" (packageNameText context options) ++
      memberLines (packageLines context options) ++ "\n\x7d" := by
  have hname (text : String) :
      "\x7b" ++ memberLine "name" text = "\x7b\n  \"name\": " ++ text := by
    rw [memberLine, ← String.append_assoc]
    rfl
  have hversion := @comma_memberLine "version" ",\n  \"version\": " rfl
  have hdescription := @comma_memberLine "description" ",\n  \"description\": " rfl
  have hmain : "," ++ memberLine "main" (quoted "index.js") = ",\n  \"main\": \"index.js\"" := rfl
  have hlicense := @comma_memberLine "license" ",\n  \"license\": " rfl
  have hmainLicense := @append_append_eq ",\n  \"main\": \"index.js\"" ",\n  \"license\": "
    ",\n  \"main\": \"index.js\",\n  \"license\": " rfl
  have hrepository := @comma_memberLine "repository" ",\n  \"repository\": " rfl
  have hrepository' := @append_append_eq ",\n" "  \"repository\": " ",\n  \"repository\": " rfl
  have hengines : ",\n" ++ "  \"engines\": \x7b\n    \"node\": \">=18\"\n  \x7d\n\x7d" =
    "," ++ memberLine "engines" "\x7b\n    \"node\": \">=18\"\n  \x7d" ++ "\n\x7d" := rfl
  rw [hname]
  delta packageText packageLines
  generalize isSet options "repository" = given
  cases given
  · simp only [memberLines, List.map_cons, List.map_nil, hversion, hdescription,
      hmain, hlicense, String.join_cons, String.join_nil, List.cons_append, List.nil_append,
      Bool.false_eq_true, if_false, String.append_assoc, String.empty_append, hmainLicense,
      hengines]
  · simp only [memberLines, List.map_cons, List.map_nil, hversion, hdescription,
      hmain, hlicense, hrepository, String.join_cons, String.join_nil, List.cons_append,
      List.nil_append, if_true, String.append_assoc, String.empty_append, hmainLicense,
      hrepository', hengines]

/-! ## Reading the description -/

/-- What is printed for an option spells its value. -/
theorem spells_optionText
    (h : ∀ entry ∈ options.entries, ∀ n ∈ numbers entry.2, ReadsBack n) (name : String) :
    (optionValue options name).Spells (optionText options name).toList := by
  rw [optionText, ← optionValue, Json.compact, String.toList_ofList]
  refine Json.spells_compactChars _ fun n hn => ?_
  rw [optionValue] at hn
  cases hget : options.get? name with
  | none =>
    rw [hget] at hn
    exact absurd hn List.not_mem_nil
  | some v =>
    rw [hget] at hn
    exact h (name, v) (OrderedMap.get?_eq_some_iff.mp hget) n hn

/-- A quoted text spells itself as JSON. -/
theorem spells_quoted (s : String) : (Json.text s).Spells (quoted s).toList := by
  rw [quoted, Json.compact, String.toList_ofList]
  exact .text s

/-- The versions of the runtime are spelled as they are written. -/
theorem spells_engines : (Json.object [("node", .text ">=18")]).Spells
    "\x7b\n    \"node\": \">=18\"\n  \x7d".toList := by
  have hbefore : Blanks "\n    ".toList := by decide
  have hafter : Blanks "\n  ".toList := by decide
  exact .object (.first hbefore "node" Json.blanks_space (.text ">=18") (.close hafter))

/-- The text of a package description spells its members. -/
theorem spells_packageText
    (h : ∀ entry ∈ options.entries, ∀ n ∈ numbers entry.2, ReadsBack n) :
    (Json.object (packageMembers context.title options)).Spells
      (packageText context options).toList := by
  have hoption := spells_optionText h
  have hname : (if isTruthy (optionValue options "name") then optionValue options "name"
      else .text (packageName context.title)).Spells
        (packageNameText context options).toList := by
    rw [packageNameText, isSet_eq]
    split
    · exact hoption "name"
    · exact spells_quoted _
  have hlines : List.Forall₂ (fun line m => line.1 = m.1 ∧ m.2.Spells line.2.toList)
      (packageLines context options) (packageMembers context.title options).tail := by
    rw [packageLines, packageMembers, isSet_eq]
    cases isTruthy (optionValue options "repository") with
    | false =>
      refine .cons ⟨rfl, hoption _⟩ ?_
      refine .cons ⟨rfl, spells_quoted _⟩ ?_
      refine .cons ⟨rfl, spells_quoted _⟩ ?_
      refine .cons ⟨rfl, hoption _⟩ ?_
      exact .cons ⟨rfl, spells_engines⟩ .nil
    | true =>
      refine .cons ⟨rfl, hoption _⟩ ?_
      refine .cons ⟨rfl, spells_quoted _⟩ ?_
      refine .cons ⟨rfl, spells_quoted _⟩ ?_
      refine .cons ⟨rfl, hoption _⟩ ?_
      refine .cons ⟨rfl, hoption _⟩ ?_
      exact .cons ⟨rfl, spells_engines⟩ .nil
  have hbreak : Blanks ['\n'] := by decide
  have hall := Spells.object (spells_memberLine "name" hname
    (spells_memberLines hlines hbreak))
  have hopen : "\x7b".toList = ['\x7b'] := rfl
  have hclose : "\n\x7d".toList = ['\n', '\x7d'] := rfl
  rw [packageText_eq, String.toList_append, String.toList_append, String.toList_append, hopen,
    hclose]
  simp only [List.append_assoc, List.cons_append, List.nil_append] at hall ⊢
  exact hall

/-- The members of a package fit, one level deeper than the options. -/
theorem fits_packageMembers {depth : Nat} (title : String)
    (h : ∀ entry ∈ options.entries, Fits noRecords (depth + 1) .any entry.2) :
    Fits noRecords (depth + 2) .any (.object (packageMembers title options)) := by
  have hoption (name : String) : Fits noRecords (depth + 1) .any (optionValue options name) := by
    rw [optionValue]
    cases hget : options.get? name with
    | none => exact .anyNull
    | some v => exact h _ (OrderedMap.get?_eq_some_iff.mp hget)
  have hname : Fits noRecords (depth + 1) .any
      (if isTruthy (optionValue options "name") then optionValue options "name"
        else .text (packageName title)) := by
    split
    · exact hoption _
    · exact .anyText
  have hengines : Fits noRecords (depth + 1) .any (.object [("node", .text ">=18")]) :=
    .anyTable (by decide) (by simpa using .anyText)
  rw [packageMembers]
  cases isTruthy (optionValue options "repository") with
  | false =>
    have hkeys : ["name", "version", "description", "main", "license", "engines"].Nodup := by decide
    refine .anyTable hkeys ?_
    simp only [Bool.false_eq_true, if_false, List.append_nil, List.cons_append, List.nil_append,
      List.forall_mem_cons]
    exact ⟨hname, hoption _, .anyText, .anyText, hoption _, hengines, List.forall_mem_nil _⟩
  | true =>
    have hkeys : ["name", "version", "description", "main", "license", "repository",
      "engines"].Nodup := by decide
    refine .anyTable hkeys ?_
    simp only [if_true, List.cons_append, List.nil_append, List.forall_mem_cons]
    exact ⟨hname, hoption _, .anyText, .anyText, hoption _, hoption _, hengines,
      List.forall_mem_nil _⟩

/-- What holds of the default options and of the user's holds of all options. -/
theorem forall_mem_overlay {defaults user : Options} {p : String × Json → Prop}
    (hdefaults : ∀ entry ∈ defaults.entries, p entry) (huser : ∀ entry ∈ user.entries, p entry) :
    ∀ entry ∈ (Options.overlay defaults user).entries, p entry := by
  intro entry hentry
  have hget := OrderedMap.get?_eq_some_iff.mpr hentry
  rw [Options.overlay, OrderedMap.get?_insertMany, Option.or_eq_some_iff] at hget
  obtain hget | ⟨-, hget⟩ := hget
  · exact huser entry (OrderedMap.get?_eq_some_iff.mp hget)
  · exact hdefaults entry (OrderedMap.get?_eq_some_iff.mp hget)

/-- The package description is JSON: whatever is described and whatever the user's options are, an
object with the members that are written down for it, if the doubles in the options are read as
they are printed. A value that nests more deeply than the reader allows cannot be read in it. -/
theorem readWithin_packageText (spec : Specification) (user : Options)
    (hreals : ∀ entry ∈ user.entries, ∀ x, JsonNumber.real x ∈ numbers entry.2 →
      ReadsBack (.real x)) :
    ∃ client text, generate spec profile user = .ok client ∧
      client.files.get? "package.json" = some text ∧
      (∀ key, client.options.get? key = (user.get? key).or (profile.options.get? key)) ∧
      ∀ depth, (∀ entry ∈ user.entries, Fits noRecords (depth + 1) .any entry.2) →
        Json.readWithin noRecords (depth + 2) .any text =
          .ok (.object (packageMembers spec.title client.options)) := by
  let client := clientOf spec user
  have hclient : Rendered spec user client := rendered_clientOf spec user
  have htitle : client.context.title = spec.title := by
    rw [hclient.context_eq]
    rfl
  refine ⟨client, _, generate_eq spec user, hclient.package_eq, fun key => ?_,
    fun depth hfits => ?_⟩
  · rw [hclient.options_eq]
    exact OrderedMap.get?_insertMany _ _ _
  have hdefaults : ∀ entry ∈ profile.options.entries,
      Fits noRecords (depth + 1) .any entry.2 ∧ numbers entry.2 = [] :=
    List.forall_mem_cons.mpr ⟨⟨.anyText, rfl⟩, List.forall_mem_cons.mpr ⟨⟨.anyText, rfl⟩,
      List.forall_mem_singleton.mpr ⟨.anyFlag, rfl⟩⟩⟩
  have hoptions := forall_mem_overlay (fun entry hentry => (hdefaults entry hentry).1) hfits
  have hnumbers : ∀ entry ∈ (Options.overlay profile.options user).entries,
      ∀ n ∈ numbers entry.2, ReadsBack n := by
    refine forall_mem_overlay (fun entry hentry n hn => ?_) fun entry hentry =>
      (hfits entry hentry).readsBack (hreals entry hentry)
    rw [(hdefaults entry hentry).2] at hn
    exact absurd hn List.not_mem_nil
  rw [← hclient.options_eq] at hoptions hnumbers
  rw [← htitle]
  exact Json.readWithin_spelled (fits_packageMembers _ hoptions) (spells_packageText hnumbers)

/-- Options with a package name, without a license and with another value for the repository than a
text. -/
def petsOptions : Options := .ofList [
  ("name", .text "pets"), ("license", .null), ("repository", .object [("weight", .real 0.5)])]

/-- The package of the pets is read as an object with its members. -/
theorem readWithin_packageText_pets :
    ∃ client text, generate { title := "Pets" } profile petsOptions = .ok client ∧
      client.files.get? "package.json" = some text ∧
      Json.parse text = .ok (.object [("name", .text "pets"), ("version", .text "0.0.0"),
        ("description", .text "Client for Pets"), ("main", .text "index.js"), ("license", .null),
        ("repository", .object [("weight", .real 0.5)]),
        ("engines", .object [("node", .text ">=18")])]) := by
  have hnumbers : ∀ entry ∈ petsOptions.entries, ∀ n ∈ numbers entry.2, ReadsBack n := by
    decide +kernel
  obtain ⟨client, text, hgenerate, htext, hoptions, hread⟩ := readWithin_packageText
    { title := "Pets" } petsOptions fun entry hentry x hx => hnumbers entry hentry _ hx
  have hweight : ∀ m ∈ [("weight", Json.real 0.5)], Fits noRecords 125 .any m.2 :=
    List.forall_mem_singleton.mpr (.anyNumber trivial)
  have hfits : ∀ entry ∈ petsOptions.entries, Fits noRecords 126 .any entry.2 :=
    List.forall_mem_cons.mpr ⟨.anyText, List.forall_mem_cons.mpr ⟨.anyNull,
      List.forall_mem_singleton.mpr (.anyTable (by decide) hweight)⟩⟩
  have hvalue (name : String) : optionValue client.options name =
      ((petsOptions.get? name).or (profile.options.get? name)).getD .null := by
    rw [optionValue, hoptions]
  refine ⟨client, text, hgenerate, htext, ?_⟩
  rw [Json.parse_eq_readWithin, hread 125 hfits]
  simp only [packageMembers, hvalue]
  rfl

end ClientGen.JavaScript
