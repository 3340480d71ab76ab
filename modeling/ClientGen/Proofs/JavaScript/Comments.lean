import ClientGen.Proofs.JavaScript.Client

/-!
# The comments of a module

A module starts with a comment on one line, and above every method there is a remark. Descriptions
are written into remarks so that they cannot end them. The title and the version of the description,
and the verbs, URIs and names of query parameters are written as they are.
-/

namespace ClientGen.JavaScript

variable {cs ds body rest : List Char} {c : Char}

/-! ## Ends of comments -/

/-- Whether a block comment ends somewhere in a text. -/
def EndsComment (cs : List Char) : Prop := ['*', '/'] <:+: cs

instance : Decidable (EndsComment cs) := inferInstanceAs (Decidable (['*', '/'] <:+: cs))

/-- What comes before the first end of a block comment. -/
def beforeEnd? : List Char → Option (List Char)
  | [] => none
  | c :: rest =>
    if c = '*' ∧ rest.head? = some '/' then some [] else (beforeEnd? rest).map (c :: ·)

/-- A comment ends at the first character or in what follows. -/
theorem endsComment_cons :
    EndsComment (c :: rest) ↔ (c = '*' ∧ rest.head? = some '/') ∨ EndsComment rest := by
  rw [EndsComment, List.infix_cons_iff]
  refine or_congr_left ?_
  cases rest with
  | nil => simp
  | cons d rest => simp [List.cons_prefix_cons, eq_comm]

/-- Nothing ends no comment. -/
theorem not_endsComment_nil : ¬EndsComment [] := by decide

/-- Two texts end a comment if one of them does, unless they do so together. -/
theorem endsComment_append (h : cs.getLast? ≠ some '*' ∨ ds.head? ≠ some '/') :
    EndsComment (cs ++ ds) ↔ EndsComment cs ∨ EndsComment ds := by
  induction cs with
  | nil => simp [not_endsComment_nil]
  | cons c cs ih =>
    rw [List.cons_append, endsComment_cons, endsComment_cons]
    cases cs with
    | nil =>
      have hnot : ¬(c = '*' ∧ ds.head? = some '/') := by
        rintro ⟨rfl, hd⟩
        exact h.elim (fun hc => hc rfl) fun hd' => hd' hd
      simp [hnot, not_endsComment_nil]
    | cons d cs =>
      rw [List.getLast?_cons_cons] at h
      rw [ih h, List.cons_append, List.head?_cons, List.head?_cons, or_assoc]

/-- A text that ends no comment, whatever follows. -/
def Inert (s : String) : Prop := ¬EndsComment s.toList ∧ s.toList.getLast? ≠ some '*'

instance (s : String) : Decidable (Inert s) :=
  inferInstanceAs (Decidable (¬EndsComment s.toList ∧ s.toList.getLast? ≠ some '*'))

/-- A text that ends no comment leaves it to what follows. -/
theorem Inert.endsComment_append {s : String} (h : Inert s) :
    EndsComment (s.toList ++ ds) ↔ EndsComment ds := by
  rw [JavaScript.endsComment_append (Or.inl h.2), or_iff_right h.1]

/-- A comment ends where its template closes it exactly if nothing before ends it. -/
theorem beforeEnd?_eq_iff :
    beforeEnd? (body ++ '*' :: '/' :: rest) = some body ↔ ¬EndsComment (body ++ ['*']) := by
  induction body with
  | nil => exact iff_of_true (by simp [beforeEnd?]) (by decide)
  | cons c body ih =>
    have hhead : (body ++ '*' :: '/' :: rest).head? = (body ++ ['*']).head? := by
      cases body <;> rfl
    rw [List.cons_append, List.cons_append, beforeEnd?, endsComment_cons, hhead]
    split
    next hend => simp [hend]
    next hend =>
      have hcons : (beforeEnd? (body ++ '*' :: '/' :: rest)).map (c :: ·) = some (c :: body) ↔
          beforeEnd? (body ++ '*' :: '/' :: rest) = some body := by
        cases beforeEnd? (body ++ '*' :: '/' :: rest) <;> simp
      rw [hcons, ih, not_or]
      exact ⟨fun h => ⟨hend, h⟩, And.right⟩

/-! ## Texts inside comments -/

/-- The characters of a text in which the ends of comments are broken up. -/
def broken (skip : Nat) (cs : List Char) : List Char :=
  Text.replaceChars ['*', '/'] ['*', '\\', '/'] skip cs

/-- An end of a comment is broken up where it starts, and other characters are kept. -/
theorem broken_cons (c : Char) (rest : List Char) : broken 0 (c :: rest) =
    if c = '*' ∧ rest.head? = some '/' then '*' :: '\\' :: '/' :: broken 1 rest
    else c :: broken 0 rest := by
  have hstart : ['*', '/'].isPrefixOf (c :: rest) = true ↔ c = '*' ∧ rest.head? = some '/' := by
    rw [List.isPrefixOf_iff_prefix, List.cons_prefix_cons, eq_comm]
    cases rest <;> simp [List.cons_prefix_cons, eq_comm]
  rw [broken, Text.replaceChars]
  simp only [hstart]
  rfl

/-- A text in which the ends of comments are broken up ends none, and it starts with a slash only if
the text did. -/
theorem not_endsComment_broken (cs : List Char) :
    ¬EndsComment (broken 0 cs) ∧ ¬EndsComment (broken 1 cs) ∧
      ((broken 0 cs).head? = some '/' → cs.head? = some '/') := by
  induction cs with
  | nil => exact ⟨not_endsComment_nil, not_endsComment_nil, id⟩
  | cons c rest ih =>
    obtain ⟨hrest, hskipped, hhead⟩ := ih
    rw [broken_cons]
    split
    next => exact ⟨by simpa [endsComment_cons] using hskipped, hrest, by simp⟩
    next hkeep =>
      refine ⟨?_, hrest, fun h => h⟩
      rw [endsComment_cons, not_or]
      exact ⟨fun h => hkeep ⟨h.1, hhead h.2⟩, hrest⟩

/-- A text ends a comment if a part of it does. -/
theorem EndsComment.mono (h : EndsComment cs) (hwithin : cs <:+: ds) : EndsComment ds :=
  List.IsInfix.trans h hwithin

/-- What is left of a reversed line without its carriage return is its end. -/
theorem dropReturn_suffix (line : List Char) : Text.dropReturn line <:+ line := by
  unfold Text.dropReturn
  split
  · exact List.suffix_cons _ _
  · exact List.suffix_rfl

/-- No line of a text ends a comment if the text does not. -/
theorem not_endsComment_lines (line : List Char) (h : ¬EndsComment (line.reverse ++ cs)) :
    ∀ l ∈ Text.linesFrom line cs, ¬EndsComment l := by
  fun_induction Text.linesFrom line cs with
  | case1 => exact List.forall_mem_nil _
  | case2 line hline => exact List.forall_mem_singleton.mpr (by simpa using h)
  | case3 line rest ih =>
    refine List.forall_mem_cons.mpr ⟨fun hend => h (hend.mono ?_), ih fun hend => h (hend.mono ?_)⟩
    · exact (List.reverse_prefix.mpr (dropReturn_suffix line)).isInfix.trans
        (List.prefix_append _ _).isInfix
    · exact ⟨line.reverse ++ ['\n'], [], by simp⟩
  | case4 line c rest hc ih => exact ih (by simpa using h)

/-- Lines that end no comment do so neither when they are joined by blanks. -/
theorem not_endsComment_intercalate {lines : List (List Char)} (h : ∀ l ∈ lines, ¬EndsComment l) :
    ¬EndsComment ([' '].intercalate lines) := by
  induction lines with
  | nil => exact not_endsComment_nil
  | cons line rest ih =>
    obtain ⟨hline, hrest⟩ := List.forall_mem_cons.mp h
    cases rest with
    | nil => rwa [List.intercalate_singleton]
    | cons next rest =>
      have hblank : ([' '] ++ [' '].intercalate (next :: rest)).head? ≠ some '/' := by simp
      have hspace : [' '].getLast? ≠ some '*' := by decide
      rw [List.intercalate_cons_cons, List.append_assoc, endsComment_append (Or.inr hblank),
        endsComment_append (Or.inl hspace), not_or, not_or]
      exact ⟨hline, by decide, ih hrest⟩

/-- The characters of a text inside a comment: the lines of the broken up text after each other. -/
theorem toList_commentText (s : String) : (commentText s).toList =
    [' '].intercalate (Text.linesFrom [] (broken 0 s.toList)) := by
  have hid : String.toList ∘ String.ofList = id := funext fun _ => String.toList_ofList
  rw [commentText, String.toList_intercalate, Text.lines, List.map_map, hid, List.map_id,
    Text.replaceAll]
  simp only [String.toList_ofList]
  rfl

/-- A text that is written into a remark does not end it. -/
theorem not_endsComment_commentText (s : String) : ¬EndsComment (commentText s).toList := by
  have hlines : ∀ l ∈ Text.linesFrom [] (broken 0 s.toList), ¬EndsComment l :=
    not_endsComment_lines [] (not_endsComment_broken s.toList).1
  rw [toList_commentText]
  exact not_endsComment_intercalate hlines

/-! ## Remarks -/

variable {context : Context} {n : Nat} {method : Method}

/-- A remark between its opening and its end. -/
def remarkBody (context : Context) (n : Nat) (method : Method) : String :=
  "\n   * " ++ Text.upper method.verb ++ " " ++ documentedUri context n ++ "\n" ++
    unlessEmpty method.description ("   *\n   * " ++ commentText method.description ++ "\n") ++
    (if takesBody method then "   * @param \x7b*\x7d body\n" else "") ++
    "   * @param \x7bobject\x7d [options]\n" ++
    String.join (method.queryParameters.entries.map fun entry => queryText entry.1 entry.2) ++
    "   * @returns \x7bPromise<Response>\x7d\n   "

/-- A remark is its body between the marks of a comment. -/
theorem remarkText_eq (context : Context) (n : Nat) (method : Method) :
    remarkText context n method = "  /**" ++ remarkBody context n method ++ "*/\n" := by
  have hopen : "  /**\n   * " = "  /**" ++ "\n   * " := rfl
  have hend : "   * @returns \x7bPromise<Response>\x7d\n   */\n" =
      "   * @returns \x7bPromise<Response>\x7d\n   " ++ "*/\n" := rfl
  delta remarkText remarkBody
  rw [hopen, hend]
  simp only [String.append_assoc, -String.reduceAppend]

/-- What a remark takes from the description as it is leaves the remark open. -/
structure KeepsRemark (context : Context) (n : Nat) (method : Method) : Prop where
  verb : ¬EndsComment (Text.upper method.verb).toList
  uri : ¬EndsComment (documentedUri context n).toList
  queries : ∀ name ∈ method.queryParameters.keys, ¬EndsComment name.toList

/-- The text of a description ends no comment between texts that do not. -/
theorem Inert.not_endsComment_described {opening : String} (h : Inert opening) (s : String)
    {after : List Char} (hafter : ¬EndsComment after) (hhead : after.head? ≠ some '/') :
    ¬EndsComment (opening.toList ++ ((commentText s).toList ++ after)) := by
  rw [h.endsComment_append, JavaScript.endsComment_append (Or.inr hhead), not_or]
  exact ⟨not_endsComment_commentText s, hafter⟩

/-- A line ends with a line feed. -/
theorem getLast?_line (s : String) : (s ++ "\n").toList.getLast? = some '\n' := by
  rw [String.toList_append]
  exact List.getLast?_concat

/-- What a remark says about a query parameter ends a comment exactly if its name does. -/
theorem endsComment_queryText (name : String) (param : Parameter) :
    EndsComment (queryText name param).toList ↔ EndsComment name.toList := by
  let opening := "   * @param " ++ ("\x7b" ++ parameterType param.type ++ "\x7d") ++
    " [options.query."
  let ending := "]" ++ unlessEmpty param.description (" " ++ commentText param.description) ++ "\n"
  have hopening : Inert opening := by
    unfold opening parameterType
    split <;> decide +kernel
  have hending : ¬EndsComment ending.toList := by
    unfold ending unlessEmpty
    split
    · decide +kernel
    · have hopen : Inert "] " := by decide +kernel
      have hline : ¬EndsComment "\n".toList ∧ "\n".toList.head? ≠ some '/' := by decide +kernel
      simpa using hopen.not_endsComment_described param.description hline.1 hline.2
  have hhead : ending.toList.head? ≠ some '/' := by simp [ending, String.toList_append]
  have htext : (queryText name param).toList =
      opening.toList ++ (name.toList ++ ending.toList) := by
    delta queryText
    simp only [opening, ending, String.toList_append, List.append_assoc, -String.reduceToList]
  rw [htext, hopening.endsComment_append, endsComment_append (Or.inr hhead),
    or_iff_left hending]

/-- The remarks on query parameters end a comment exactly if the name of one does. -/
theorem endsComment_queries (entries : List (String × Parameter)) :
    EndsComment (String.join (entries.map fun entry => queryText entry.1 entry.2)).toList ↔
      ∃ entry ∈ entries, EndsComment entry.1.toList := by
  induction entries with
  | nil => simp [not_endsComment_nil]
  | cons entry rest ih =>
    have hlast : (queryText entry.1 entry.2).toList.getLast? ≠ some '*' := by
      delta queryText
      rw [getLast?_line]
      decide
    rw [List.map_cons, String.join_cons, String.toList_append, endsComment_append (Or.inl hlast),
      endsComment_queryText, ih]
    simp

/-- What a remark tells about a method ends no comment, as it is the text of a description. -/
theorem inert_description (method : Method) : Inert (unlessEmpty method.description
    ("   *\n   * " ++ commentText method.description ++ "\n")) := by
  rw [unlessEmpty]
  split
  · decide +kernel
  · have hopen : Inert "   *\n   * " := by decide +kernel
    have hline : ¬EndsComment "\n".toList ∧ "\n".toList.head? ≠ some '/' := by decide +kernel
    refine ⟨?_, by rw [getLast?_line]; decide⟩
    rw [String.toList_append, String.toList_append, List.append_assoc]
    exact hopen.not_endsComment_described method.description hline.1 hline.2

/-- What a remark says about a body ends no comment. -/
theorem inert_body (method : Method) :
    Inert (if takesBody method then "   * @param \x7b*\x7d body\n" else "") := by
  split <;> decide +kernel

/-- A remark ends where its template closes it exactly if what it takes as it is keeps it open. -/
theorem endsComment_remarkBody :
    ¬EndsComment ((remarkBody context n method).toList ++ ['*']) ↔
      KeepsRemark context n method := by
  have hopen : Inert "\n   * " := by decide +kernel
  have hblank : Inert " " := by decide +kernel
  have hline : Inert "\n" := by decide +kernel
  have hoptions : Inert "   * @param \x7bobject\x7d [options]\n" := by decide +kernel
  have hend : ¬EndsComment ("   * @returns \x7bPromise<Response>\x7d\n   ".toList ++ ['*']) ∧
      ("   * @returns \x7bPromise<Response>\x7d\n   ".toList ++ ['*']).head? ≠ some '/' := by
    decide +kernel
  have hspace (rest : List Char) : (" ".toList ++ rest).head? ≠ some '/' := by simp
  have hbreak (rest : List Char) : ("\n".toList ++ rest).head? ≠ some '/' := by simp
  delta remarkBody
  simp only [String.toList_append, List.append_assoc, -String.reduceToList]
  rw [hopen.endsComment_append, endsComment_append (Or.inr (hspace _)),
    hblank.endsComment_append, endsComment_append (Or.inr (hbreak _)),
    hline.endsComment_append, (inert_description method).endsComment_append,
    (inert_body method).endsComment_append, hoptions.endsComment_append,
    endsComment_append (Or.inr hend.2), or_iff_left hend.1, endsComment_queries, not_or, not_or]
  constructor
  · rintro ⟨hverb, huri, hqueries⟩
    refine ⟨hverb, huri, fun name hname hends => ?_⟩
    obtain ⟨entry, hentry, rfl⟩ := List.mem_map.mp hname
    exact hqueries ⟨entry, hentry, hends⟩
  · rintro ⟨hverb, huri, hqueries⟩
    refine ⟨hverb, huri, ?_⟩
    rintro ⟨entry, hentry, hends⟩
    exact hqueries entry.1 (List.mem_map_of_mem hentry) hends

/-! ## Modules -/

variable {key : String}

/-- The comments of a module end where their templates end them: the header at the end of the first
line, and the remark above each method right before the method. -/
structure CommentsContained (context : Context) (text : String) : Prop where
  header : text.toList.takeWhile (· != '\n') =
    (headerText context.title (context.version.getD "")).toList
  remark : ∀ {n : Nat} {key : String} {m : Nat}, context.tree.Refers n key m →
    ∃ method before after, context.tree.methods[m]? = some method ∧
      let body := (remarkBody context n method).toList
      let inside := body ++ ("*/\n  [" ++ quoted key ++ "] (").toList ++ after
      text.toList = before ++ "  /**".toList ++ inside ∧ beforeEnd? inside = some body

/-- What the comments of a module take from a description as it is leaves them open. -/
structure KeepsComments (context : Context) : Prop where
  title : '\n' ∉ context.title.toList
  version : '\n' ∉ (context.version.getD "").toList
  remark : ∀ {n : Nat} {key : String} {m : Nat} {method : Method}, context.tree.Refers n key m →
    context.tree.methods[m]? = some method → KeepsRemark context n method

/-- A text is the first line exactly if it has no line feed. -/
theorem takeWhile_line_eq_iff :
    (cs ++ '\n' :: rest).takeWhile (· != '\n') = cs ↔ '\n' ∉ cs := by
  induction cs with
  | nil => simp
  | cons c cs ih =>
    by_cases hc : c = '\n'
    · subst hc
      simp
    · simp [hc, Ne.symm hc, ih]

/-- A header has a line feed exactly if the title or the version has one. -/
theorem mem_headerText_iff (title version : String) :
    '\n' ∈ (headerText title version).toList ↔
      '\n' ∈ title.toList ∨ '\n' ∈ version.toList := by
  have hopen : '\n' ∉ "// ".toList := by decide
  have hblank : '\n' ∉ " ".toList := by decide
  have hend : '\n' ∉ " client, generated by apigen. Do not edit.".toList := by decide +kernel
  rw [headerText, unlessEmpty]
  split
  next h =>
    subst h
    simp only [String.toList_append, List.mem_append, hopen, hend, false_or, or_false]
  next => simp only [String.toList_append, List.mem_append, hopen, hblank, hend, false_or, or_false]

/-- A module starts with its header. -/
theorem moduleText_header (context : Context) (options : Options) :
    ∃ rest, (moduleText context options).toList =
      (headerText context.title (context.version.getD "")).toList ++ '\n' :: rest := by
  have hline : "\n'use strict'\n\nconst DEFAULT_BASE_URI = " =
      "\n" ++ "'use strict'\n\nconst DEFAULT_BASE_URI = " := rfl
  have hbreak : "\n".toList = ['\n'] := rfl
  delta moduleText preludeText
  rw [hline]
  simp only [String.toList_append, List.append_assoc, hbreak, List.singleton_append,
    -String.reduceAppend, -String.reduceToList]
  exact ⟨_, rfl⟩

/-- A method starts with its remark. -/
theorem methodText_remark (context : Context) (n : Nat) (key : String) (method : Method) :
    ∃ rest, (methodText context n key method).toList = "  /**".toList ++
      ((remarkBody context n method).toList ++ ("*/\n  [" ++ quoted key ++ "] (").toList ++
        rest) := by
  have hend : "*/\n  [" = "*/\n" ++ "  [" := rfl
  delta methodText
  rw [remarkText_eq, hend]
  simp only [String.toList_append, List.append_assoc, -String.reduceAppend, -String.reduceToList]
  exact ⟨_, rfl⟩

/-- The remark of a method ends where its template ends it exactly if what it takes as it is keeps
it open. -/
theorem beforeEnd?_remark (context : Context) (n : Nat) (key : String) (method : Method)
    (after : List Char) :
    beforeEnd? ((remarkBody context n method).toList ++
      ("*/\n  [" ++ quoted key ++ "] (").toList ++ after) =
        some (remarkBody context n method).toList ↔ KeepsRemark context n method := by
  have hend : ("*/\n  [" ++ quoted key ++ "] (").toList =
      '*' :: '/' :: ("\n  [" ++ quoted key ++ "] (").toList := by
    rw [String.toList_append, String.toList_append, String.toList_append, String.toList_append]
    rfl
  rw [hend, List.append_assoc, List.cons_append, List.cons_append, beforeEnd?_eq_iff,
    endsComment_remarkBody]

/-- The comments of the module of a client end where their templates end them exactly if what they
take from the description as it is leaves them open. -/
theorem Rendered.commentsContained_iff {spec : Specification} {user : Options} {client : Client}
    (h : Rendered spec user client) :
    CommentsContained client.context (moduleText client.context client.options) ↔
      KeepsComments client.context := by
  obtain ⟨rest, hline⟩ := moduleText_header client.context client.options
  have hheader : (moduleText client.context client.options).toList.takeWhile (· != '\n') =
      (headerText client.context.title (client.context.version.getD "")).toList ↔
      '\n' ∉ client.context.title.toList ∧ '\n' ∉ (client.context.version.getD "").toList := by
    rw [hline, takeWhile_line_eq_iff, mem_headerText_iff, not_or]
  constructor
  · intro hcontained
    obtain ⟨htitle, hversion⟩ := hheader.mp hcontained.header
    refine ⟨htitle, hversion, fun {n key m method} href hmethod => ?_⟩
    obtain ⟨other, before, after, hother, -, hend⟩ := hcontained.remark href
    obtain rfl : other = method := Option.some.inj (hother.symm.trans hmethod)
    exact (beforeEnd?_remark _ _ _ _ _).mp hend
  · intro hkeeps
    refine ⟨hheader.mpr ⟨hkeeps.title, hkeeps.version⟩, fun {n key m} href => ?_⟩
    have hlt : m < client.context.tree.methods.size :=
      h.methods.2 m ((h.mem_methods m).mpr ⟨n, key, href⟩)
    have hmethod := Array.getElem?_eq_getElem hlt
    have hn : n ∈ client.context.allResources :=
      h.classes.mem_iff.mpr (List.mem_range.mpr href.lt_size)
    obtain ⟨before, after, htext⟩ := isInfix_methodText client.options hn href hmethod
    obtain ⟨rest', hremark⟩ := methodText_remark client.context n key client.context.tree.methods[m]
    refine ⟨_, before, rest' ++ after, hmethod, ?_, ?_⟩
    · rw [← htext, hremark]
      simp only [List.append_assoc, -String.reduceToList]
    · exact (beforeEnd?_remark _ _ _ _ _).mpr (hkeeps.remark href hmethod)

/-- Whatever is described and whatever options are given, the comments of the module end where their
templates end them exactly if neither the title nor the version has a line break and neither a verb
nor the URI of a method nor the name of a query parameter ends a comment. Descriptions never do. -/
theorem generate_comments_iff (spec : Specification) (user : Options) :
    ∃ client text, generate spec profile user = .ok client ∧
      client.files.get? "index.js" = some text ∧
      (CommentsContained client.context text ↔ KeepsComments client.context) := by
  have h := rendered_clientOf spec user
  exact ⟨_, _, generate_eq spec user, h.module_eq, h.commentsContained_iff⟩

/-- The title has two lines, the end of one segment and the start of the next one end a comment
together, and so does the name of a query parameter. -/
def escapingSpec : Specification where
  title := "A\nB"
  resources := [{
    relativeUri := "/*"
    resources := [{
      relativeUri := "/x"
      methods := [{ method := "get", queryParameters := .ofList [("a*/b", {})] }] }] }]

/-- Without a warning the first line of the module ends in the title, and the remark of the method
in its URI. -/
theorem escapingSpec_not_contained :
    let context := (Context.build format escapingSpec .fresh).1
    context.warnings = [] ∧ context.tree.methods.toList.map Method.resource = [2] ∧
      documentedUri context 2 = "/*/x" ∧
      (∀ method ∈ context.tree.methods,
        beforeEnd? (remarkText context 2 method).toList = some "  /**\n   * GET /".toList) ∧
      ∃ client text, generate escapingSpec profile .empty = .ok client ∧
        client.files.get? "index.js" = some text ∧ client.context = context ∧
        text.toList.takeWhile (· != '\n') = "// A".toList ∧
        ¬CommentsContained client.context text := by
  let client := clientOf escapingSpec .empty
  have h : Rendered escapingSpec .empty client := rendered_clientOf escapingSpec .empty
  refine ⟨by decide +kernel, by decide +kernel, by decide +kernel, by decide +kernel, client, _,
    generate_eq escapingSpec .empty, h.module_eq, h.context_eq, ?_, fun hcontained => ?_⟩
  · have hheader : (headerText escapingSpec.title "").toList = "// A".toList ++
        '\n' :: "B client, generated by apigen. Do not edit.".toList := by decide +kernel
    obtain ⟨rest, hline⟩ := moduleText_header client.context client.options
    have htitle : headerText client.context.title (client.context.version.getD "") =
        headerText escapingSpec.title "" := by
      rw [h.context_eq]
      rfl
    rw [hline, htitle, hheader, List.append_assoc, List.cons_append]
    exact takeWhile_line_eq_iff.mpr (by decide)
  · have htitle := (h.commentsContained_iff.mp hcontained).title
    rw [h.context_eq] at htitle
    exact htitle (by decide +kernel)

end ClientGen.JavaScript
