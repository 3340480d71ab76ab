import ClientGen.Proofs.JavaScript.Helper
import ClientGen.Proofs.JavaScript.Statements
import ClientGen.Proofs.Template.Rules
import ClientGen.JavaScript.Profile

/-!
# What the templates of a JavaScript client mean

Every template means the text that is written down for its file. The statements of a part of a file
mean its text wherever the names that they refer to are bound, which the loops around them do.
-/

namespace ClientGen.JavaScript

open Template

/-! ## The scene -/

/-- The compiled templates of a client, the fragments first. -/
def compiledTemplates : OrderedMap (List Statement) := .ofList [
  ("header", headerStatements), ("method", methodStatements), ("index.js", indexStatements),
  ("package.json", packageStatements), ("README.md", introductionStatements)]

/-- What the templates of a client refer to. -/
def environment (context : Context) (options : Options) : Environment where
  context
  options
  helpers := ⟨helpers⟩
  templates := compiledTemplates

/-- A context whose listed resources and methods are there. -/
structure Complete (context : Context) : Prop where
  wellFormed : context.tree.WellFormed
  listed_lt : ∀ n ∈ context.allResources, n < context.tree.nodes.size
  /-- A resource has its children from the tree. -/
  child_lt : ∀ n < context.tree.nodes.size, ∀ entry ∈ (resourceAt context n).children.entries,
    entry.2 < context.tree.nodes.size
  /-- A resource has its methods from the tree. -/
  method_lt : ∀ n < context.tree.nodes.size, ∀ entry ∈ (resourceAt context n).methods.entries,
    entry.2 < context.tree.methods.size
  /-- A listed method belongs to a resource. -/
  exists_method : ∀ m ∈ context.allMethods, ∃ method, context.tree.methods[m]? = some method ∧
    method.resource < context.tree.nodes.size

section Parts

variable {context : Context} {options : Options} {frames : List Frame} {below : Nested}
  {depth : Nat} {e : Expression} {s t : String} {body : List Statement}

/-- The value of an expression in the templates of a client. -/
abbrev Stands (context : Context) (options : Options) (frames : List Frame) (e : Expression)
    (value : Value) : Prop :=
  e.meaning? (environment context options) frames = some value

/-- The text of statements in the templates of a client. -/
abbrev Prints (context : Context) (options : Options) (below : Nested) (depth : Nat)
    (frames : List Frame) (body : List Statement) (text : String) : Prop :=
  meaningOfAll? (environment context options) below false depth frames body = some text

/-! ## Expressions -/

/-- What a helper makes of an expression. -/
theorem Stands.piped {value result : Value} {found : HelperSet.Found}
    (h : Stands context options frames e value) (name : String)
    (hfound : (environment context options).helpers.lookup? name = some found)
    (hresult : found.function context [value] = .ok result) :
    Stands context options frames (piped e name) result :=
  Expression.meaning?_filter h hfound hresult

/-- A text that is piped through `stringify` is quoted. -/
theorem Stands.stringify (h : Stands context options frames e (.text s)) :
    Stands context options frames (JavaScript.piped e "stringify") (.text (quoted s)) :=
  h.piped _ rfl rfl

/-- An identifier that is piped through `pascal_case` is the name of a class. -/
theorem Stands.pascal (h : Stands context options frames e (.text s)) :
    Stands context options frames (JavaScript.piped e "pascal_case") (.text (className s)) :=
  h.piped _ rfl (Context.call_style_text .pascal context s)

/-- A text that is piped through `upper_case` is in capital letters. -/
theorem Stands.upper (h : Stands context options frames e (.text s)) :
    Stands context options frames (JavaScript.piped e "upper_case") (.text (Text.upper s)) :=
  h.piped _ rfl rfl

/-- A text that is piped through `js_doc` can stand in a comment. -/
theorem Stands.comment (h : Stands context options frames e (.text s)) :
    Stands context options frames (JavaScript.piped e "js_doc") (.text (commentText s)) :=
  h.piped _ rfl rfl

/-- A value with a JSON form is written in it when it is piped through `stringify`. -/
theorem Stands.json {value : Value} {json : Json} (h : Stands context options frames e value)
    (hjson : value.toJson? context = some json) :
    Stands context options frames (JavaScript.piped e "stringify") (.text json.compact) :=
  h.piped _ rfl (stringify_value hjson)

/-! ## Statements -/

/-- No statements print nothing. -/
theorem prints_nil : Prints context options below depth frames [] "" := rfl

/-- Statements print one after the other. -/
theorem Prints.cons {statement : Statement}
    (hfirst : statement.meaning? (environment context options) below false depth frames = some s)
    (h : Prints context options below depth frames body t) :
    Prints context options below depth frames (statement :: body) (s ++ t) :=
  meaningOfAll?_cons hfirst h

/-- Content is printed as it is. -/
theorem Prints.content (s : String) (h : Prints context options below depth frames body t) :
    Prints context options below depth frames (.content s :: body) (s ++ t) :=
  .cons (Statement.meaning?_content s) h

/-- An output prints the text that its expression stands for. -/
theorem Prints.output (he : Stands context options frames e (.text s))
    (h : Prints context options below depth frames body t) :
    Prints context options below depth frames (.output e :: body) (s ++ t) := by
  refine .cons ?_ h
  rw [Statement.meaning?, he]
  rfl

/-- A branch prints what is chosen by the truth of its condition. -/
theorem Prints.branch {value : Value} {yes no : List Statement} {yesText noText : String}
    (he : Stands context options frames e value)
    (hyes : Prints context options below depth frames yes yesText)
    (hno : Prints context options below depth frames no noText)
    (h : Prints context options below depth frames body t) :
    Prints context options below depth frames (.branch e yes no :: body)
      ((if value.isTrue then yesText else noText) ++ t) :=
  .cons (Statement.meaning?_branch he hyes hno) h

/-- The text that statements print can be written down in another way. -/
theorem Prints.of_eq (h : Prints context options below depth frames body s) (hs : s = t) :
    Prints context options below depth frames body t := by
  rwa [hs] at h

/-- A fragment is written in the frames around it. -/
theorem Prints.fragment {level : Nat} {name : String} {included : List Statement}
    (hname : compiledTemplates.get? name = some included) (hescapes : escapes name = false)
    (hdepth : ¬Run.depthLimit < depth + Run.includeDepth)
    (hincluded : Prints context options (meaningAt? (environment context options) level)
      (depth + Run.includeDepth) frames included s)
    (h : Prints context options (meaningAt? (environment context options) (level + 1)) depth frames
      body t) :
    Prints context options (meaningAt? (environment context options) (level + 1)) depth frames
      (.includeFirst (.literal (.text name)) false :: body) (s ++ t) := by
  refine .cons (Statement.meaning?_include hname hdepth ?_) h
  rw [hescapes]
  exact hincluded

/-- A branch on a text is left out where the text is empty. -/
theorem Prints.unlessEmpty {yes : List Statement} {yesText : String}
    (he : Stands context options frames e (.text s))
    (hyes : Prints context options below depth frames yes yesText)
    (h : Prints context options below depth frames body t) :
    Prints context options below depth frames (.branch e yes [] :: body)
      (unlessEmpty s yesText ++ t) := by
  have htext : (if (Value.text s).isTrue then yesText else "") =
      JavaScript.unlessEmpty s yesText := by
    by_cases hs : s = "" <;> simp [JavaScript.unlessEmpty, Value.isTrue, hs]
  rw [← htext]
  exact .branch he hyes prints_nil h

/-! ## Loops -/

/-- What names stand for inside of a loop: those that it binds, and all others as around it. -/
structure Inside (context : Context) (options : Options) (frames inner : List Frame)
    (bound : List (String × Value)) : Prop where
  here {name : String} {value : Value} (h : bound.lookup name = some value) :
    Stands context options inner (.name name) value
  around {name : String} {value : Value} (h : bound.lookup name = none) (hname : name ≠ "loop")
    (hvalue : Stands context options frames (.name name) value) :
    Stands context options inner (.name name) value

/-- The frame of a round binds the names of the loop and leaves the others as they are. -/
theorem inside_roundFrame (items : List Value) (count : Option Nat) (index : Nat)
    (bound : List (String × Value)) :
    Inside context options frames (roundFrame items count index bound :: frames) bound where
  here h := Expression.meaning?_name (nameMeaning?_bound h)
  around h hname hvalue := by
    rw [Stands, Expression.meaning?] at hvalue ⊢
    rw [nameMeaning?_around h hname, hvalue]

/-- A loop over a list. -/
theorem Prints.items {α : Type} {items : List α} {encode : α → Value} {name : String}
    {round : List Statement} (text : α → String)
    (he : Stands context options frames e (.list (items.map encode)))
    (hdepth : ¬Run.depthLimit < depth + 1)
    (hround : ∀ item ∈ items, ∀ inner, Inside context options frames inner [(name, encode item)] →
      Prints context options below (depth + 1) inner round (text item))
    (h : Prints context options below depth frames body t) :
    Prints context options below depth frames (.loop (.name name) e none round [] :: body)
      (String.join (items.map text) ++ t) := by
  refine .cons (Statement.meaning?_loop he rfl hdepth ?_) h
  intro item hitem
  refine ⟨[(name, encode item)], rfl, ?_⟩
  intro items count index
  exact hround item hitem _ (inside_roundFrame items count index _)

/-- A loop over the entries of a table. -/
theorem Prints.entries {α : Type} {keyName valueName : String} {round : List Statement}
    (table : OrderedMap α) (encode : α → Value) (text : String × α → String)
    (he : Stands context options frames e
      (.record (table.mapEntries fun _ value => encode value).entries))
    (hne : keyName ≠ valueName) (hdepth : ¬Run.depthLimit < depth + 1)
    (hround : ∀ entry ∈ table.entries, ∀ inner,
      Inside context options frames inner
        [(keyName, .text entry.1), (valueName, encode entry.2)] →
      Prints context options below (depth + 1) inner round (text entry))
    (h : Prints context options below depth frames body t) :
    Prints context options below depth frames
      (.loop (.items [.name keyName, .name valueName]) (JavaScript.piped e "items") none round []
        :: body) (String.join (table.entries.map text) ++ t) := by
  have hitems : (Value.series ((table.mapEntries fun _ value => encode value).entries.map
      fun entry => .list [.text entry.1, entry.2])).iterate? =
      some (table.entries.map fun entry => .list [.text entry.1, encode entry.2]) := by
    rw [Value.iterate?, OrderedMap.mapEntries, List.map_map]
    rfl
  have hbound (entry : String × α) :
      insertEntry [(keyName, Value.text entry.1)] valueName (encode entry.2) =
        [(keyName, .text entry.1), (valueName, encode entry.2)] := by
    rw [insertEntry, if_neg hne, insertEntry]
  refine .cons (Statement.meaning?_loop (Expression.meaning?_items he rfl) hitems hdepth ?_) h
  intro entry hentry
  refine ⟨_, congrArg some (hbound entry), ?_⟩
  intro items count index
  exact hround entry hentry _ (inside_roundFrame items count index _)

/-! ## The header -/

/-- A version is written between two texts, unless there is none or it is empty. -/
theorem Prints.version {version : Option String} {after : List Statement} {afterText : String}
    (hversion : Stands context options frames (.name "version") (Context.optionalText version))
    (hafter : Prints context options below depth frames after afterText)
    (h : Prints context options below depth frames body t) :
    Prints context options below depth frames
      (.branch (.name "version") (.content s :: .output (.name "version") :: after) [] :: body)
      (JavaScript.unlessEmpty (version.getD "") (s ++ (version.getD "" ++ afterText)) ++ t) := by
  cases version with
  | some version =>
    refine .unlessEmpty hversion ?_ h
    apply Prints.content
    exact Prints.output hversion hafter
  | none =>
    have hwritten : (Statement.output (.name "version")).meaning? (environment context options)
        below false depth frames = some "None" := by
      rw [Statement.meaning?, hversion]
      rfl
    have hchosen : Prints context options below depth frames
        (.content s :: .output (.name "version") :: after) (s ++ ("None" ++ afterText)) := by
      apply Prints.content
      exact Prints.cons hwritten hafter
    exact Prints.branch hversion hchosen prints_nil h

/-- The header of a file names the title and the version. -/
theorem prints_header {version : Option String}
    (htitle : Stands context options frames (.name "title") (.text s))
    (hversion : Stands context options frames (.name "version") (Context.optionalText version)) :
    Prints context options below depth frames headerStatements
      (headerText s (version.getD "")) := by
  apply Prints.of_eq
  · apply Prints.content
    apply Prints.output htitle
    apply Prints.version hversion prints_nil
    exact Prints.content _ prints_nil
  · simp only [headerText, String.append_assoc, String.append_empty]

/-! ## Parameters -/

/-- A member of what a name stands for. -/
theorem Stands.member {whole part : Value} {name member : String}
    (h : Stands context options frames (.name name) whole)
    (hpart : whole.member context member = .ok part) :
    Stands context options frames (memberOf name member) part :=
  Expression.meaning?_member h hpart

/-- The default of a parameter is written under its name. -/
theorem prints_default {name : String} {param : Parameter}
    (hname : Stands context options frames (.name "name") (.text name))
    (hparam : Stands context options frames (.name "param") (.ofJson param.toJson)) :
    Prints context options below depth frames defaultStatements (defaultText name param) := by
  have hdefault : ((param.default.map Value.ofJson).getD .undefined).toJson? context =
      some (param.default.getD .null) := by
    cases param.default with
    | none => rfl
    | some json => exact Value.toJson?_ofJson context json
  have hwritten := (hparam.member (member_default context param)).json hdefault
  apply Prints.of_eq
  · apply Prints.content
    apply Prints.output hname.stringify
    apply Prints.content
    apply Prints.output hwritten
    exact Prints.content _ prints_nil
  · simp only [defaultText, String.append_assoc, String.append_empty]

/-- The type of a parameter as a comment names it. -/
theorem Stands.type {param : Parameter}
    (hcall : Stands context options frames (.name "js_type") (.helper "js_type"))
    (hparam : Stands context options frames (.name "param") (.ofJson param.toJson)) :
    Stands context options frames (.call "js_type" [(.inOrder, memberOf "param" "type")])
      (.text (parameterType param.type)) := by
  have hname : nameMeaning? (environment context options) frames "js_type" =
      some (.helper "js_type") := by
    rw [Stands, Expression.meaning?] at hcall
    cases hfound : nameMeaning? (environment context options) frames "js_type" with
    | none => simp [hfound] at hcall
    | some value => simpa [hfound] using hcall
  have hpassed : meaningOfPassed? (environment context options) frames .empty
      [(.inOrder, memberOf "param" "type")] = some ⟨[.text param.type], []⟩ := by
    rw [meaningOfPassed?, hparam.member (member_type context param)]
    rfl
  rw [Stands, Expression.meaning?, hpassed, Option.bind_eq_bind, Option.bind_some, hname]
  rfl

/-- A query parameter is remarked on with its type and its description. -/
theorem prints_query {name : String} {param : Parameter}
    (hcall : Stands context options frames (.name "js_type") (.helper "js_type"))
    (hname : Stands context options frames (.name "name") (.text name))
    (hparam : Stands context options frames (.name "param") (.ofJson param.toJson)) :
    Prints context options below depth frames queryStatements (queryText name param) := by
  have htype : Stands context options frames (.binary .concatenate
      (.binary .concatenate (.literal (.text "\x7b"))
        (.call "js_type" [(.inOrder, memberOf "param" "type")])) (.literal (.text "\x7d")))
      (.text ("\x7b" ++ parameterType param.type ++ "\x7d")) := by
    rw [Stands, Expression.meaning?, Expression.meaning?, Expression.meaning?, hcall.type hparam]
    rfl
  have hdescription := hparam.member (member_description context param)
  apply Prints.of_eq
  · apply Prints.content
    apply Prints.output htype
    apply Prints.content
    apply Prints.output hname
    apply Prints.content
    apply Prints.unlessEmpty hdescription
    case hyes =>
      apply Prints.content
      exact Prints.output hdescription.comment prints_nil
    exact Prints.content _ prints_nil
  · delta queryText
    simp only [String.append_assoc, String.append_empty]

/-! ## Resources -/

section Resources

variable {key : String}

/-- A child is made under its key, as a function of its parameters if it has some. -/
theorem prints_child {child : Node} {c : Nat} (hchild : context.tree.nodes[c]? = some child)
    (hkey : Stands context options frames (.name "key") (.text key))
    (hname : Stands context options frames (.name "child") (.view (.resource c))) :
    Prints context options below depth frames childStatements (childText key child) := by
  have hparams := hname.member (member_resource hchild "uri_parameters" rfl)
  have hid := hname.member (member_resource hchild "id" rfl)
  have huri := hname.member (member_resource hchild "relative_uri" rfl)
  have hbindings := hname.piped "param_list" rfl (parameterHelper_resource hchild)
  have hopen : "] = (" = "] = " ++ "(" := rfl
  have hnew : "] = new " = "] = " ++ "new " := rfl
  have hclose : "]))\n" = "]))" ++ "\n" := rfl
  have hclose' : ")\n" = ")" ++ "\n" := rfl
  apply Prints.of_eq
  · apply Prints.branch hparams
    case h => exact prints_nil
    case hyes =>
      apply Prints.content
      apply Prints.output hkey.stringify
      apply Prints.content
      apply Prints.output hbindings
      apply Prints.content
      apply Prints.output hid.pascal
      apply Prints.content
      apply Prints.output huri.stringify
      apply Prints.content
      apply Prints.output hbindings
      exact Prints.content _ prints_nil
    case hno =>
      apply Prints.content
      apply Prints.output hkey.stringify
      apply Prints.content
      apply Prints.output hid.pascal
      apply Prints.content
      apply Prints.output huri.stringify
      exact Prints.content _ prints_nil
  · rw [hopen, hnew, hclose, hclose']
    delta childText
    cases child.uriParameters with
    | nil =>
      simp only [List.map_nil, Value.isTrue, List.isEmpty_nil, Bool.not_true, Bool.false_eq_true,
        if_false, if_true, String.append_assoc, String.append_empty, -String.reduceAppend]
    | cons param rest =>
      simp only [List.map_cons, Value.isTrue, List.isEmpty_cons, Bool.not_false,
        Bool.false_eq_true, if_false, if_true, String.append_assoc, String.append_empty,
        -String.reduceAppend]

/-- Whether a method sends a body. -/
theorem stands_bodyCondition {method : Method} {m : Nat}
    (hmethod : context.tree.methods[m]? = some method)
    (hname : Stands context options frames (.name "method") (.view (.method m))) :
    Stands context options frames bodyCondition (.flag (takesBody method)) := by
  have hbody := hname.member (member_method hmethod "body" rfl)
  rw [bodyCondition, Stands, Expression.meaning?, Expression.meaning?, hbody]
  cases h : method.body with
  | none =>
    simp only [takesBody, h]
    rfl
  | some json =>
    simp only [takesBody, h]
    cases json <;> rfl

/-- A method is written with its remark, its parameters and its request. -/
theorem prints_method {node : Node} {method : Method} {n m : Nat} (hwf : context.tree.WellFormed)
    (hnode : context.tree.nodes[n]? = some node) (hmethod : context.tree.methods[m]? = some method)
    (hdepth : ¬Run.depthLimit < depth + 1)
    (hcall : Stands context options frames (.name "js_type") (.helper "js_type"))
    (hkey : Stands context options frames (.name "key") (.text key))
    (hresource : Stands context options frames (.name "resource") (.view (.resource n)))
    (hname : Stands context options frames (.name "method") (.view (.method m))) :
    Prints context options below depth frames methodStatements
      (methodText context n key method) := by
  have hverb := hname.member (member_method hmethod "method" rfl)
  have hdescription := hname.member (member_method hmethod "description" rfl)
  have hquery := hname.member (member_method hmethod "query_parameters" rfl)
  have huri := hresource.piped "display_uri" rfl (uriHelper_resource hwf hnode)
  have hbody := stands_bodyCondition hmethod hname
  have hreturns : "   * @returns \x7bPromise<Response>\x7d\n   */\n  [" =
      "   * @returns \x7bPromise<Response>\x7d\n   */\n" ++ "  [" := rfl
  apply Prints.of_eq
  · apply Prints.content
    apply Prints.output hverb.upper
    apply Prints.content
    apply Prints.output huri
    apply Prints.content
    apply Prints.unlessEmpty hdescription
    case hyes =>
      apply Prints.content
      apply Prints.output hdescription.comment
      exact Prints.content _ prints_nil
    apply Prints.branch hbody (.content _ prints_nil) prints_nil
    apply Prints.content
    apply Prints.entries method.queryParameters (fun param => .ofJson param.toJson)
      (fun entry => queryText entry.1 entry.2) hquery (by decide) hdepth
    case hround =>
      intro entry _ inner hin
      exact prints_query (hin.around rfl (by decide) hcall) (hin.here rfl) (hin.here rfl)
    apply Prints.content
    apply Prints.output hkey.stringify
    apply Prints.content
    apply Prints.branch hbody (.content _ prints_nil) prints_nil
    apply Prints.content
    apply Prints.output hverb.upper.stringify
    apply Prints.content
    apply Prints.branch hbody (.content _ prints_nil) (.content _ prints_nil)
    exact Prints.content _ prints_nil
  · rw [hreturns]
    delta methodText remarkText
    simp only [Value.isTrue, String.append_assoc, String.append_empty, -String.reduceAppend]

section Levels

variable {n level : Nat}

/-- The method of an entry is written by a fragment, which sees what the loops around it bind. -/
theorem prints_block {entry : String × Nat} (hwf : context.tree.WellFormed)
    (hn : n < context.tree.nodes.size) (hentry : entry.2 < context.tree.methods.size)
    (hdepth : ¬Run.depthLimit < depth + Run.includeDepth + 1)
    (hcall : Stands context options frames (.name "js_type") (.helper "js_type"))
    (hkey : Stands context options frames (.name "key") (.text entry.1))
    (hresource : Stands context options frames (.name "resource") (.view (.resource n)))
    (hname : Stands context options frames (.name "method") (.view (.method entry.2))) :
    Prints context options (meaningAt? (environment context options) (level + 1)) depth frames
      blockStatements (methodBlock context n entry) := by
  have hmethod := Array.getElem?_eq_getElem hentry
  have hnode := Array.getElem?_eq_getElem hn
  have hwritten : Prints context options (meaningAt? (environment context options) level)
      (depth + Run.includeDepth) frames methodStatements
      (methodText context n entry.1 context.tree.methods[entry.2]) :=
    prints_method hwf hnode hmethod hdepth hcall hkey hresource hname
  apply Prints.of_eq
  · apply Prints.content
    exact Prints.fragment rfl (by decide) (by omega) hwritten prints_nil
  · rw [methodBlock, hmethod, Option.map_some, Option.getD_some, String.append_empty]

/-- The class of a resource. -/
theorem prints_class (hcontext : Complete context) (hn : n < context.tree.nodes.size)
    (hdepth : ¬Run.depthLimit < depth + 1 + Run.includeDepth + 1)
    (hcall : Stands context options frames (.name "js_type") (.helper "js_type"))
    (hresource : Stands context options frames (.name "resource") (.view (.resource n))) :
    Prints context options (meaningAt? (environment context options) (level + 1)) depth frames
      classStatements (classText context n) := by
  have hnode := getElem?_resourceAt hn
  have hid := hresource.member (member_resource hnode "id" rfl)
  have hchildren := hresource.member (member_resource hnode "children" rfl)
  have hmethods := hresource.member (member_resource hnode "methods" rfl)
  apply Prints.of_eq
  · apply Prints.content
    apply Prints.output hid.pascal
    apply Prints.content
    apply Prints.entries (resourceAt context n).children (fun c => .view (.resource c))
      (fun entry => childText entry.1 (resourceAt context entry.2)) hchildren (by decide) (by omega)
    case hround =>
      intro entry hentry inner hin
      have hchild := getElem?_resourceAt (hcontext.child_lt n hn entry hentry)
      exact prints_child hchild (hin.here rfl) (hin.here rfl)
    apply Prints.content
    apply Prints.entries (resourceAt context n).methods (fun m => .view (.method m))
      (methodBlock context n) hmethods (by decide) (by omega)
    case hround =>
      intro entry hentry inner hin
      have hcall' := hin.around rfl (by decide) hcall
      have hresource' := hin.around rfl (by decide) hresource
      exact prints_block hcontext.wellFormed hn (hcontext.method_lt n hn entry hentry) hdepth
        hcall' (hin.here rfl) hresource' (hin.here rfl)
    exact Prints.content _ prints_nil
  · simp only [classText, String.append_assoc, String.append_empty, -String.reduceAppend]

end Levels

end Resources

/-! ## The introduction -/

/-- A chapter is written with its title and its content. -/
theorem prints_chapter {doc : Documentation}
    (hdoc : Stands context options frames (.name "doc") (.ofJson doc.toJson)) :
    Prints context options below depth frames chapterStatements (chapterText doc) := by
  have htitle : Stands context options frames (memberOf "doc" "title") (.text doc.title) :=
    hdoc.member rfl
  have hcontent : Stands context options frames (memberOf "doc" "content") (.text doc.content) :=
    hdoc.member rfl
  apply Prints.of_eq
  · apply Prints.content
    apply Prints.output htitle
    apply Prints.content
    apply Prints.output hcontent
    exact Prints.content _ prints_nil
  · simp only [chapterText, String.append_assoc, String.append_empty, -String.reduceAppend]

/-- A method has a row with its verb, its URI and its description. -/
theorem prints_row {method : Method} {m : Nat} (hwf : context.tree.WellFormed)
    (hmethod : context.tree.methods[m]? = some method)
    (hresource : method.resource < context.tree.nodes.size)
    (hname : Stands context options frames (.name "method") (.view (.method m))) :
    Prints context options below depth frames rowStatements (rowText context method) := by
  have hverb := hname.member (member_method hmethod "method" rfl)
  have hdescription := hname.member (member_method hmethod "description" rfl)
  have huri := (hname.member (member_method hmethod "resource" rfl)).piped "display_uri" rfl
    (uriHelper_resource hwf (getElem?_resourceAt hresource))
  apply Prints.of_eq
  · apply Prints.content
    apply Prints.output hverb.upper
    apply Prints.content
    apply Prints.output huri
    apply Prints.content
    apply Prints.output hdescription.comment
    exact Prints.content _ prints_nil
  · delta rowText
    simp only [String.append_assoc, String.append_empty, -String.reduceAppend]

end Parts

/-! ## Whole files -/

section Files

variable {context : Context} {options : Options} {name : String}

/-- What the context has under a name. -/
theorem stands_context {value : Value} (h : context.member? options name = some value) :
    Stands context options [outermost] (.name name) value :=
  Expression.meaning?_name (nameMeaning?_context h)

/-- An option, which is undefined where it is not given. -/
theorem stands_option (context : Context) (options : Options) (name : String) :
    Stands context options [outermost] (memberOf "options" name)
      (((options.get? name).map Value.ofJson).getD .undefined) := by
  have hoptions : Stands context options [outermost] (.name "options")
      (Context.tableValue (fun value => value) options) := stands_context rfl
  refine hoptions.member ?_
  rw [Context.tableValue, Value.member_record, Value.lookup_map_snd]
  rfl

/-- An option is written as JSON. -/
theorem toJson?_option (context : Context) (options : Options) (name : String) :
    (((options.get? name).map Value.ofJson).getD .undefined).toJson? context =
      some ((options.get? name).getD .null) := by
  cases options.get? name with
  | none => rfl
  | some json => exact Value.toJson?_ofJson context json

/-- A branch on whether requests carry an access token. -/
theorem Prints.token {below : Nested} {depth : Nat} {body : List Statement} {t : String}
    (s : String) (h : Prints context options below depth [outermost] body t) :
    Prints context options below depth [outermost]
      (.branch tokenCondition [.content s] [] :: body)
      ((if sendsToken context options then s else "") ++ t) := by
  have hschemes : Stands context options [outermost] (.name "security_schemes")
      (Context.tableValue SecurityScheme.toJson context.securitySchemes) := stands_context rfl
  have hany : (Context.tableValue SecurityScheme.toJson context.securitySchemes).isTrue =
      !context.securitySchemes.isEmpty := by
    simp [Context.tableValue, Value.record, Value.entriesOf, Value.isTrue, OrderedMap.isEmpty]
  have hboth : Stands context options [outermost] tokenCondition _ :=
    Expression.meaning?_both (stands_option context options "auth") hschemes
  have hbranch := Prints.branch hboth (.content s prints_nil) prints_nil h
  rwa [String.append_empty, isTrue_both, hany] at hbranch

/-- A list of texts is written as JSON. -/
theorem toJson?_texts (context : Context) (texts : List String) :
    (Value.list (texts.map .text)).toJson? context = some (.array (texts.map .text)) := by
  have htexts : Value.list (texts.map .text) = .ofJson (.array (texts.map .text)) := by
    rw [Value.ofJson, Value.ofItems_eq_map, List.map_map]
    rfl
  rw [htexts, Value.toJson?_ofJson]

/-- The template of the module prints the module. -/
theorem prints_index (h : Complete context) :
    Prints context options (meaningAt? (environment context options) 100) 1 [outermost]
      indexStatements (moduleText context options) := by
  have hroot : context.tree.nodes[Tree.root]? = some (resourceAt context Tree.root) :=
    getElem?_resourceAt h.wellFormed.size_pos
  have hresources : Stands context options [outermost] (.name "resources") _ := stands_context rfl
  have hbase : Stands context options [outermost] (.name "base_uri") _ := stands_context rfl
  have hsupported : Stands context options [outermost] (.name "supported_methods") _ :=
    stands_context rfl
  have hcall : Stands context options [outermost] (.name "js_type") (.helper "js_type") :=
    Expression.meaning?_name (nameMeaning?_helper rfl (by decide) rfl)
  have hid := hresources.member (member_resource hroot "id" rfl)
  apply Prints.of_eq
  · apply Prints.fragment rfl (by decide) (by decide)
    case hincluded => exact prints_header (stands_context rfl) (stands_context rfl)
    apply Prints.content
    apply Prints.output hbase.stringify
    apply Prints.content
    apply Prints.entries context.baseUriParameters (fun param => .ofJson param.toJson)
      (fun entry => defaultText entry.1 entry.2) (stands_context rfl) (by decide) (by decide)
    case hround =>
      intro entry _ inner hin
      exact prints_default (hin.here rfl) (hin.here rfl)
    apply Prints.content
    apply Prints.items (classText context) (stands_context rfl) (by decide)
    case hround =>
      intro n hn inner hin
      have hcall' := hin.around rfl (by decide) hcall
      exact prints_class h (h.listed_lt n hn) (by decide) hcall' (hin.here rfl)
    apply Prints.content
    apply Prints.output hid.pascal
    apply Prints.content
    apply Prints.token
    apply Prints.content
    apply Prints.token
    apply Prints.content
    apply Prints.output (hsupported.json (toJson?_texts _ _))
    exact Prints.content _ prints_nil
  · delta moduleText preludeText clientText
    simp only [String.append_assoc, String.append_empty, -String.reduceAppend]

/-- The name of the package is written as JSON, whichever value it is. -/
theorem stands_packageName (context : Context) (options : Options) :
    Stands context options [outermost] packageNameExpression
      (.text (packageNameText context options)) := by
  have htitle : Stands context options [outermost] (.name "title") _ := stands_context rfl
  have hname := Expression.meaning?_either (stands_option context options "name")
    (htitle.piped "package_name" rfl rfl)
  rw [packageNameText, isSet]
  split at hname
  · rw [if_pos ‹_›]
    exact Stands.json hname (toJson?_option context options "name")
  · rw [if_neg ‹_›]
    exact Stands.stringify hname

/-- The template of the package description prints the description. -/
theorem prints_package {below : Nested} {depth : Nat} (context : Context) (options : Options) :
    Prints context options below depth [outermost] packageStatements
      (packageText context options) := by
  have hoption (name : String) := (stands_option context options name).json
    (toJson?_option context options name)
  have hdescription : Stands context options [outermost]
      (.binary .concatenate (.literal (.text "Client for ")) (.name "title"))
      (.text ("Client for " ++ context.title)) := by
    have htitle : Stands context options [outermost] (.name "title") _ := stands_context rfl
    rw [Stands, Expression.meaning?, Expression.meaning?, htitle]
    rfl
  apply Prints.of_eq
  · apply Prints.content
    apply Prints.output (stands_packageName context options)
    apply Prints.content
    apply Prints.output (hoption "package_version")
    apply Prints.content
    apply Prints.output hdescription.stringify
    apply Prints.content
    apply Prints.output (hoption "license")
    apply Prints.content
    apply Prints.branch (stands_option context options "repository")
    case hno => exact prints_nil
    case hyes =>
      apply Prints.content
      apply Prints.output (hoption "repository")
      exact Prints.content _ prints_nil
    exact Prints.content _ prints_nil
  · delta packageText isSet optionText
    simp only [String.append_assoc, String.append_empty, -String.reduceAppend]

/-- The template of the introduction prints the introduction. -/
theorem prints_introduction {below : Nested} {depth : Nat} (h : Complete context)
    (hdepth : ¬Run.depthLimit < depth + 1) :
    Prints context options below depth [outermost] introductionStatements
      (introductionText context options) := by
  have htitle : Stands context options [outermost] (.name "title") _ := stands_context rfl
  have hbase : Stands context options [outermost] (.name "base_uri") _ := stands_context rfl
  apply Prints.of_eq
  · apply Prints.content
    apply Prints.output htitle
    apply Prints.content
    apply Prints.output htitle
    apply Prints.version (stands_context rfl) (.content _ prints_nil)
    apply Prints.content
    apply Prints.output (stands_packageName context options)
    apply Prints.content
    apply Prints.output hbase.stringify
    apply Prints.content
    apply Prints.items chapterText (stands_context rfl) hdepth
    case hround =>
      intro doc _ inner hin
      exact prints_chapter (hin.here rfl)
    apply Prints.content
    apply Prints.items (fun m => ((context.tree.methods[m]?).map (rowText context)).getD "")
      (stands_context rfl) hdepth
    case h => exact prints_nil
    case hround =>
      intro m hm inner hin
      obtain ⟨method, hmethod, hresource⟩ := h.exists_method m hm
      rw [hmethod, Option.map_some, Option.getD_some]
      exact prints_row h.wellFormed hmethod hresource (hin.here rfl)
  · delta introductionText
    simp only [String.append_assoc, String.append_empty, -String.reduceAppend]

end Files

end ClientGen.JavaScript
