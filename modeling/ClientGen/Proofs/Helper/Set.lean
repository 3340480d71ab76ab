import ClientGen.Helper.Set
import ClientGen.Proofs.OrderedMap
import ClientGen.Proofs.Template.Meaning

/-!
# Ways to a helper

A helper is found in three ways: by its name, in the list of all names, and among the functions and
filters that are registered. All three agree, whichever standard helpers a language replaces. A
template that calls a helper by its name, as a function or as a filter, calls the one that is found.
-/

namespace ClientGen

/-! ## Standard helpers -/

namespace StandardHelper

variable {name : String}

/-- Every standard helper is listed. -/
theorem mem_all (helper : StandardHelper) : helper ∈ all := by
  cases helper with
  | style caseStyle => cases caseStyle <;> decide
  | upperCase | lowerCase | upperFirst | lowerFirst | allOf | anyOf | negate | equal | keys | values
  | length | isArray | isObject | stringify | join => decide

/-- The names of the standard helpers are different. -/
theorem nodup_names : (all.map StandardHelper.name).Nodup := by decide

/-- A standard helper is found under its name. -/
theorem ofName?_name (helper : StandardHelper) : ofName? helper.name = some helper := by
  obtain ⟨found, hfound⟩ : ∃ found, ofName? helper.name = some found := by
    rw [← Option.isSome_iff_exists, ofName?, List.find?_isSome]
    exact ⟨helper, mem_all helper, by simp⟩
  have hname : found.name = helper.name := by simpa using List.find?_some hfound
  rw [hfound, List.inj_on_of_nodup_map nodup_names (mem_all found) (mem_all helper) hname]

/-- Under other names than those of the standard helpers none is found. -/
theorem ofName?_eq_none_iff : ofName? name = none ↔ name ∉ all.map StandardHelper.name := by
  simp [ofName?, List.find?_eq_none]

/-- A helper that looks at its first argument says so where there is none, and leaves it to others
to word what is wrong with the argument. -/
theorem worded_onFirst {args : List Value} {f : Value → Except TemplateError Value}
    {error : TemplateError} (hf : ∀ value, f value = .error error → error.message? = none)
    (h : onFirst args f = .error error) : error.message?.isSome ↔ args = [] := by
  cases args with
  | nil =>
    obtain rfl : TemplateError.missingArguments 1 = error := Except.error.inj h
    simp [TemplateError.message?]
  | cons value rest => simp [hf value h]

/-- A standard helper words its errors exactly where it has no argument to look at. -/
theorem worded_call {helper : StandardHelper} {context : Context} {args : List Value}
    {error : TemplateError} (h : helper.call context args = .error error) :
    error.message?.isSome ↔ args = [] := by
  cases helper with
  | allOf | anyOf => cases h
  | negate | equal | keys | values | length | isArray | isObject =>
    exact worded_onFirst (fun _ hvalue => by cases hvalue) h
  | style | upperCase | lowerCase | upperFirst | lowerFirst =>
    refine worded_onFirst (fun value hvalue => ?_) h
    split at hvalue <;> cases hvalue
  | stringify =>
    refine worded_onFirst (fun value hvalue => ?_) h
    rw [jsonText] at hvalue
    split at hvalue
    · cases hvalue
    · obtain rfl : TemplateError.unserializable = error := Except.error.inj hvalue
      rfl
  | join =>
    refine worded_onFirst (fun value hvalue => ?_) h
    split at hvalue
    · cases hvalue
    · split at hvalue
      · cases hvalue
      · obtain rfl : TemplateError.invalidOperation = error := Except.error.inj hvalue
        rfl

end StandardHelper

/-! ## Sets of helpers -/

namespace HelperSet

variable {helpers : HelperSet} {name : String} {helper : Helper}

/-- A helper of the language is found before a standard one. -/
theorem lookup?_of_own (h : helpers.own.get? name = some helper) :
    helpers.lookup? name = some (.own helper) := by
  simp [lookup?, h]

/-- Where the language has no helper, a standard one may be found. -/
theorem lookup?_of_own_eq_none (h : helpers.own.get? name = none) :
    helpers.lookup? name = (StandardHelper.ofName? name).map .standard := by
  simp [lookup?, h]

/-- Nothing is found under a name that neither a profile nor the standard has. -/
theorem lookup?_eq_none_iff : helpers.lookup? name = none ↔
    name ∉ helpers.own.keys ∧ name ∉ StandardHelper.all.map StandardHelper.name := by
  rw [← OrderedMap.get?_eq_none_iff, ← StandardHelper.ofName?_eq_none_iff]
  cases hown : helpers.own.get? name with
  | some helper => simp [lookup?_of_own hown]
  | none => simp [lookup?_of_own_eq_none hown]

/-- The names that only the language has come after those of the standard helpers. -/
theorem names_eq (helpers : HelperSet) : helpers.names =
    StandardHelper.all.map StandardHelper.name ++
      helpers.own.keys.filter fun name => name ∉ StandardHelper.all.map StandardHelper.name := by
  rw [names]
  congr 1
  refine List.filter_congr fun name _ => ?_
  rw [Bool.eq_iff_iff, Option.isNone_iff_eq_none, StandardHelper.ofName?_eq_none_iff,
    decide_eq_true_iff]

/-- No helper is named twice. -/
theorem nodup_names (helpers : HelperSet) : helpers.names.Nodup := by
  rw [names_eq, List.nodup_append]
  refine ⟨StandardHelper.nodup_names, helpers.own.nodup_keys.filter _, ?_⟩
  rintro name hstandard other hown rfl
  have hnew := (List.mem_filter.mp hown).2
  exact of_decide_eq_true hnew hstandard

/-- A helper is found under the names that are listed, and under no other. -/
theorem mem_names_iff : name ∈ helpers.names ↔ (helpers.lookup? name).isSome := by
  rw [names_eq, List.mem_append, List.mem_filter, Option.isSome_iff_ne_none, ne_eq,
    lookup?_eq_none_iff, decide_eq_true_iff]
  by_cases hstandard : name ∈ StandardHelper.all.map StandardHelper.name <;> simp [hstandard]

/-- Calling a helper calls the function that is found under its name. -/
theorem call_eq {found : Found} (h : helpers.lookup? name = some found) (context : Context)
    (args : List Value) : helpers.call context name args = found.function context args := by
  simp [call, h]

/-! ## Registered helpers -/

/-- Of the helpers registered under some names, the one with a name is found in a table that helpers
are added to, and the table is otherwise as it was. -/
theorem get?_foldl_registerName (helpers : HelperSet) (table : Registry → OrderedMap Helper)
    (htable : ∀ registry name helper,
      table (registry.add name helper) = (table registry).insert name helper)
    (names : List String) (registry : Registry) (name : String) :
    (table (names.foldl helpers.registerName registry)).get? name =
      if name ∈ names then (helpers.find? name).or ((table registry).get? name)
      else (table registry).get? name := by
  induction names generalizing registry with
  | nil => rfl
  | cons first rest ih =>
    rw [List.foldl_cons, ih]
    cases hfirst : helpers.find? first with
    | none =>
      have hsame : helpers.registerName registry first = registry := by
        simp [registerName, hfirst]
      rw [hsame]
      by_cases hname : name = first
      · subst hname
        simp [hfirst]
      · simp [hname]
    | some helper =>
      have hadded : helpers.registerName registry first = registry.add first helper := by
        simp [registerName, hfirst]
      rw [hadded, htable, OrderedMap.get?_insert]
      by_cases hname : name = first
      · subst hname
        simp [hfirst]
      · simp [hname]

end HelperSet

/-! ## Templates -/

namespace Template

variable {env : Environment} {name : String} {depth : Nat} {escape : Bool} {state : State}

/-- Arguments that are passed as they are, one after the other. -/
def passed (args : List Value) : List (Passing × Expression) :=
  args.map fun arg => (.inOrder, .literal arg)

namespace Run

variable {below : Below}

/-- Values that are passed on are given in order. -/
theorem evaluatePassed_passed (args : List Value) (given : Arguments) :
    evaluatePassed env below escape depth given (passed args) state =
      .ok ({ given with positional := given.positional ++ args }, state) := by
  induction args generalizing given with
  | nil =>
    simp only [passed, List.map_nil, List.append_nil]
    rw [evaluatePassed]
    rfl
  | cons arg rest ih =>
    have hliteral : evaluate env below escape depth (.literal arg) state = .ok (arg, state) := by
      rw [evaluate]
      rfl
    have hadd : lift (given.add env.context .inOrder arg) state =
        .ok ({ given with positional := given.positional ++ [arg] }, state) := rfl
    rw [passed, List.map_cons, evaluatePassed, bind_eq hliteral, bind_eq hadd, ← passed, ih]
    simp

/-- A name that nothing else has is that of a helper. -/
theorem lookup?_helper (hfree : lookupIn env state.closures name state.frames = none)
    (hfound : (env.helpers.lookup? name).isSome) :
    lookup? env name state = .ok (some (.helper name), state) := by
  obtain ⟨found, hfound⟩ := Option.isSome_iff_exists.mp hfound
  rw [lookup?_apply, hfree, hfound]
  rfl

/-- A call of a name that only a helper has is a call of the helper. -/
theorem evaluate_call_helper (hfree : lookupIn env state.closures name state.frames = none)
    (hname : name ∉ ["loop", "super"]) (hfound : (env.helpers.lookup? name).isSome)
    (args : List Value) : evaluate env below escape depth (.call name (passed args)) state =
      lift (env.helpers.call env.context name args) state := by
  have hordinary : ¬["loop", "super"].contains name = true := by simpa using hname
  rw [evaluate, bind_eq (evaluatePassed_passed args .empty), if_neg hordinary,
    bind_eq (lookup?_helper hfree hfound)]
  rfl

/-- A filter with the name of a helper is the helper, whose first argument is what is filtered. -/
theorem evaluate_filter_helper (hfound : (env.helpers.lookup? name).isSome) (value : Value)
    (args : List Value) :
    evaluate env below escape depth (.filter (.literal value) name (passed args)) state =
      lift (env.helpers.call env.context name (value :: args)) state := by
  obtain ⟨found, hfound⟩ := Option.isSome_iff_exists.mp hfound
  have hliteral : evaluate env below escape depth (.literal value) state = .ok (value, state) := by
    rw [evaluate]
    rfl
  have hfilter : applyFilter env.helpers env.context name value ⟨args, []⟩ =
      env.helpers.call env.context name (value :: args) := by
    have hmap : ¬(name = "map" ∧ (env.helpers.lookup? name).isNone) := by simp [hfound]
    rw [applyFilter, if_neg hmap, HelperSet.call_eq hfound]
    simp only [applySimple, hfound]
    rfl
  rw [evaluate, bind_eq hliteral, bind_eq (evaluatePassed_passed args .empty)]
  show lift (applyFilter env.helpers env.context name value ⟨[] ++ args, []⟩) state = _
  rw [List.nil_append, hfilter]

end Run

/-- What it means that the templates of an environment can call the helpers listed: a name that
nothing else has is a function, unless the language of templates keeps it for itself, and every name
is a filter. -/
structure Environment.CallsHelpers (env : Environment) : Prop where
  function : ∀ {name : String}, name ∈ env.helpers.names → name ∉ ["loop", "super"] →
    ∀ {state : State}, Run.lookupIn env state.closures name state.frames = none →
      ∀ below escape depth args,
        Run.evaluate env below escape depth (.call name (passed args)) state =
          Run.lift (env.helpers.call env.context name args) state
  filter : ∀ {name : String}, name ∈ env.helpers.names →
    ∀ below escape depth value args state,
      Run.evaluate env below escape depth (.filter (.literal value) name (passed args)) state =
        Run.lift (env.helpers.call env.context name (value :: args)) state

/-- Every environment calls the helpers of its set. -/
theorem Environment.callsHelpers (env : Environment) : env.CallsHelpers where
  function hname hordinary _ hfree _ _ _ args :=
    Run.evaluate_call_helper hfree hordinary (HelperSet.mem_names_iff.mp hname) args
  filter hname _ _ _ value args _ :=
    Run.evaluate_filter_helper (HelperSet.mem_names_iff.mp hname) value args

end Template

/-! ## Agreement -/

/-- What it means that all ways to a helper agree. -/
structure HelperSet.Agrees (helpers : HelperSet) : Prop where
  /-- The standard helpers are listed in their order, and then the names that only the language
  has, in the order of the language. -/
  names_eq : helpers.names = StandardHelper.all.map StandardHelper.name ++
    helpers.own.keys.filter fun name => name ∉ StandardHelper.all.map StandardHelper.name
  nodup_names : helpers.names.Nodup
  mem_names_iff : ∀ name, name ∈ helpers.names ↔ (helpers.lookup? name).isSome
  /-- A helper of the language takes the place of a standard one. -/
  own : ∀ {name helper}, helpers.own.get? name = some helper →
    helpers.lookup? name = some (.own helper)
  /-- A standard helper stays where the language has none. -/
  standard : ∀ {helper : StandardHelper}, helper.name ∉ helpers.own.keys →
    helpers.lookup? helper.name = some (.standard helper)
  /-- Whatever was registered before, a listed name is that of a function and of a filter, both of
  which do what a call of the helper does. -/
  registered : ∀ {name}, name ∈ helpers.names → ∀ registry, ∃ function filter,
    (helpers.register registry).functions.get? name = some function ∧
      (helpers.register registry).filters.get? name = some filter ∧
      ∀ context args, function context args = helpers.call context name args ∧
        filter context args = helpers.call context name args
  /-- No other function or filter is touched. -/
  untouched : ∀ {name}, name ∉ helpers.names → ∀ registry,
    (helpers.register registry).functions.get? name = registry.functions.get? name ∧
      (helpers.register registry).filters.get? name = registry.filters.get? name
  /-- A call of any other name says that there is no such helper. -/
  unknown : ∀ {name}, name ∉ helpers.names → ∀ context args,
    helpers.call context name args = .error (.unknownHelper name)
  /-- The text of that error names what was called. -/
  unknown_message : ∀ {name}, name ∉ helpers.names → ∀ {context args error},
    helpers.call context name args = .error error →
      error.message? = some ("unknown helper \x60" ++ name ++ "\x60")
  /-- The errors of standard helpers have texts exactly where no argument is passed. -/
  worded : ∀ {name helper}, helpers.lookup? name = some (.standard helper) →
    ∀ {context args error}, helpers.call context name args = .error error →
      (error.message?.isSome ↔ args = [])
  /-- Templates call the helpers listed. -/
  called : ∀ env : Template.Environment, env.helpers = helpers → env.CallsHelpers

/-- Whatever helpers a language has, all ways to a helper agree. -/
theorem HelperSet.agrees (helpers : HelperSet) : helpers.Agrees := by
  have hfunctions := get?_foldl_registerName helpers Registry.functions (fun _ _ _ => rfl)
    helpers.names
  have hfilters := get?_foldl_registerName helpers Registry.filters (fun _ _ _ => rfl)
    helpers.names
  have hunknown {name : String} (hname : name ∉ helpers.names) (context : Context)
      (args : List Value) : helpers.call context name args = .error (.unknownHelper name) := by
    have hnone : helpers.lookup? name = none := by simpa [mem_names_iff] using hname
    simp [call, hnone]
  refine ⟨helpers.names_eq, helpers.nodup_names, fun _ => mem_names_iff, lookup?_of_own, ?_, ?_, ?_,
    hunknown, ?_, ?_, ?_⟩
  · intro helper hnone
    rw [lookup?_of_own_eq_none (OrderedMap.get?_eq_none_iff.mpr hnone),
      StandardHelper.ofName?_name, Option.map_some]
  · intro name hname registry
    obtain ⟨found, hfound⟩ := Option.isSome_iff_exists.mp (mem_names_iff.mp hname)
    have hfind : helpers.find? name = some found.function := by rw [find?, hfound, Option.map_some]
    refine ⟨found.function, found.function, ?_, ?_, fun context args => ?_⟩
    · rw [register, hfunctions, if_pos hname, hfind, Option.some_or]
    · rw [register, hfilters, if_pos hname, hfind, Option.some_or]
    · rw [call_eq hfound]
      exact ⟨rfl, rfl⟩
  · intro name hname registry
    rw [register, hfunctions, hfilters, if_neg hname, if_neg hname]
    exact ⟨rfl, rfl⟩
  · intro name hname context args error herror
    rw [hunknown hname] at herror
    obtain rfl : TemplateError.unknownHelper name = error := Except.error.inj herror
    rfl
  · intro name helper hfound context args error herror
    rw [call_eq hfound] at herror
    exact StandardHelper.worded_call herror
  · rintro env rfl
    exact env.callsHelpers

end ClientGen
