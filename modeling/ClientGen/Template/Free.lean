import ClientGen.Template.Statement

/-!
# Free names

The names that the body of a callable refers to without binding them. It takes their values from
where it is defined. What an included template refers to is not among them, nor is the template that
an import names.
-/

namespace ClientGen.Template

mutual

/-- The names that an expression refers to. -/
def Expression.names : Expression → List String
  | .literal _ => []
  | .name name => [name]
  | .list items => namesOfAll items
  | .map entries => namesOfEntries entries
  | .member whole _ => whole.names
  | .item whole place => whole.names ++ place.names
  | .slice whole start stop step => whole.names ++ start.names ++ stop.names ++ step.names
  | .negative operand | .negation operand => operand.names
  | .binary _ left right | .both left right | .either left right => left.names ++ right.names
  | .compare first others => first.names ++ namesOfCompared others
  | .choice condition yes no => condition.names ++ yes.names ++ no.names
  | .call name given => name :: namesOfPassed given
  | .callMember whole _ given | .callValue whole given => whole.names ++ namesOfPassed given
  | .filter input _ given => input.names ++ namesOfPassed given
  | .test subject _ given => subject.names ++ namesOfPassed given

/-- The names that expressions refer to. -/
def namesOfAll : List Expression → List String
  | [] => []
  | item :: rest => item.names ++ namesOfAll rest

/-- The names that the keys and values of a map refer to. -/
def namesOfEntries : List (Expression × Expression) → List String
  | [] => []
  | (key, value) :: rest => key.names ++ value.names ++ namesOfEntries rest

/-- The names that compared expressions refer to. -/
def namesOfCompared : List (Comparison × Expression) → List String
  | [] => []
  | (_, operand) :: rest => operand.names ++ namesOfCompared rest

/-- The names that arguments refer to. -/
def namesOfPassed : List (Passing × Expression) → List String
  | [] => []
  | (_, value) :: rest => value.names ++ namesOfPassed rest

end

mutual

/-- The names that a target binds. -/
def Target.names : Target → List String
  | .name name => [name]
  | .items targets => namesOfTargets targets
  | .member _ _ => []

/-- The names that targets bind. -/
def namesOfTargets : List Target → List String
  | [] => []
  | target :: rest => target.names ++ namesOfTargets rest

end

/-- The names that are bound at some place, and those that are free before it. -/
structure Names where
  bound : List String
  free : List String

namespace Names

/-- The names after some have been bound. -/
def bind (names : Names) (more : List String) : Names :=
  { names with bound := more ++ names.bound }

/-- The names after some have been referred to. -/
def refer (names : Names) (more : List String) : Names :=
  { names with free := names.free ++ more.filter fun name => !names.bound.contains name }

/-- The names after a part of which only the free ones count. -/
def afterInner (names inner : Names) : Names :=
  { names with free := inner.free }

end Names

/-- The names that the parameters of a callable refer to for when they are not given. -/
def defaultNames (parameters : List (String × Option Expression)) : List String :=
  (parameters.filterMap Prod.snd).flatMap Expression.names

mutual

/-- The names after a statement. What branches and loops bind is bound inside of them only. -/
def Names.afterStatement (names : Names) : Statement → Names
  | .content _ | .includeFirst _ _ => names
  | .output value => names.refer value.names
  | .branch condition yes no =>
    let names := names.refer condition.names
    let names := names.afterInner (names.afterAll yes)
    names.afterInner (names.afterAll no)
  | .loop target source condition body otherwise =>
    let inner := (names.bind ["loop"]).refer source.names
    let inner := (inner.bind target.names).refer ((condition.map Expression.names).getD [])
    let names := names.afterInner (inner.afterAll body)
    names.afterInner (names.afterAll otherwise)
  | .assign target value => (names.bind target.names).refer value.names
  | .capture target _ body =>
    let names := names.bind target.names
    names.afterInner (names.afterAll body)
  | .importAll _ name => names.bind [name]
  | .importSome _ imported => names.bind (imported.map Prod.snd)
  | .callable name parameters body =>
    let names := names.bind (name :: parameters.map Prod.fst)
    (names.refer (defaultNames parameters)).afterAll body

/-- The names after statements. -/
def Names.afterAll (names : Names) : List Statement → Names
  | [] => names
  | statement :: rest => (names.afterStatement statement).afterAll rest

end

/-- The free names of a callable. -/
def freeNames (parameters : List (String × Option Expression)) (body : List Statement) :
    List String :=
  let names : Names := ⟨parameters.map Prod.fst, []⟩
  ((names.refer (defaultNames parameters)).afterAll body).free

end ClientGen.Template
