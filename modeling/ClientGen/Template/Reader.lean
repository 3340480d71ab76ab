import ClientGen.Template.Statement
import ClientGen.Template.Token

/-!
# Reading templates

The statements that the tokens of a template make up. Filters and tests bind closer than operators;
of these, powers bind closest, then products, the joining of texts, sums, comparisons, and `not`,
`and` and `or`; a choice with `if` and `else` is loosest. Statements, expressions and operands may
be nested in each other only so deeply.

The functions recurse on fuel; `parse` supplies more than the number of tokens can use up.
-/

namespace ClientGen.Template

/-- A step of reading at a depth of nesting, on the tokens that are left. -/
abbrev Reader := ReaderT Nat (StateT (List Token) (Except TemplateError))

namespace Reader

/-- The next token, unless it cannot be scanned. -/
def peek : Reader (Option Token) := do
  match (← get).head? with
  | some (.fault error) => throw error
  | token => return token

/-- The greatest depth of nesting. -/
def depthLimit : Nat := 150

/-- Reads one level deeper. -/
def nested {α : Type} (step : Reader α) : Reader α := fun depth =>
  if depth < depthLimit then step (depth + 1) else throw .malformed

/-- Passes the next token. -/
def advance : Reader Unit :=
  modify (List.drop 1)

/-- Passes the next token, if it is the one given. -/
def accept (token : Token) : Reader Bool := do
  if (← peek) = some token then
    advance
    return true
  else return false

/-- Passes the next token, which must be the one given. -/
def expect (token : Token) : Reader Unit := do
  unless ← accept token do throw .malformed

/-- Passes a name or keyword. -/
def expectWord : Reader String := do
  match ← peek with
  | some (.word name) =>
    advance
    return name
  | _ => throw .malformed

/-- Whether the next token is among those given. -/
def isAt (tokens : List Token) : Reader Bool := do
  match ← peek with
  | some token => return tokens.contains token
  | none => return false

/-- Passes the texts that come next, and gives them as one. A text that cannot be scanned makes the
template malformed here. -/
def acceptTexts : Reader String := do
  let tokens ← get
  let texts := tokens.takeWhile Token.isText
  let rest := tokens.dropWhile Token.isText
  if rest.head?.any Token.isFault then throw .malformed
  else
    set rest
    return String.join (texts.filterMap Token.text?)

end Reader

open Reader (nested peek advance accept expect expectWord isAt acceptTexts)

/-- The names that cannot be bound. -/
def reservedNames : List String := [
  "true", "True", "false", "False", "none", "None", "loop", "self"]

/-- Reads a name that is to be bound. -/
def readBound : Reader String := do
  let name ← expectWord
  if reservedNames.contains name then throw .malformed else return name

/-- Passes a remark on whether the names of the context are visible, which they always are. -/
def skipContextRemark : Reader Bool := do
  let isRemark ← if ← accept (.word "with") then pure true else accept (.word "without")
  if isRemark then expect (.word "context")
  return isRemark

/-- The value of a keyword. -/
def keywordValue? : String → Option Value
  | "true" | "True" => some (.flag true)
  | "false" | "False" => some (.flag false)
  | "none" | "None" => some .none
  | _ => none

/-- The levels of operators, the loosest first. -/
inductive Level where
  | disjunction
  | conjunction
  | negation
  | comparison
  | sum
  | concatenation
  | product
  | power
  | unary

/-- The level of the operands of a level. -/
def Level.next : Level → Level
  | .disjunction => .conjunction
  | .conjunction => .negation
  | .negation => .comparison
  | .comparison => .sum
  | .sum => .concatenation
  | .concatenation => .product
  | .product => .power
  | .power | .unary => .unary

/-- The operator of a level that a token stands for. -/
def Level.operator? (level : Level) (token : Token) :
    Option (Expression → Expression → Expression) :=
  match level, token with
  | .disjunction, .word "or" => some .either
  | .conjunction, .word "and" => some .both
  | .sum, .sign "+" => some (.binary .add)
  | .sum, .sign "-" => some (.binary .subtract)
  | .concatenation, .sign "~" => some (.binary .concatenate)
  | .product, .sign "*" => some (.binary .multiply)
  | .product, .sign "/" => some (.binary .divide)
  | .product, .sign "//" => some (.binary .divideWhole)
  | .product, .sign "%" => some (.binary .remainder)
  | .power, .sign "**" => some (.binary .power)
  | _, _ => none

/-- Reads the operator of a level, if the next token is one. -/
def readOperator? (level : Level) : Reader (Option (Expression → Expression → Expression)) := do
  match (← peek).bind level.operator? with
  | some operator =>
    advance
    return some operator
  | none => return none

/-- The comparison that a token stands for. -/
def comparison? : Token → Option Comparison
  | .sign "==" => some .equal
  | .sign "!=" => some .unequal
  | .sign "<" => some .less
  | .sign "<=" => some .lessOrEqual
  | .sign ">" => some .greater
  | .sign ">=" => some .greaterOrEqual
  | .word "in" => some .isIn
  | _ => none

/-- Reads a comparison, if the next token starts one. -/
def readComparison? : Reader (Option Comparison) := do
  if ← accept (.word "not") then
    expect (.word "in")
    return some .isNotIn
  else
    match (← peek).bind comparison? with
    | some comparison =>
      advance
      return some comparison
    | none => return none

/-- The greatest number of arguments of a call. -/
def argumentLimit : Nat := 2000

/-- Whether a token starts the argument of a test that is not in brackets. -/
def startsArgument : Token → Bool
  | .word name => !(["and", "or", "else", "is"].contains name)
  | .text _ | .int _ | .real _ => true
  | .sign s => ["+", "-", "[", "\x7b"].contains s
  | _ => false

mutual

/-- Reads an expression, which is one level deeper. -/
def readExpression : Nat → Reader Expression
  | 0 => throw .malformed
  | fuel + 1 => nested (readChoice fuel)

/-- Reads an expression that may be a choice. -/
def readChoice : Nat → Reader Expression
  | 0 => throw .malformed
  | fuel + 1 => do
    let first ← readLevel fuel .disjunction
    readChoices fuel first

/-- Reads the choices after an expression. -/
def readChoices : Nat → Expression → Reader Expression
  | 0, _ => throw .malformed
  | fuel + 1, yes => do
    if ← accept (.word "if") then
      let condition ← readLevel fuel .disjunction
      let no ← if ← accept (.word "else") then readChoice fuel else pure (.literal .undefined)
      readChoices fuel (.choice condition yes no)
    else return yes

/-- Reads an expression of a level. -/
def readLevel : Nat → Level → Reader Expression
  | 0, _ => throw .malformed
  | fuel + 1, level => do
    match level with
    | .negation =>
      if ← accept (.word "not") then return .negation (← readLevel fuel .negation)
      else readLevel fuel .comparison
    | .comparison =>
      let first ← readLevel fuel .sum
      match ← readCompared fuel with
      | [] => return first
      | others => return .compare first others
    | .unary =>
      let operand ← readSigned fuel
      let whole ← readSuffixes fuel operand
      readFilters fuel whole
    | level =>
      let left ← readLevel fuel level.next
      readOperands fuel level left

/-- Reads the operators of a level after an operand, with their second operands. -/
def readOperands : Nat → Level → Expression → Reader Expression
  | 0, _, _ => throw .malformed
  | fuel + 1, level, left => do
    match ← readOperator? level with
    | some operator =>
      let right ← readLevel fuel level.next
      readOperands fuel level (operator left right)
    | none => return left

/-- Reads the comparisons after an operand, with what is compared. -/
def readCompared : Nat → Reader (List (Comparison × Expression))
  | 0 => throw .malformed
  | fuel + 1 => do
    match ← readComparison? with
    | some comparison =>
      let operand ← readLevel fuel .sum
      return (comparison, operand) :: (← readCompared fuel)
    | none => return []

/-- Reads an operand with the minus signs in front of it. -/
def readSigned : Nat → Reader Expression
  | 0 => throw .malformed
  | fuel + 1 => do
    if ← accept (.sign "-") then return .negative (← readSigned fuel)
    else nested (readPrimary fuel)

/-- Reads a name, a literal or an expression in brackets. Texts in a row are one text. -/
def readPrimary : Nat → Reader Expression
  | 0 => throw .malformed
  | fuel + 1 => do
    match ← peek with
    | some (.word name) =>
      advance
      match keywordValue? name with
      | some value => return .literal value
      | none => return .name name
    | some (.text _) => return .literal (.text (← acceptTexts))
    | some (.int value) =>
      advance
      return .literal (.ofNat value)
    | some (.real value) =>
      advance
      return .literal (.real value)
    | some (.sign "(") =>
      advance
      if ← accept (.sign ")") then return .list []
      else
        let first ← readExpression fuel
        if ← accept (.sign ",") then
          return .list (first :: (← readItems fuel (.sign ")") true))
        else
          expect (.sign ")")
          return first
    | some (.sign "[") =>
      advance
      return .list (← readItems fuel (.sign "]") true)
    | some (.sign "\x7b") =>
      advance
      return .map (← readEntries fuel true)
    | _ => throw .malformed

/-- Reads the items of a list up to its end. A comma may stand before the end. -/
def readItems : Nat → Token → Bool → Reader (List Expression)
  | 0, _, _ => throw .malformed
  | fuel + 1, close, isFirst => do
    if ← accept close then return []
    else
      unless isFirst do expect (.sign ",")
      if ← accept close then return []
      else
        let item ← readExpression fuel
        return item :: (← readItems fuel close false)

/-- Reads the entries of a map up to its end. A comma may stand before the end. -/
def readEntries : Nat → Bool → Reader (List (Expression × Expression))
  | 0, _ => throw .malformed
  | fuel + 1, isFirst => do
    if ← accept (.sign "\x7d") then return []
    else
      unless isFirst do expect (.sign ",")
      if ← accept (.sign "\x7d") then return []
      else
        let key ← readExpression fuel
        expect (.sign ":")
        let value ← readExpression fuel
        return (key, value) :: (← readEntries fuel false)

/-- Reads the members, items, slices and calls after an operand. -/
def readSuffixes : Nat → Expression → Reader Expression
  | 0, _ => throw .malformed
  | fuel + 1, whole => do
    if ← accept (.sign ".") then
      match ← peek with
      | some (.int place) =>
        advance
        readSuffixes fuel (.item whole (.literal (.ofNat place)))
      | _ =>
        let name ← expectWord
        if ← accept (.sign "(") then
          readSuffixes fuel (.callMember whole name (← readArguments fuel))
        else readSuffixes fuel (.member whole name)
    else if ← accept (.sign "[") then
      let start ← readPlace fuel [.sign ":"]
      if ← accept (.sign ":") then
        let stop ← readPlace fuel [.sign ":", .sign "]"]
        let step ←
          if ← accept (.sign ":") then readPlace fuel [.sign "]"] else pure (.literal .none)
        expect (.sign "]")
        readSuffixes fuel (.slice whole start stop step)
      else
        expect (.sign "]")
        readSuffixes fuel (.item whole start)
    else if ← accept (.sign "(") then
      let given ← readArguments fuel
      match whole with
      | .name name => readSuffixes fuel (.call name given)
      | whole => readSuffixes fuel (.callValue whole given)
    else return whole

/-- Reads a place in a slice, which is left out before some tokens. -/
def readPlace : Nat → List Token → Reader Expression
  | 0, _ => throw .malformed
  | fuel + 1, ends => do
    if ← isAt ends then return .literal .none else readExpression fuel

/-- Reads the arguments of a call up to its end, of which there may be only so many. -/
def readArguments : Nat → Reader (List (Passing × Expression))
  | 0 => throw .malformed
  | fuel + 1 => do
    let given ← readPassed fuel true false
    if given.length ≤ argumentLimit then return given else throw .malformed

/-- Reads arguments up to the end of a call. After one with a name, all have names. -/
def readPassed : Nat → Bool → Bool → Reader (List (Passing × Expression))
  | 0, _, _ => throw .malformed
  | fuel + 1, isFirst, mustBeNamed => do
    if ← accept (.sign ")") then return []
    else
      unless isFirst do expect (.sign ",")
      if ← accept (.sign ")") then return []
      else if ← accept (.sign "**") then
        let value ← readExpression fuel
        return (.entries, value) :: (← readPassed fuel false true)
      else if ← accept (.sign "*") then
        let value ← readExpression fuel
        return (.items, value) :: (← readPassed fuel false mustBeNamed)
      else
        let value ← readExpression fuel
        match value, ← accept (.sign "=") with
        | .name name, true =>
          let named ← readLevel fuel .disjunction
          return (.byName name, named) :: (← readPassed fuel false true)
        | _, true => throw .malformed
        | value, false =>
          if mustBeNamed then throw .malformed
          else return (.inOrder, value) :: (← readPassed fuel false false)

/-- Reads the filters and tests after an operand. -/
def readFilters : Nat → Expression → Reader Expression
  | 0, _ => throw .malformed
  | fuel + 1, input => do
    if ← accept (.sign "|") then
      let application ← readApplication fuel
      readFilters fuel (.filter input application.name application.given)
    else if ← accept (.word "is") then
      let isNegated ← accept (.word "not")
      let name ← readDotted fuel
      let given ←
        if ← accept (.sign "(") then readArguments fuel
        else
          match ← peek with
          | some token =>
            if startsArgument token then
              let operand ← readSigned fuel
              pure [(.inOrder, ← readSuffixes fuel operand)]
            else pure []
          | none => pure []
      let test := Expression.test input name given
      readFilters fuel (if isNegated then .negation test else test)
    else return input

/-- Reads the name of a filter and its arguments. -/
def readApplication : Nat → Reader Application
  | 0 => throw .malformed
  | fuel + 1 => do
    let name ← readDotted fuel
    let given ← if ← accept (.sign "(") then readArguments fuel else pure []
    return ⟨name, given⟩

/-- Reads a name that may have points in it. -/
def readDotted : Nat → Reader String
  | 0 => throw .malformed
  | fuel + 1 => do
    let name ← expectWord
    if ← accept (.sign ".") then return name ++ "." ++ (← readDotted fuel) else return name

end

/-- Reads the filters between what a name is set to and the block that it stands for. -/
def readApplications : Nat → Reader (List Application)
  | 0 => throw .malformed
  | fuel + 1 => do
    let application ← readApplication fuel
    if ← accept (.sign "|") then return application :: (← readApplications fuel)
    else return [application]

/-- Reads the expressions after commas, up to the end of a block. -/
def readFurther : Nat → Reader (List Expression)
  | 0 => throw .malformed
  | fuel + 1 => do
    if ← accept (.sign ",") then
      if ← isAt [.blockEnd] then return []
      else
        let item ← readExpression fuel
        return item :: (← readFurther fuel)
    else return []

/-- Reads a value that is assigned: an expression, or a list without brackets. -/
def readAssigned (fuel : Nat) : Reader Expression := do
  let first ← readExpression fuel
  if ← isAt [.sign ","] then return .list (first :: (← readFurther fuel)) else return first

/-- Reads the members of a value, the last one of which is a target. -/
def readMemberTarget : Nat → Expression → Reader Target
  | 0, _ => throw .malformed
  | fuel + 1, whole => do
    let name ← expectWord
    if ← accept (.sign ".") then readMemberTarget fuel (.member whole name)
    else return .member whole name

/-- The tokens before which a target ends. -/
def targetEnds : List Token := [.sign ")", .outputEnd, .blockEnd, .word "in"]

mutual

/-- Reads what values are bound to: one name, or several with commas between them. -/
def readTarget : Nat → Reader Target
  | 0 => throw .malformed
  | fuel + 1 => do
    let (targets, isMany) ← readTargets fuel true
    match targets, isMany with
    | [target], false => return target
    | targets, _ => return .items targets

/-- Reads targets with commas between them, and says whether there is a comma. -/
def readTargets : Nat → Bool → Reader (List Target × Bool)
  | 0, _ => throw .malformed
  | fuel + 1, isFirst => do
    unless isFirst do expect (.sign ",")
    if ← isAt targetEnds then return ([], !isFirst)
    else
      let target ←
        if ← accept (.sign "(") then
          let inner ← readTarget fuel
          expect (.sign ")")
          pure inner
        else pure (.name (← readBound))
      if ← isAt [.sign ","] then
        let (rest, _) ← readTargets fuel false
        return (target :: rest, true)
      else return ([target], !isFirst)

end

/-- Reads what a value is assigned to. -/
def readAssignee (fuel : Nat) : Reader Target := do
  if ← accept (.sign "(") then
    let target ← readTarget fuel
    expect (.sign ")")
    return target
  else
    let name ← readBound
    if ← accept (.sign ".") then readMemberTarget fuel (.name name)
    else if ← isAt [.sign ","] then
      let (others, _) ← readTargets fuel false
      return .items (.name name :: others)
    else return .name name

/-- Reads the parameters of a callable up to their end. After a parameter with a default, all have
one. -/
def readParameters : Nat → Bool → Bool → Reader (List (String × Option Expression))
  | 0, _, _ => throw .malformed
  | fuel + 1, isFirst, mustHaveDefault => do
    if ← accept (.sign ")") then return []
    else
      unless isFirst do expect (.sign ",")
      if ← accept (.sign ")") then return []
      else
        let name ← readBound
        if ← accept (.sign "=") then
          let value ← readExpression fuel
          return (name, some value) :: (← readParameters fuel false true)
        else if mustHaveDefault then throw .malformed
        else return (name, none) :: (← readParameters fuel false false)

/-- Reads the names that an import binds, each with the name it has in the template. -/
def readImported : Nat → Bool → Reader (List (String × String))
  | 0, _ => throw .malformed
  | fuel + 1, isFirst => do
    if (← skipContextRemark) || (← isAt [.blockEnd]) then return []
    else
      unless isFirst do expect (.sign ",")
      if (← skipContextRemark) || (← isAt [.blockEnd]) then return []
      else
        let name ← readBound
        let bound ← if ← accept (.word "as") then readBound else pure name
        return (name, bound) :: (← readImported fuel false)

mutual

/-- Reads statements up to a block that starts with one of the words given, or to the end. -/
def readBody : Nat → List String → Reader (List Statement)
  | 0, _ => throw .malformed
  | fuel + 1, stops => do
    match ← peek with
    | none => return []
    | some (.content text) =>
      advance
      return .content text :: (← readBody fuel stops)
    | some .outputStart =>
      advance
      let value ← readExpression fuel
      expect .outputEnd
      return .output value :: (← readBody fuel stops)
    | some .blockStart =>
      advance
      if ← isAt (stops.map .word) then return []
      else
        let statement ← nested (readStatement fuel)
        expect .blockEnd
        return statement :: (← readBody fuel stops)
    | some _ => throw .malformed

/-- Reads the body of a block and the word that ends it. -/
def readBlock : Nat → String → Reader (List Statement)
  | 0, _ => throw .malformed
  | fuel + 1, stop => do
    expect .blockEnd
    let body ← readBody fuel [stop]
    advance
    return body

/-- Reads a statement from its keyword on, up to the end of its last block. -/
def readStatement : Nat → Reader Statement
  | 0 => throw .malformed
  | fuel + 1 => do
    match ← expectWord with
    | "if" => readBranch fuel
    | "for" =>
      let target ← readTarget fuel
      expect (.word "in")
      let source ← readLevel fuel .disjunction
      let condition ←
        if ← accept (.word "if") then some <$> readExpression fuel else pure none
      expect .blockEnd
      let body ← readBody fuel ["endfor", "else"]
      let otherwise ← if ← accept (.word "else") then readBlock fuel "endfor" else do
        advance
        pure []
      return .loop target source condition body otherwise
    | "set" =>
      let isBracketed ← isAt [.sign "("]
      let target ← readAssignee fuel
      if !isBracketed && (← isAt [.blockEnd, .sign "|"]) then
        let filters ← if ← accept (.sign "|") then readApplications fuel else pure []
        return .capture target filters (← readBlock fuel "endset")
      else
        expect (.sign "=")
        return .assign target (← readAssigned fuel)
    | "include" =>
      let names ← readExpression fuel
      let _ ← skipContextRemark
      if ← accept (.word "ignore") then
        expect (.word "missing")
        let _ ← skipContextRemark
        return .includeFirst names true
      else return .includeFirst names false
    | "import" =>
      let template ← readExpression fuel
      expect (.word "as")
      let name ← readBound
      let _ ← skipContextRemark
      return .importAll template name
    | "from" =>
      let template ← readExpression fuel
      expect (.word "import")
      return .importSome template (← readImported fuel true)
    | "macro" =>
      let name ← expectWord
      expect (.sign "(")
      let parameters ← readParameters fuel true false
      return .callable name parameters (← readBlock fuel "endmacro")
    | _ => throw .malformed

/-- Reads a branch from its condition on. -/
def readBranch : Nat → Reader Statement
  | 0 => throw .malformed
  | fuel + 1 => do
    let condition ← readLevel fuel .disjunction
    expect .blockEnd
    let yes ← readBody fuel ["endif", "else", "elif"]
    if ← accept (.word "else") then
      return .branch condition yes (← readBlock fuel "endif")
    else if ← accept (.word "elif") then
      return .branch condition yes [← readBranch fuel]
    else
      advance
      return .branch condition yes []

end

/-- The statements of a template. -/
def parse (template : String) : Except TemplateError (List Statement) := do
  let tokens := Token.scan template
  let (statements, _) ← (readBody (24 * tokens.length + 24) [] 0).run tokens
  return statements

end ClientGen.Template
