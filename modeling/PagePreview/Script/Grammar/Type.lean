import PagePreview.Script.Grammar.Pattern

/-! Types. -/

namespace PagePreview.Script.Grammar

def dottedName : Rule Expr := do
  let first ← token
  let name ← if first.kind == .word && first.text == "this" then do advance; pure Expr.this
    else pure (.identifier (← anyWord))
  let rec go : Nat → Expr → Rule Expr
    | 0, e => return e
    | fuel + 1, e => do
      if ← eat "." then go fuel (.member e false (← anyWord)) else return e
  go (← get).fuel name

def splitLess : Rule Unit := do
  if ← at_ "<<" then setToken (Lexer.asLess (← token))

def typeArguments? (self : Meet) : Rule (Option (List TypeNode)) := do
  if !(← dialect).types then return none
  splitLess
  if ← at_ "<" then
    advance
    let types ← within ({ · with allowsConditionalType := true }) (delimited ">" "," (self .type))
    expect ">"
    return some types
  else return none

def typeArgumentsOnLine (self : Meet) : Rule (List TypeNode) := do
  if onSameLine (← token) then return (← typeArguments? self).getD [] else return []

def typeParamWords : List String := ["const", "in", "out"]

def typeParameter (self : Meet) : Rule TypeNode := do
  let words ← many do
    let t ← token
    let next ← following
    if typeParamWords.any (Token.spells t) && next.kind == .word && next.text != "extends" then
      advance
      return some t.text
    else return none
  let name ← bindingName
  let constraint ← if ← eat "extends" then some <$> self .type else pure none
  let fallback ← if ← eat "=" then some <$> self .type else pure none
  return .typeParam name constraint fallback words

def typeParameters (self : Meet) : Rule (List TypeNode) := do
  if (← dialect).types && (← at_ "<") then
    advance
    let params ← delimited ">" "," (typeParameter self)
    if params.isEmpty then complain "Type parameter list cannot be empty."
    expect ">"
    return params
  else return []

def resultType (self : Meet) : Rule TypeNode := do
  let t ← token
  let next ← following
  if Token.spells t "asserts" && next.kind == .word && onSameLine next && next.text != "is" then
    advance
    let name ← anyWord
    let type ← if ← eat "is" then some <$> self .type else pure none
    return .predicate true name type
  if t.kind == .word && (isName t || t.text == "this") && Token.spells next "is" && onSameLine next then
    advance
    advance
    return .predicate false t.text (some (← self .type))
  self .type

def resultAnnotation? (self : Meet) : Rule (Option TypeNode) := do
  if (← dialect).types && (← at_ ":") then
    advance
    return some (← resultType self)
  else return none

def skipParameterStart (self : Meet) : Rule Bool := do
  let _ ← parameterModifiers
  let t ← token
  if isName t || (t.kind == .word && t.text == "this") then do advance; return true
  if Token.spells t "[" || Token.spells t "\x7b" then
    let _ ← self .pattern
    return true
  return false

def startsFunctionType (self : Meet) : Rule Bool := do
  if ← at_ "<" then return true
  if !(← at_ "(") then return false
  foresee do
    advance
    if ← atAny [")", "..."] then return true
    if ← skipParameterStart self then
      if ← atAny [":", ",", "?", "="] then return true
      if ← eat ")" then return ← at_ "=>"
    return false

def functionType (self : Meet) : Rule TypeNode := do
  let typeParams ← typeParameters self
  let params ← parameters self
  expect "=>"
  return .function typeParams params (← resultType self)

def constructorType (self : Meet) : Rule TypeNode := do
  let isAbstract ← eat "abstract"
  expect "new"
  let typeParams ← typeParameters self
  let params ← parameters self
  expect "=>"
  return .constructor isAbstract typeParams params (← resultType self)

def memberEnd : Rule Unit := do
  if ← atAny [",", ";"] then advance
  else if !(← canEndStatement) then
    giveUp "Expected a semicolon or an implicit semicolon after a statement, but found none"

def startsIndexSignature : Rule Bool :=
  foresee do
    if !(← eat "[") then return false
    if !(← atName) then return false
    advance
    return ← at_ ":"

def indexSignature (self : Meet) (isReadonly isStatic : Bool) : Rule TypeNode := do
  expect "["
  let name ← bindingName
  expect ":"
  let key ← self .type
  expect "]"
  let type ← (typeAnnotation? self)
  return .index name key (type.getD (.word "any")) isReadonly isStatic

def modifiesMember (word : String) : Rule Bool := do
  if !(← at_ word) then return false
  let next ← following
  return next.kind == .word || next.kind == .string || next.kind == .number ||
    next.kind == .privateName || Token.spells next "["

def signature (self : Meet) : Rule (List TypeNode × List Expr × Option TypeNode) := do
  let typeParams ← typeParameters self
  let params ← parameters self
  return (typeParams, params, ← resultAnnotation? self)

def typeMember (self : Meet) : Rule TypeNode := do
  let comments := (← token).comments
  let next ← following
  let member ← do
    if ← atAny ["(", "<"] then
      let (typeParams, params, result) ← signature self
      pure (TypeNode.call typeParams params result)
    else if (← at_ "new") && (Token.spells next "(" || Token.spells next "<") then
      advance
      let (typeParams, params, result) ← signature self
      pure (TypeNode.construct typeParams params result)
    else
      let isReadonly ← modifiesMember "readonly"
      if isReadonly then advance
      if ← startsIndexSignature then indexSignature self isReadonly false
      else
        let kind : MethodKind ←
          if ← modifiesMember "get" then do advance; pure .getter
          else if ← modifiesMember "set" then do advance; pure .setter
          else pure .plain
        let (key, isComputed) ← propertyKey self
        let isOptional ← eat "?"
        if ← atAny ["(", "<"] then
          let (typeParams, params, result) ← signature self
          pure (.method kind key isComputed isOptional typeParams params result)
        else
          let type ← typeAnnotation? self
          pure (.property key isComputed isOptional isReadonly type)
  memberEnd
  return if comments.isEmpty then member else .commented comments member

def typeMembers (self : Meet) : Rule (List TypeNode) := do
  expect "\x7b"
  let members ← within ({ · with allowsConditionalType := true }) <| many do
    let t ← token
    if Token.spells t "\x7d" || t.kind == .eof then return none
    return some (← typeMember self)
  expect "\x7d"
  return members

def startsMappedType : Rule Bool :=
  foresee do
    if !(← eat "\x7b") then return false
    if ← atAny ["+", "-"] then do advance; return ← at_ "readonly"
    let _ ← eat "readonly"
    if !(← eat "[") then return false
    if !(← atName) then return false
    advance
    return ← at_ "in"

def mappedMark (word : String) : Rule String := do
  if ← eat "+" then do expect word; return "+"
  else if ← eat "-" then do expect word; return "-"
  else if ← eat word then return "true"
  else return ""

def mappedType (self : Meet) : Rule TypeNode := do
  expect "\x7b"
  let readonlyMark ← mappedMark "readonly"
  expect "["
  let name ← bindingName
  expect "in"
  let keys ← self .type
  let rename ← if ← eat "as" then some <$> self .type else pure none
  expect "]"
  let optionalMark ← mappedMark "?"
  let type ← typeAnnotation? self
  let _ ← eat ";"
  let _ ← eat ","
  expect "\x7d"
  return .mapped name keys rename optionalMark readonlyMark type

def wordTypes : List String := [
  "any", "unknown", "string", "number", "bigint", "symbol", "boolean", "undefined", "never",
  "object", "null", "void", "intrinsic"]

def tupleElement (self : Meet) : Rule TypeNode := do
  let isRest ← eat "..."
  let label ← lookahead do
    let t ← token
    if t.kind != .word then return none
    advance
    let isOptional ← eat "?"
    if ← at_ ":" then return some (t.text, isOptional) else return none
  match label with
  | some (name, isOptional) => do
    advance
    let _ ← eat "?"
    advance
    let type := TypeNode.named name isOptional (← self .type)
    return if isRest then .rest type else type
  | none =>
    let type ← self .type
    if isRest then return .rest type
    else if ← eat "?" then return .optional type
    else return type

def negativeLiteral (t : Token) : Expr :=
  .unary .minus (if t.kind == .bigint then .bigint t.natural else .number t.number t.text)

def importType (self : Meet) : Rule TypeNode := do
  expect "import"
  expect "("
  let argument ← self (.assignment true)
  let options ← if (← eat ",") && !(← at_ ")") then some <$> self (.assignment true) else pure none
  let _ ← eat ","
  expect ")"
  let qualifier ← if ← eat "." then some <$> dottedName else pure none
  return .importType argument options qualifier (← typeArgumentsOnLine self)

def typeQuery (self : Meet) : Rule TypeNode := do
  expect "typeof"
  if ← at_ "import" then return .operator "typeof" (← importType self)
  let name ← dottedName
  return .query name (← typeArgumentsOnLine self)

def simpleType (self : Meet) : Rule TypeNode := do
  let t ← token
  match t.kind with
  | .string => do advance; return .literal (stringLiteral t)
  | .number => do advance; return .literal (.number t.number t.text)
  | .bigint => do advance; return .literal (.bigint t.natural)
  | .template => do
    let (quasis, types) ← templateParts false (self .type)
    return .template quasis types
  | .mark =>
    if t.text == "-" then
      advance
      let t ← token
      if t.kind == .number || t.kind == .bigint then do advance; return .literal (negativeLiteral t)
      else unexpected
    else if t.text == "\x7b" then
      if ← startsMappedType then mappedType self else return .object (← typeMembers self)
    else if t.text == "[" then
      advance
      let elements ← within ({ · with allowsConditionalType := true })
        (delimited "]" "," (tupleElement self))
      expect "]"
      return .tuple elements
    else if t.text == "(" then
      advance
      let type ← within ({ · with allowsConditionalType := true }) (self .type)
      expect ")"
      return .paren type
    else unexpected
  | .word =>
    let next ← following
    let isDotted := Token.spells next "."
    if t.text == "this" then do advance; return .word "this"
    else if t.text == "true" || t.text == "false" then do
      advance
      return .literal (.bool (t.text == "true"))
    else if t.text == "typeof" then typeQuery self
    else if t.text == "import" then importType self
    else if wordTypes.contains t.text && !isDotted && !t.escaped then do advance; return .word t.text
    else if t.text == "asserts" && next.kind == .word && onSameLine next then resultType self
    else if isName t then
      let name ← dottedName
      return .reference name (← typeArgumentsOnLine self)
    else unexpected
  | _ => unexpected

def postfixType (self : Meet) : Rule TypeNode := do
  let rec go : Nat → TypeNode → Rule TypeNode
    | 0, type => return type
    | fuel + 1, type => do
      let t ← token
      if Token.spells t "[" && onSameLine t then
        advance
        if ← eat "]" then go fuel (.array type)
        else
          let index ← within ({ · with allowsConditionalType := true }) (self .type)
          expect "]"
          go fuel (.indexed type index)
      else return type
  go (← get).fuel (← simpleType self)

def inferConstraint? (self : Meet) : Rule (Option TypeNode) := do
  if !(← at_ "extends") then return none
  let allowed := (← context).allowsConditionalType
  attempt do
    advance
    let type ← within ({ · with allowsConditionalType := false }) (self .type)
    if allowed && (← at_ "?") then return none
    return some type

def operatorWords : List String := ["keyof", "unique", "readonly"]

def operatorType (self : Meet) : Rule TypeNode := do
  let rec go : Nat → Rule TypeNode
    | 0 => unexpected
    | fuel + 1 => do
      let t ← token
      let next ← following
      let isAlone := Token.spells next "," || Token.spells next ">" || Token.spells next ")" ||
        Token.spells next ";" || Token.spells next "=" || Token.spells next "|" ||
        Token.spells next "&" || Token.spells next "]" || next.kind == .eof
      if operatorWords.any (Token.spells t) && !isAlone then
        advance
        return .operator t.text (← go fuel)
      else if Token.spells t "infer" && isName next then
        advance
        let name ← bindingName
        return .infer name (← inferConstraint? self)
      else postfixType self
  go (← get).fuel

def joinedTypes (mark : String) (join : List TypeNode → TypeNode) (m : Rule TypeNode) :
    Rule TypeNode := do
  let leads ← eat mark
  let first ← m
  if !leads && !(← at_ mark) then return first
  let rest ← many do if ← eat mark then return some (← m) else return none
  match rest with
  | [] => return first
  | _ => return join (first :: rest)

def functionOrConstructor? (self : Meet) : Rule (Option TypeNode) := do
  if ← startsFunctionType self then return some (← functionType self)
  let t ← token
  let next ← following
  if Token.spells t "new" || (Token.spells t "abstract" && Token.spells next "new") then
    return some (← constructorType self)
  return none

def unionType (self : Meet) : Rule TypeNode :=
  let member : Rule TypeNode := do
    match ← functionOrConstructor? self with
    | some type => return type
    | none => operatorType self
  joinedTypes "|" .union (joinedTypes "&" .intersection member)

def type (self : Meet) : Rule TypeNode := do
  if let some type ← functionOrConstructor? self then return type
  let check ← unionType self
  let t ← token
  if (← context).allowsConditionalType && Token.spells t "extends" && onSameLine t then
    advance
    let extend ← within ({ · with allowsConditionalType := false }) (self .type)
    expect "?"
    let yes ← within ({ · with allowsConditionalType := true }) (self .type)
    expect ":"
    let no ← within ({ · with allowsConditionalType := true }) (self .type)
    return .conditional check extend yes no
  else return check

def startsExpression (t : Token) : Bool :=
  match t.kind with
  | .word => !(["in", "instanceof", "of", "as", "satisfies", "extends", "implements", "else", "case",
      "default", "catch", "finally", "while"].contains t.text) &&
      (isName t || ["this", "super", "null", "true", "false", "function", "class", "new", "typeof",
        "void", "delete", "import"].contains t.text)
  | .number | .bigint | .string | .template | .regex | .privateName => true
  | .mark => ["(", "[", "\x7b", "+", "-", "~", "!", "++", "--", "<", "/", "/=", "@"].contains t.text
  | _ => false

def binaryMarks : List String := [
  "==", "!=", "===", "!==", "<", "<=", ">", ">=", "<<", ">>", ">>>", "+", "-", "*", "/", "%", "**",
  "|", "^", "&", "&&", "||", "??"]

def isBinaryOperator (t : Token) : Bool :=
  match t.kind with
  | .mark => binaryMarks.contains t.text
  | .word => ["in", "instanceof", "as", "satisfies"].contains t.text
  | _ => false

def canFollowTypeArguments (t : Token) : Bool :=
  match t.kind, t.text with
  | .template, _ => true
  | .mark, "(" => true
  | .mark, "<" => false
  | .mark, ">" => false
  | .mark, "+" => false
  | .mark, "-" => false
  | _, _ => t.afterBreak || isBinaryOperator t || !startsExpression t

def typeArgumentsInExpression? (self : Meet) : Rule (Option (List TypeNode)) := do
  if !(← dialect).types || !(← atAny ["<", "<<"]) then return none
  attempt do
    splitLess
    advance
    let types ← within ({ · with allowsConditionalType := true }) (delimited ">" "," (self .type))
    if !(← at_ ">") || (Lexer.asGreater (← token)).text != ">" then return none
    advance
    if types.isEmpty then complain "Type argument list cannot be empty."
    if canFollowTypeArguments (← token) then return some types else return none

end PagePreview.Script.Grammar
