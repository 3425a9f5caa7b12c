import PagePreview.Script.Grammar.Type

/-! Functions and classes. -/

namespace PagePreview.Script.Grammar

def functionContext (isAsync isGenerator : Bool) (c : Context) : Context :=
  { c with
    allowsIn := true, inAsync := isAsync, inGenerator := isGenerator, inFunction := true
    inDecorator := false }

def functionBody? (self : Meet) : Rule (Option (List Stmt)) := do
  if (← dialect).types && !(← at_ "\x7b") && (← canEndStatement) then
    endStatement
    return none
  return some (← self .functionBody)

/-- What the parameters of a plain script may not be; `start` is the place behind the opening
parenthesis. -/
def checkParams (start : Nat) (isUnique : Bool) (params : List Expr) (body : List Stmt) : Rule Unit := do
  let names := Early.paramNames params
  let isStrict := (← context).isStrict || Declared.isStrict body
  if (isUnique || isStrict) && (Early.repeated? names).isSome then refuseAt start repeatedParam
  if isStrict then
    if let some n := names.find? fun n => n == "eval" || n == "arguments" then
      refuseAt start (strictNameComplaint n)
  if Declared.isStrict body && !Early.isSimple params then
    refuseAt start "Illegal 'use strict' directive in function with non-simple parameter list"
  let inner := (Declared.lexical body).map (·.1)
  if let some n := names.find? inner.contains then
    refuseAt start ("formal parameter \x60" ++ n ++ "\x60 declared in lexically declared names")

def checkFunction (start : Nat) (name : Option String) (isAsync isGenerator isMethod : Bool)
    (params : List Expr) (body : List Stmt) : Rule Unit := do
  if isMethod && (Early.repeated? (Early.paramNames params)).isSome then
    refuseAt start "duplicate parameter name not allowed in unique formal parameters"
  if isAsync && Early.anyExpr .awaits params then
    refuseAt start "Await expression not allowed in this context"
  if isGenerator && Early.anyExpr .yields params then
    refuseAt start "Yield expression not allowed in this context"
  checkParams start false params body
  if let some n := name then
    if ((← context).isStrict || Declared.isStrict body) && (n == "eval" || n == "arguments") then
      refuseAt start (strictNameComplaint n)
  if !isMethod && (Early.anyExpr .parent params || Early.anyStmt .parent body) then
    refuseAt start "invalid super usage"

def functionRest (self : Meet) (name : Option String) (isAsync isGenerator isMethod : Bool) : Rule Expr :=
  within (functionContext isAsync isGenerator) do
    let typeParams ← typeParameters self
    let start := (← token).stop
    let params ← parameters self
    let result ← resultAnnotation? self
    let body ← functionBody? self
    if ← isPlain then checkFunction start name isAsync isGenerator isMethod params (body.getD [])
    return .function name isAsync isGenerator false typeParams params result body

def methodFunction (self : Meet) (isAsync isGenerator : Bool) : Rule Expr :=
  functionRest self none isAsync isGenerator true

def functionConstruct (isAsync isGenerator isDeclaration : Bool) : String :=
  let kind := match isAsync, isGenerator with
    | false, false => "function"
    | true, false => "async function"
    | false, true => "generator"
    | true, true => "async generator"
  kind ++ if isDeclaration then " declaration" else " expression"

/-- The name of a function. A declaration needs one, an expression may have one in its own
surroundings. -/
def functionName? (isAsync isGenerator isDeclaration needsName : Bool) : Rule (Option String) := do
  if isDeclaration then
    if !needsName && !(← atName) then return none
    if (← at_ "(") && !(← isPlain) then giveUp "Expected function name"
    return some (← bindingName)
  else within (functionContext isAsync isGenerator) do
    if ← atName then return some (← bindingName) else return none

def functionOf (self : Meet) (isAsync isDeclaration needsName : Bool) : Rule Expr := do
  expect "function"
  let isGenerator ← eat "*"
  reading (functionConstruct isAsync isGenerator isDeclaration) do
    let name ← functionName? isAsync isGenerator isDeclaration needsName
    functionRest self name isAsync isGenerator false

/-- Whether the token after the current one can be the rest of a member that the current word
modifies. -/
def modifierApplies (sameLine : Bool) : Rule Bool := do
  let next ← following
  let fits := next.kind == .word || next.kind == .string || next.kind == .number ||
    next.kind == .bigint || next.kind == .privateName || Token.spells next "[" ||
    Token.spells next "*" || Token.spells next "\x7b"
  return fits && (!sameLine || onSameLine next)

def memberWords : List String := [
  "declare", "public", "private", "protected", "static", "abstract", "override", "readonly",
  "accessor"]

def addModifier (m : Modifiers) : String → Modifiers
  | "declare" => { m with isDeclare := true }
  | "static" => { m with isStatic := true }
  | "abstract" => { m with isAbstract := true }
  | "override" => { m with isOverride := true }
  | "readonly" => { m with isReadonly := true }
  | "accessor" => { m with isAccessor := true }
  | word => { m with accessibility := some word }

def memberModifiers : Rule Modifiers := do
  let isTyped := (← dialect).types
  let rec go : Nat → Modifiers → Rule Modifiers
    | 0, m => return m
    | fuel + 1, m => do
      let t ← token
      let isWord := memberWords.any (Token.spells t) &&
        (isTyped || t.text == "static" || t.text == "accessor")
      if !isWord then return m
      let next ← following
      -- A block after `static` is a member of its own.
      if Token.spells next "\x7b" then return m
      if !(← modifierApplies (t.text != "static")) then return m
      advance
      go fuel (addModifier m t.text)
  go 12 {}

def isConstructorKey (m : Modifiers) (key : Expr) (isComputed : Bool) : Bool :=
  !m.isStatic && !isComputed && match key with
    | .identifier "constructor" => true
    | .string (.plain "constructor") _ => true
    | _ => false

def accessorFunction (self : Meet) (kind : MethodKind) : Rule Expr := do
  let next ← following
  if (← isPlain) && kind == .getter && !(Token.spells next ")") then
    advance
    refuseFor [")"] "get method definition"
  let start := (← token).stop
  let f ← methodFunction self false false
  match f with
  | .function _ _ _ _ _ params _ _ =>
    let params := params.filter fun p => !isThis p
    if ← isPlain then
      if kind == .setter && (params.length != 1 || params.any isRest) then
        refuseAt start "unexpected parameters of a setter"
    else if kind == .getter then
      if !params.isEmpty then complain "A 'get' accessor must not have any formal parameters."
    else if params.any isRest then complain "A 'set' accessor cannot have rest parameter."
    else if params.length != 1 then complain "A 'set' accessor must have exactly one parameter."
    return f
  | f => return f
where
  isRest : Expr → Bool
    | .restParam .. => true
    | _ => false
  isThis : Expr → Bool
    | .thisParam _ => true
    | _ => false

def classMemberRest (self : Meet) (decorators : List Expr) (m : Modifiers) : Rule Expr := do
  let t ← token
  let isWordOf (word : String) (sameLine : Bool) : Rule Bool := do
    if Token.spells t word then modifierApplies sameLine else return false
  if (← isWordOf "get" false) || (← isWordOf "set" false) then
    let next ← following
    if !(Token.spells next "*") && !(Token.spells next "\x7b") then
      advance
      let (key, isComputed) ← propertyKey self
      let kind : MethodKind := if t.text == "get" then .getter else .setter
      return .methodMember decorators m kind key isComputed (← accessorFunction self kind)
  let isAsync ← isWordOf "async" true
  if isAsync then advance
  let isGenerator ← eat "*"
  let (key, isComputed) ← propertyKey self
  let isOptional ← if (← dialect).types then eat "?" else pure false
  let m := { m with isOptional }
  if isAsync || isGenerator || (← atAny ["(", "<"]) then
    let kind : MethodKind := if isConstructorKey m key isComputed then .constructor else .plain
    let function ← methodFunction self isAsync isGenerator
    return .methodMember decorators m kind key isComputed function
  let isDefinite ← if (← dialect).types && !isOptional then eat "!" else pure false
  let type ← typeAnnotation? self
  let value ← within ({ · with allowsIn := true, inAsync := false, inGenerator := false })
    (initializer? self)
  reading "expected semicolon" endStatement
  return .fieldMember decorators { m with isDefinite } key isComputed type value

def checkMemberName (member : Expr) : Rule Unit := do
  let named (key : Expr) (isComputed : Bool) (name : String) : Bool := !isComputed && match key with
    | .identifier n => n == name
    | .string s _ => s == .plain name
    | _ => false
  let checkKey (m : Modifiers) (key : Expr) (isComputed : Bool) : Rule Unit := do
    if let .privateName "constructor" := key then
      complain "Classes can't have an element named '#constructor'"
    if m.isStatic && named key isComputed "prototype" then
      complain "Classes may not have a static property named prototype"
  match member with
  | .methodMember _ m kind key isComputed f => do
    checkKey m key isComputed
    if !m.isStatic && named key isComputed "constructor" then
      if kind == .getter || kind == .setter then complain "Constructor can't have get/set modifier"
      match f with
      | .function _ true .. => complain "Constructor can't be an async method"
      | .function _ _ true .. => complain "Constructor can't be a generator"
      | _ => pure ()
  | .fieldMember _ m key isComputed _ _ => do
    checkKey m key isComputed
    if named key isComputed "constructor" then
      complain "Classes can't have a field named 'constructor'"
  | _ => pure ()

def classMember (self : Meet) : Rule Expr := do
  let comments := (← token).comments
  let decorators ← decorators self
  let member ← do
    let next ← following
    if (← at_ "static") && Token.spells next "\x7b" then
      advance
      let isPlain ← isPlain
      let body ← within (functionContext (!isPlain) false) (self .functionBody)
      pure (Expr.staticBlock body)
    else
      let m ← memberModifiers
      if (← dialect).types && (← startsIndexSignature) then
        let type ← indexSignature self m.isReadonly m.isStatic
        memberEnd
        pure (Expr.indexMember type)
      else classMemberRest self decorators m
  if !(← isPlain) then checkMemberName member
  return if comments.isEmpty then member else .commented comments member

def heritage (self : Meet) : Rule (List TypeNode) := do
  let rec go : Nat → List TypeNode → Rule (List TypeNode)
    | 0, done => return done.reverse
    | fuel + 1, done => do
      let name ← dottedName
      let type := TypeNode.reference name (← typeArgumentsOnLine self)
      if ← eat "," then go fuel (type :: done) else return (type :: done).reverse
  go (← get).fuel []

def classParent (self : Meet) : Rule (Option Expr × List TypeNode) := do
  if ← eat "extends" then
    -- A call or a member, but no operator.
    match ← self .unary with
    | .instantiate parent types => return (some parent, types)
    | parent => return (some parent, ← typeArgumentsOnLine self)
  else return (none, [])

def checkMember (hasParent : Bool) (place : Nat) (before : List Expr) (member : Expr) : Rule Unit := do
  let bare : Expr → Expr
    | .commented _ e => e
    | e => e
  let isConstructor (e : Expr) : Bool := match bare e with
    | .methodMember _ m _ key isComputed _ => isConstructorKey m key isComputed
    | _ => false
  let named (e : Expr) (name : String) : Bool := match e with
    | .identifier n => n == name
    | .string s _ => s == .plain name
    | _ => false
  match bare member with
  | .methodMember _ m kind key isComputed f => do
    let isAsync := match f with
      | .function _ isAsync isGenerator .. => isAsync || isGenerator
      | _ => false
    let calls := Early.anyExpr .parentCall (match f with
      | .function _ _ _ _ _ params _ _ => params
      | _ => []) || Early.anyStmt .parentCall (match f with
      | .function _ _ _ _ _ _ _ body => body.getD []
      | _ => [])
    if isConstructor member then
      if kind == .getter then refuseAt place "class constructor may not be a getter method"
      if kind == .setter then refuseAt place "class constructor may not be a setter method"
      if isAsync then refuseAt place "class constructor may not be an async method"
      if before.any isConstructor then refuseAt place "a class may only have one constructor"
      if calls && !hasParent then refuseAt place "invalid super usage"
    else if calls then refuseAt place "invalid super usage"
    if m.isStatic && !isComputed && named key "prototype" then
      refuseAt place "class may not have static method definitions named 'prototype'"
  | .fieldMember _ m key isComputed _ _ => do
    if !isComputed && named key "constructor" then
      refuseAt place "class may not have field definitions named 'constructor'"
    if m.isStatic && !isComputed && named key "prototype" then
      refuseAt place "class may not have static field definitions named 'prototype'"
  | _ => pure ()
  if let some n := Early.privateKey? member then
    if n == "constructor" then refuseAt place "class constructor may not be a private method"
    let same := before.filter fun e => Early.privateKey? e == some n
    if !same.isEmpty && !(same.length == 1 && same.all (isOtherHalf (bare member) ∘ bare)) then
      refuseAt place "private identifier has already been declared"
where
  isOtherHalf (a b : Expr) : Bool :=
    match a, b with
    | .methodMember _ m .getter .., .methodMember _ n .setter .. => m.isStatic == n.isStatic
    | .methodMember _ m .setter .., .methodMember _ n .getter .. => m.isStatic == n.isStatic
    | _, _ => false

def classOf (self : Meet) (decorators : List Expr) (isDeclare isAbstract : Bool) : Rule Expr := do
  expect "class"
  within ({ · with isStrict := true, construct := "class tail" }) do
    let name ← if (← atName) && !((← at_ "implements") && (← following).kind == .word)
      then some <$> bindingName else pure none
    let typeParams ← typeParameters self
    let (parent, parentArgs) ← classParent self
    let implements ← if (← dialect).types && (← eat "implements") then heritage self else pure []
    expect "\x7b"
    let members ← membersOf parent.isSome
    expect "\x7d"
    return .class decorators isDeclare isAbstract name typeParams parent parentArgs implements members
where
  membersOf (hasParent : Bool) : Rule (List Expr) := do
    let rec go : Nat → List Expr → Rule (List Expr)
      | 0, done => return done.reverse
      | fuel + 1, done => do
        let _ ← many do if ← eat ";" then return some () else return none
        let t ← token
        if Token.spells t "\x7d" || t.kind == .eof then return done.reverse
        let member ← classMember self
        if ← isPlain then checkMember hasParent t.start done member
        go fuel (member :: done)
    go (← get).fuel []

end PagePreview.Script.Grammar
