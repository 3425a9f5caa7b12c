import PagePreview.Script.Grammar.Markup

/-! Statements, declarations of types among them, and the clauses of modules. -/

namespace PagePreview.Script.Grammar

def commentedStatement (self : Meet) : Rule Stmt := do
  let comments := (← token).comments
  let s ← self .statement
  return if comments.isEmpty then s else .commented comments s

def asDirective? (isString : Bool) : Stmt → Option Stmt
  | .expression (.string _ raw) => if isString then some (.directive raw) else none
  | .commented comments (.expression (.string _ raw)) =>
    if isString then some (.commented comments (.directive raw)) else none
  | _ => none

def statements (self : Meet) (hasDirectives : Bool) : Rule (List Stmt) := do
  let rec go : Nat → Bool → List Stmt → Rule (List Stmt)
    | 0, _, done => return done.reverse
    | fuel + 1, isPrologue, done => do
      let t ← token
      if t.kind == .eof || Token.spells t "\x7d" then
        return if t.comments.isEmpty then done.reverse else (.remarks t.comments :: done).reverse
      let s ← commentedStatement self
      match if isPrologue then asDirective? (t.kind == .string) s else none with
      | some d =>
        if Declared.isStrict [d] then within ({ · with isStrict := true }) (go fuel true (d :: done))
        else go fuel true (d :: done)
      | none => go fuel false (s :: done)
  go (← get).fuel hasDirectives []

def topStatements (self : Meet) : Rule (List Stmt) := do
  let body ← statements self true
  if ← atKind .eof then return body else unexpected

/-- What the body of a function or a script may not hold in a plain script. Names with defaults in
an object literal, `openBefore` of them from outside, must have turned out to be a pattern. -/
def checkBody (kind : String) (openBefore : Nat) (body : List Stmt) : Rule Unit := do
  if Early.clashesInBody body then refuseAt 0 Early.repeatedName
  if let some message := Early.jumpComplaint? body then refuseAt 0 message
  if openBefore < (← get).openDefaults.length then
    refuseAt 0 ("invalid object literal in " ++ kind ++ " statement list")

def blockBody (self : Meet) : Rule (List Stmt) := reading "block" do
  let start := (← token).start
  expect "\x7b"
  let body ← statements self false
  expect "\x7d"
  if ← isPlain then
    if let some message := Early.blockComplaint? (← context).isStrict body then refuseAt start message
  return body

def functionBody (self : Meet) : Rule (List Stmt) := do
  expect "\x7b"
  let openBefore := (← get).openDefaults.length
  let body ← statements self true
  if ← isPlain then checkBody "function" openBefore body
  expect "\x7d"
  return body

def declarator (self : Meet) (kind : VariableKind) (inLoop : Bool) : Rule Expr := do
  let target ← self .pattern
  let isTyped := (← dialect).types
  let isDefinite ← if isTyped then eat "!" else pure false
  let type ← typeAnnotation? self
  let value ← initializer? self
  if value.isNone && !inLoop && !(← context).isAmbient then
    if ← isPlain then
      match target, kind with
      | .identifier _, .const => refuseFor ["="] "const declaration"
      | .identifier _, _ => pure ()
      | _, _ => refuseFor ["="] "initializer"
    match target, kind with
    | .identifier _, .const => complain "Missing initializer in const declaration"
    | .identifier _, _ => pure ()
    | _, _ => complain "Missing initializer in destructuring declaration"
  let target := match type with
    | some type => Expr.typed target isDefinite type
    | none => target
  return .declarator target value

def declarators (self : Meet) (kind : VariableKind) (inLoop : Bool) : Rule (List Expr) := do
  let first ← declarator self kind inLoop
  let rest ← many do if ← eat "," then return some (← declarator self kind inLoop) else return none
  return first :: rest

def checkLexical (start : Nat) (list : List Expr) : Rule Unit := do
  let names := list.flatMap Declared.bound
  if names.contains "let" then refuseAt start "'let' is disallowed as a lexically bound name"
  if (Early.repeated? names).isSome then refuseAt start Early.repeatedName

def vars (self : Meet) (kind : VariableKind) : Rule Stmt :=
  reading (if kind == .var then "variable statement" else "lexical declaration") do
    let start := (← token).start
    advance
    let list ← within ({ · with allowsIn := true }) (declarators self kind false)
    if ← isPlain then
      if kind != .var then
        if !(← canEndStatement) then
          refuseFor [";", "line terminator"] "lexical declaration binding list"
        checkLexical start list
    endStatement
    return .vars false kind list

def startsLet : Rule Bool := do
  if !(← at_ "let") then return false
  let next ← following
  return Token.spells next "[" || Token.spells next "\x7b" ||
    (next.kind == .word && !(["in", "instanceof", "of"].contains next.text) || isName next && next.text == "of")

def condition (self : Meet) : Rule Expr := do
  expect "("
  let e ← within ({ · with allowsIn := true }) (self .expression)
  expect ")"
  return e

def body (self : Meet) : Rule Stmt := commentedStatement self

/-- The statement under a condition or in a loop. In a plain script it is no declaration, but for a
function under a condition in loose code. -/
def innerStatement (self : Meet) (allowsFunction : Bool) : Rule Stmt := do
  if ← isPlain then
    let t ← token
    if Token.spells t "function" then
      let isStrict := (← context).isStrict
      if isStrict || !allowsFunction then
        refuseAt t.start ((if isStrict then "in strict mode code, " else "") ++
          "functions can only be declared at the top level or inside a block")
    if Token.spells t "class" then refuseAt t.start "expected statement"
    if Token.spells t "const" then refuseToken "primary expression"
    if (← at_ "let") && (← startsLet) then
      let next ← following
      if Token.spells next "[" then refuseAt t.start "expected statement"
      advance
      refuseFor [";"] "expression statement"
    body self
  else
    let s ← body self
    if let some message := misplaced? s.uncommented then complain message
    return s
where
  misplaced? : Stmt → Option String
    | .vars false kind _ =>
      if kind == .var then none
      else some "Lexical declaration cannot appear in a single-statement context"
    | .declaration (.class ..) => some "Invalid class declaration"
    | .declaration (.function _ true ..) =>
      some "Async functions can only be declared at the top level or inside a block"
    | .declaration (.function _ _ true ..) =>
      some "Generators can only be declared at the top level or inside a block"
    | _ => none

def ifStatement (self : Meet) : Rule Stmt := reading "if statement" do
  advance
  let test ← condition self
  let yes ← innerStatement self true
  let no ← if ← eat "else" then some <$> innerStatement self true else pure none
  return .cond test yes no

def doStatement (self : Meet) : Rule Stmt := reading "do while statement" do
  advance
  let inner ← innerStatement self false
  expect "while"
  let test ← condition self
  let _ ← eat ";"
  return .doWhile inner test

def loopBody (self : Meet) (head : Stmt) : Rule Stmt := do
  let start := (← token).start
  let inner ← innerStatement self false
  if ← isPlain then
    let names := (Declared.lexical [head]).map (·.1)
    if (Declared.vars [inner]).any names.contains then
      refuseAt start "For loop initializer declared in loop body"
  return inner

def checkHead (start : Nat) (kind : VariableKind) (list : List Expr) : Rule Unit := do
  let t ← token
  let loop := if Token.spells t "of" then "for-of" else "for-in"
  match list with
  | [.declarator target value] =>
    let isLoose := kind == .var && Token.spells t "in" && !(← context).isStrict && isName target
    if value.isSome && !isLoose then
      refuseAt start ("a declaration in the head of a " ++ loop ++ " loop can't have an initializer")
  | _ => refuseAt start ("only one variable can be declared in the head of a " ++ loop ++ " loop")
where
  isName : Expr → Bool
    | .identifier _ => true
    | _ => false

def awaitLoopComplaint : String := "await can only be used in conjunction with \x60for...of\x60 statements"

def loopOver (self : Meet) (isAwait : Bool) (left : Stmt) : Rule Stmt := do
  if isAwait && !(← isPlain) && !(← at_ "of") then complain awaitLoopComplaint
  if ← eat "of" then
    let right ← reading "for of statement" do
      let right ← allowingIn (self (.assignment true))
      expect ")"
      return right
    return .loopOf isAwait left right (← loopBody self left)
  else
    advance
    let right ← reading "for in statement" do
      let right ← allowingIn (self .expression)
      expect ")"
      return right
    return .loopIn left right (← loopBody self left)

def loopCount (self : Meet) (isAwait : Bool) (init : Option Stmt) : Rule Stmt := do
  if isAwait && !(← isPlain) then complain awaitLoopComplaint
  expect ";"
  let test ← if ← at_ ";" then pure none else some <$> allowingIn (self .expression)
  expect ";"
  let update ← if ← at_ ")" then pure none else some <$> allowingIn (self .expression)
  expect ")"
  return .loop init test update (← loopBody self (init.getD .empty))

def missingValues (kind : VariableKind) (list : List Expr) : Rule Unit := do
  for d in list do
    match d with
    | .declarator (.identifier _) none | .declarator (.typed (.identifier _) ..) none =>
      if kind == .const then complain "Missing initializer in const declaration"
    | .declarator _ none => complain "Missing initializer in destructuring declaration"
    | _ => pure ()

def checkValues (kind : VariableKind) (list : List Expr) : Rule Unit := do
  for d in list do
    match d with
    | .declarator (.identifier _) none => if kind == .const then refuseFor ["="] "const declaration"
    | .declarator _ none => refuseFor ["="] "initializer"
    | _ => pure ()

def forStatement (self : Meet) : Rule Stmt := reading "for statement" do
  advance
  if (← isPlain) && (← at_ "await") && !(← context).inAsync then refuseFor ["("] "for statement"
  if !(← isPlain) && (← at_ "await") then
    let c ← context
    if !(c.inAsync || ((← dialect).isModule && !c.inFunction)) then complain awaitComplaint
  let isAwait ← eat "await"
  expect "("
  if ← at_ ";" then return ← loopCount self isAwait none
  let kind : Option VariableKind ←
    if ← at_ "var" then pure (some .var)
    else if ← at_ "const" then pure (some .const)
    else if ← startsLet then pure (some .letVar)
    else pure none
  match kind with
  | some kind =>
    let start := (← token).start
    advance
    let list ← within ({ · with allowsIn := false }) (declarators self kind true)
    let left := Stmt.vars false kind list
    if ← isPlain then
      if kind != .var then checkLexical start list
      if ← atAny ["of", "in"] then checkHead start kind list
      else checkValues kind list
    if ← atAny ["of", "in"] then
      loopOver self isAwait left
    else
      if !(← isPlain) then missingValues kind list
      loopCount self isAwait (some left)
  | none =>
    if ← at_ ")" then unexpected
    let place := (← token).start
    let e ← within ({ · with allowsIn := false }) (self .expression)
    if ← atAny ["of", "in"] then
      if let (true, .identifier "async") := (← at_ "of", e) then
        if ← isPlain then
          refuseAt place "invalid left-hand side expression 'async' of a for-of loop"
        if !isAwait then
          complain "The left-hand side of a \x60for...of\x60 statement may not be \x60async\x60"
      let target ← assignmentTarget (← get).fuel e
      loopOver self isAwait (.expression target)
    else loopCount self isAwait (some (.expression e))

def label? : Rule (Option String) := do
  let t ← token
  if isName t && onSameLine t then do advance; return some t.text else return none

def returnStatement (self : Meet) : Rule Stmt := reading "return statement" do
  if !(← context).inFunction && !(← dialect).looseReturn then
    if ← isPlain then refuseToken "statement"
    complain "A 'return' statement can only be used within a function body."
  advance
  let value ← if ← canEndStatement then pure none else some <$> allowingIn (self .expression)
  endStatement
  return .return value

def throwStatement (self : Meet) : Rule Stmt := reading "throw statement" do
  let stop := (← token).stop
  advance
  if (← token).afterBreak then
    if ← isPlain then refuseAt stop "unexpected token 'line terminator', throw statement"
    complain "Illegal newline after throw"
  let value ← allowingIn (self .expression)
  endStatement
  return .throw value

def caseClause (self : Meet) : Rule Stmt := do
  let test ← if ← eat "default" then pure none
    else do
      if (← isPlain) && !(← at_ "case") then refuseFor ["case", "default", "\x7d"] "switch case block"
      expect "case"
      some <$> allowingIn (self .expression)
  expect ":"
  let inner ← many do
    let t ← token
    if ["case", "default", "\x7d"].any (Token.spells t) || t.kind == .eof then return none
    return some (← commentedStatement self)
  return .case test inner

def caseBlock (self : Meet) : Rule (List Stmt) := reading "switch case block" do
  let start := (← token).start
  expect "\x7b"
  let rec go : Nat → List Stmt → Rule (List Stmt)
    | 0, done => return done.reverse
    | fuel + 1, done => do
      let t ← token
      if Token.spells t "\x7d" || t.kind == .eof then return done.reverse
      if (← isPlain) && Token.spells t "default" && done.any isDefault then
        refuseToken "more than one switch default"
      go fuel ((← caseClause self) :: done)
  let cases ← go (← get).fuel []
  expect "\x7d"
  if ← isPlain then
    let body := cases.flatMap fun
      | .case _ body => body
      | _ => []
    if let some message := Early.blockComplaint? (← context).isStrict body then refuseAt start message
  return cases
where
  isDefault : Stmt → Bool
    | .case none _ => true
    | _ => false

def switchStatement (self : Meet) : Rule Stmt := reading "switch statement" do
  advance
  let subject ← condition self
  return .switch subject (← caseBlock self)

def checkHandler (start : Nat) (param : Expr) (body : List Stmt) : Rule Unit := do
  let names := Declared.bound param
  if (Early.repeated? names).isSome then refuseAt start "duplicate catch parameter identifier"
  let isName := match param with
    | .identifier _ => true
    | _ => false
  if ((Early.blockNames body).map (·.1) ++ if isName then [] else Declared.vars body).any names.contains then
    refuseAt start "catch parameter identifier declared in catch body"

def handler (self : Meet) : Rule (Option Expr × List Stmt) := reading "catch in try statement" do
  let start := (← token).start
  let param ← if ← eat "(" then
      let target ← self .pattern
      let type ← typeAnnotation? self
      expect ")"
      pure (some (type.elim target (Expr.typed target false ·)))
    else pure none
  let body ← blockBody self
  if ← isPlain then
    if let some p := param then checkHandler start p body
  return (param, body)

def tryStatement (self : Meet) : Rule Stmt := reading "try statement" do
  advance
  let inner ← blockBody self
  let (param, handler) ← if ← eat "catch" then do
      let (param, body) ← handler self
      pure (param, some body)
    else pure (none, none)
  let finalizer ← if ← eat "finally" then some <$> blockBody self else pure none
  if handler.isNone && finalizer.isNone then
    if ← isPlain then refuseFor ["catch", "finally"] "try statement"
    complain "Missing catch or finally clause"
  return .try inner param handler finalizer

def typeAlias (self : Meet) : Rule Stmt := do
  advance
  let name ← bindingName
  let typeParams ← typeParameters self
  expect "="
  let type ← self .type
  endStatement
  return .typeAlias false name typeParams type

def interface (self : Meet) : Rule Stmt := do
  advance
  let name ← bindingName
  let typeParams ← typeParameters self
  let parents ← if ← eat "extends" then heritage self else pure []
  return .interface false name typeParams parents (← typeMembers self)

def enumMember (self : Meet) : Rule Expr := do
  let comments := (← token).comments
  let (key, isComputed) ← propertyKey self
  let value ← allowingIn (initializer? self)
  let member := Expr.enumMember key isComputed value
  return if comments.isEmpty then member else .commented comments member

def enum (self : Meet) (isConst : Bool) : Rule Stmt := do
  expect "enum"
  let name ← bindingName
  expect "\x7b"
  let members ← delimited "\x7d" "," (enumMember self)
  expect "\x7d"
  return .enum false isConst name members

def space (self : Meet) : Rule Stmt := do
  let t ← token
  advance
  let name ← if t.text == "global" then pure (Expr.identifier "global")
    else if ← atKind .string then do
      let s ← token
      advance
      pure (stringLiteral s)
    else dottedName
  let inner ← if ← at_ "\x7b" then some <$> within ({ · with inFunction := false }) (blockBody self)
    else do endStatement; pure none
  return .space false t.text name inner

def startsTypeDeclaration : Rule Bool := do
  let t ← token
  let next ← following
  let named := isName next && onSameLine next
  match t.kind, t.text with
  | .word, "type" | .word, "interface" => return named && !t.escaped
  | .word, "namespace" => return named
  | .word, "module" => return named || (next.kind == .string && onSameLine next)
  | .word, "global" => return Token.spells next "\x7b"
  | .word, "enum" => return true
  | .word, "abstract" => return Token.spells next "class" && onSameLine next
  | .word, "declare" =>
    return onSameLine next && (["var", "let", "const", "function", "class", "enum", "interface",
      "type", "module", "namespace", "abstract", "async", "global"].any (Token.spells next))
  | _, _ => return false

def moduleName : Rule ModuleName := do
  let t ← token
  if t.kind == .string then do advance; return ⟨t.str.getD .empty, true⟩
  else if t.kind == .word then do advance; return ⟨.plain t.text, false⟩
  else unexpected

def specifier : Rule Specifier := do
  let t ← token
  let next ← following
  -- `type` marks a name unless it is the name.
  let marks := Token.spells t "type" && (next.kind == .word || next.kind == .string) &&
    !(Token.spells next "as" && !(← foresee do
      advance
      advance
      let t ← token
      if Token.spells t "as" then
        advance
        return (← token).kind == .word
      return Token.spells t "," || Token.spells t "\x7d"))
  if marks then advance
  let name ← moduleName
  let renamed ← if ← eat "as" then moduleName else pure name
  return ⟨name, renamed, marks⟩

def specifiers : Rule (List Specifier) := do
  expect "\x7b"
  let list ← delimited "\x7d" "," specifier
  expect "\x7d"
  return list

def importAttributes? : Rule (Option (List ImportAttribute)) := do
  let t ← token
  if Token.spells t "with" || (Token.spells t "assert" && onSameLine t) then
    advance
    expect "\x7b"
    let list ← delimited "\x7d" "," do
      let key ← moduleName
      expect ":"
      let t ← token
      if t.kind == .string then
        advance
        return ({ key, value := t.str.getD .empty } : ImportAttribute)
      else unexpected
    expect "\x7d"
    return some list
  else return none

def moduleSource : Rule Str := do
  let t ← token
  if t.kind == .string then do advance; return t.str.getD .empty
  else unexpected

def importBinding : Rule String := do
  let t ← token
  if isName t then bindingName
  else if t.kind == .word then
    giveUp ("Identifier expected. '" ++ t.text ++ "' is a reserved word that cannot be used here.")
  else unexpected

def importGroup (defaultName : Option String) : Rule ImportClause := do
  if ← eat "*" then
    expect "as"
    return { defaultName, namespaceName := some (← importBinding) }
  else if ← at_ "\x7b" then
    let named ← specifiers
    for n in named do
      let word := n.renamed.text.display
      if n.renamed.isString then complain "Unexpected token"
      else if reservedWords.contains word then
        complain ("Identifier expected. '" ++ word ++ "' is a reserved word that cannot be used here.")
    return { defaultName, named := some named }
  else unexpected

def importAlias (self : Meet) (isType : Bool) (name : String) : Rule Stmt := do
  expect "="
  let next ← following
  let value ← if (← at_ "require") && Token.spells next "(" then self .unary else dottedName
  endStatement
  return .importAlias isType name value

def importStatement (self : Meet) : Rule Stmt := do
  advance
  if ← atKind .string then
    let source ← moduleSource
    let attributes ← importAttributes?
    endStatement
    return .importFrom false none none source attributes
  let next ← following
  let isType := (← at_ "type") && (← dialect).types &&
    (Token.spells next "\x7b" || Token.spells next "*" ||
      (isName next && (next.text != "from" || (← foresee do advance; advance; atAny ["from", "="]))))
  if isType then advance
  let clause ← if ← atAny ["*", "\x7b"] then importGroup none
    else
      let name ← importBinding
      if (← at_ "=") && (← dialect).types then return ← importAlias self isType name
      if ← eat "," then importGroup (some name) else pure { defaultName := some name }
  expect "from"
  let source ← moduleSource
  let attributes ← importAttributes?
  endStatement
  return .importFrom isType none (some clause) source attributes

def exportDefault (self : Meet) : Rule Stmt := do
  advance
  let t ← token
  let next ← following
  if Token.spells t "function" then
    return .exportDefault (.declaration (← functionOf self false true false))
  if Token.spells t "async" && Token.spells next "function" && onSameLine next then
    advance
    return .exportDefault (.declaration (← functionOf self true true false))
  if Token.spells t "class" then
    return .exportDefault (.declaration (← classOf self [] false false))
  if Token.spells t "@" then
    let ds ← decorators self
    let isAbstract ← eat "abstract"
    return .exportDefault (.declaration (← classOf self ds false isAbstract))
  if (← dialect).types then
    if Token.spells t "abstract" && Token.spells next "class" then
      advance
      return .exportDefault (.declaration (← classOf self [] false true))
    if Token.spells t "interface" && isName next && onSameLine next then
      return .exportDefault (← interface self)
  let e ← allowingIn (self (.assignment true))
  endStatement
  return .exportDefault (.expression e)

def exportStatement (self : Meet) : Rule Stmt := do
  advance
  let t ← token
  let next ← following
  if Token.spells t "default" then return ← exportDefault self
  let isTyped := (← dialect).types
  let isType := isTyped && Token.spells t "type" && (Token.spells next "\x7b" || Token.spells next "*")
  if isType then advance
  if ← eat "*" then
    let renamed ← if ← eat "as" then some <$> moduleName else pure none
    expect "from"
    let source ← moduleSource
    let attributes ← importAttributes?
    endStatement
    return .exportAll isType renamed source attributes
  if ← at_ "\x7b" then
    let names ← specifiers
    if ← eat "from" then
      let source ← moduleSource
      let attributes ← importAttributes?
      endStatement
      return .exportFrom isType names (some source) attributes
    for n in names do
      let word := n.name.text.display
      if n.name.isString then
        complain ("A string literal cannot be used as an exported binding without \x60from\x60")
      else if reservedWords.contains word then
        complain "A reserved word cannot be used as an exported binding without \x60from\x60"
    endStatement
    return .exportFrom isType names none none
  if isTyped && Token.spells t "=" then
    advance
    let e ← allowingIn (self .expression)
    endStatement
    return .exportAssign e
  if isTyped && Token.spells t "as" && Token.spells next "namespace" then
    advance
    advance
    let name ← anyWord
    endStatement
    return .exportNamespace name
  if isTyped && Token.spells t "import" then
    advance
    let name ← bindingName
    return .exportDeclaration (← importAlias self false name)
  let isDeclaration := ["var", "let", "const", "function", "class", "@"].any (Token.spells t) ||
    (Token.spells t "async" && Token.spells next "function") ||
    (isTyped && (← startsTypeDeclaration))
  if isDeclaration then return .exportDeclaration (← self .statement)
  unexpected

def labelledStatement (self : Meet) : Rule Stmt := do
  let t ← token
  if (← isPlain) && (← context).isStrict && Token.spells t "function" then
    refuseAt t.start
      "in strict mode code, functions can only be declared at the top level or inside a block"
  innerStatement self true

def expressionStatement (self : Meet) : Rule Stmt := reading "expression statement" do
  let e ← allowingIn (self .expression)
  if let .identifier name := e then
    if ← eat ":" then return .labeled name (← labelledStatement self)
  endStatement
  return .expression e

def functionStatement (self : Meet) (isAsync : Bool) : Rule Stmt := do
  return .declaration (← functionOf self isAsync true true)

def decoratedStatement (self : Meet) : Rule Stmt := do
  let ds ← decorators self
  if ← eat "export" then
    if ← eat "default" then
      let isAbstract ← eat "abstract"
      return .exportDefault (.declaration (← classOf self ds false isAbstract))
    let isAbstract ← eat "abstract"
    return .exportDeclaration (.declaration (← classOf self ds false isAbstract))
  let isAbstract ← if (← following).text == "class" then eat "abstract" else pure false
  if ← at_ "class" then return .declaration (← classOf self ds false isAbstract)
  else unexpected

def classStatement (self : Meet) (isAbstract : Bool) : Rule Stmt := do
  let next ← following
  if next.kind != .word || Token.spells next "extends" then do
    advance
    if ← isPlain then refuseFor ["identifier"] "identifier parsing"
    if ← at_ "\x7b" then giveUp "A class name is required." else unexpected
  return .declaration (← classOf self [] false isAbstract)

def asDeclared : Stmt → Stmt
  | .vars _ kind list => .vars true kind list
  | .declaration (.function name isAsync isGenerator _ tps params result body) =>
    .declaration (.function name isAsync isGenerator true tps params result body)
  | .declaration (.class ds _ isAbstract name tps parent pargs implements members) =>
    .declaration (.class ds true isAbstract name tps parent pargs implements members)
  | .typeAlias _ name tps type => .typeAlias true name tps type
  | .interface _ name tps parents members => .interface true name tps parents members
  | .enum _ isConst name members => .enum true isConst name members
  | .space _ word name inner => .space true word name inner
  | s => s

def typeDeclaration (self : Meet) : Rule Stmt := do
  let t ← token
  match t.text with
  | "type" => typeAlias self
  | "interface" => interface self
  | "enum" => enum self false
  | "abstract" => do advance; classStatement self true
  | "declare" => do
    advance
    asDeclared <$> within ({ · with isAmbient := true }) do
      if ← at_ "class" then classStatement self false else self .statement
  | _ => space self

def statement (self : Meet) : Rule Stmt := do
  let t ← token
  let next ← following
  match t.kind with
  | .mark =>
    match t.text with
    | "\x7b" => return .block (← blockBody self)
    | ";" => do advance; return .empty
    | "@" => decoratedStatement self
    | _ => expressionStatement self
  | .word =>
    if t.escaped then expressionStatement self
    else match t.text with
    | "if" => ifStatement self
    | "do" => doStatement self
    | "while" => reading "while statement" do
      advance
      let test ← condition self
      return .while test (← innerStatement self false)
    | "for" => forStatement self
    | "continue" => reading "continue statement" do
      advance
      let l ← label?
      endStatement
      return .continue l
    | "break" => reading "break statement" do
      advance
      let l ← label?
      endStatement
      return .break l
    | "with" => reading "with statement" do
      if (← isPlain) && (← context).isStrict then
        refuseAt t.start "with statement not allowed in strict mode"
      advance
      let object ← condition self
      return .with object (← innerStatement self false)
    | "switch" => switchStatement self
    | "throw" => throwStatement self
    | "try" => tryStatement self
    | "debugger" => do advance; endStatement; return .debugger
    | "class" => classStatement self false
    | "export" => if (← dialect).clauses then exportStatement self else unexpected
    | "return" => returnStatement self
    | "var" => vars self .var
    | "const" =>
      if (← dialect).types && Token.spells next "enum" then do advance; enum self true
      else vars self .const
    | "let" => if ← startsLet then vars self .letVar else expressionStatement self
    | "function" => functionStatement self false
    | "async" =>
      if Token.spells next "function" && onSameLine next then do
        advance
        functionStatement self true
      else expressionStatement self
    | "import" =>
      if Token.spells next "(" || Token.spells next "." || !(← dialect).clauses then
        expressionStatement self
      else importStatement self
    | _ =>
      if (← dialect).types && (← startsTypeDeclaration) then typeDeclaration self
      else expressionStatement self
  | _ => expressionStatement self

def plainScript (self : Meet) (isDirect : Bool) : Rule (List Stmt) := do
  let body ← topStatements self
  if !isDirect then
    if Early.anyStmt .parent body then refuseAt 0 "invalid super usage"
    if Early.anyStmt .newTarget body then refuseAt 0 "invalid new.target usage"
    if Early.strayPrivate body then refuseAt 0 "invalid private identifier usage"
  checkBody "script" 0 body
  return body

end PagePreview.Script.Grammar
