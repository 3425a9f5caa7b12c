import PagePreview.Regex.Syntax
import PagePreview.Script.Grammar.Function

/-! Expressions. -/

namespace PagePreview.Script.Grammar

def forgetDefault (name : String) : Rule Unit := modify fun s =>
  { s with openDefaults := match s.openDefaults.findIdx? (·.1 == name) with
      | some i => s.openDefaults.eraseIdx i
      | none => s.openDefaults }

def badTarget {α : Type} : Rule α := do
  if ← isPlain then refuse fun _ => "Invalid left-hand side in assignment"
  giveUp "Cannot assign to this expression"

def simpleTarget : Nat → Expr → Rule Expr
  | 0, _ => badTarget
  | fuel + 1, e =>
    match e with
    | .identifier name => do
      if (← isPlain) && (← context).isStrict && (name == "eval" || name == "arguments") then badTarget
      return e
    | .member .. | .privateMember .. | .index .. => return e
    | .paren inner => do
      match inner with
      | .object _ | .array _ => badTarget
      | inner => simpleTarget fuel inner
    | .asType inner type => return .asType (← simpleTarget fuel inner) type
    | .satisfies inner type => return .satisfies (← simpleTarget fuel inner) type
    | .nonNull inner => return .nonNull (← simpleTarget fuel inner)
    | _ => badTarget

def lastSpread (items : List Expr) : Rule Unit := do
  let isSpread : Expr → Bool
    | .spread _ => true
    | .commented _ (.spread _) => true
    | _ => false
  if items.dropLast.any isSpread then
    if ← isPlain then badTarget
    giveUp "Spread must be last element"

mutual

def assignmentTarget : Nat → Expr → Rule Expr
  | 0, _ => badTarget
  | fuel + 1, e =>
    match e with
    | .array elements => do
      lastSpread elements
      return .arrayPattern (← elements.mapM (elementTarget fuel))
    | .object properties => do
      lastSpread properties
      return .objectPattern (← properties.mapM (propertyTarget fuel))
    | e => simpleTarget fuel e

def elementTarget : Nat → Expr → Rule Expr
  | 0, _ => badTarget
  | fuel + 1, e =>
    match e with
    | .hole => return .hole
    | .spread e => return .restPattern (← assignmentTarget fuel e)
    | .assign .plain target value => return .defaultPattern target value
    | e => assignmentTarget fuel e

def propertyTarget : Nat → Expr → Rule Expr
  | 0, _ => badTarget
  | fuel + 1, e =>
    match e with
    | .spread e => do
      let target ← assignmentTarget fuel e
      match target with
      | .arrayPattern _ | .objectPattern _ =>
        if ← isPlain then badTarget
        complain "Invalid rest operator's argument."
      | _ => pure ()
      return .restPattern target
    | .property key isComputed isShorthand value =>
      return .property key isComputed isShorthand (← elementTarget fuel value)
    | .coverDefault name value => do
      forgetDefault name
      return .property (.identifier name) false true (.defaultPattern (.identifier name) value)
    | _ => badTarget

end

def spreadOr (self : Meet) : Rule Expr := do
  if ← eat "..." then return .spread (← self (.assignment true)) else self (.assignment true)

def arrayElement (self : Meet) : Rule Expr := do
  let e ← spreadOr self
  if let .spread _ := e then
    let closesPattern ← foresee do
      expect ","
      expect "]"
      at_ "="
    if closesPattern then
      if ← isPlain then badTarget
      complain "Unexpected trailing comma after rest element"
  return e

def arrayLiteral (self : Meet) : Rule Expr := reading "array literal" do
  expect "["
  let elements ← allowingIn (arrayItems (arrayElement self))
  expect "]"
  return .array elements

def modifiesProperty (word : String) : Rule Bool := do
  if !(← at_ word) then return false
  let next ← following
  return next.kind == .word || next.kind == .string || next.kind == .number || next.kind == .bigint ||
    next.kind == .privateName || Token.spells next "[" || (word == "async" && Token.spells next "*")

def objectProperty (self : Meet) : Rule Expr := do
  if ← eat "..." then return .spread (← self (.assignment true))
  let method (kind : MethodKind) (isAsync isGenerator : Bool) : Rule Expr := do
    let (key, isComputed) ← propertyKey self
    return .method kind key isComputed (← methodFunction self isAsync isGenerator)
  let accessor (kind : MethodKind) : Rule Expr := do
    advance
    let (key, isComputed) ← propertyKey self
    return .method kind key isComputed (← accessorFunction self kind)
  if ← modifiesProperty "get" then accessor .getter
  else if ← modifiesProperty "set" then accessor .setter
  else if (← modifiesProperty "async") && onSameLine (← following) then do
    advance
    let isGenerator ← eat "*"
    method .plain true isGenerator
  else if ← eat "*" then method .plain false true
  else
    let t ← token
    let (key, isComputed) ← propertyKey self
    if ← atAny ["(", "<"] then
      return .method .plain key isComputed (← methodFunction self false false)
    if ← eat ":" then
      return .property key isComputed false (← self (.assignment true))
    if ← isPlain then
      if isComputed || !(isName t) || !(← atAny [",", "\x7d", "="]) then
        refuseFor ["("] "object method definition"
    if isComputed || !(isName t) then unexpected
    if ← eat "=" then
      modify fun s => { s with openDefaults := s.openDefaults ++ [(t.text, t.start)] }
      return .coverDefault t.text (← self (.assignment true))
    return .property key false true (.identifier t.text)

def setsPrototype : Expr → Bool
  | .property (.identifier "__proto__") false false _ => true
  | .property (.string s _) false false _ => s == .plain "__proto__"
  | .commented _ (.property (.identifier "__proto__") false false _) => true
  | _ => false

def checkProperty (place : Nat) (property : Expr) : Rule Unit := do
  if let .method _ _ _ (.function _ _ _ _ _ params _ body) := property then
    if Early.anyExpr .parentCall params || Early.anyStmt .parentCall (body.getD []) then
      refuseAt place "invalid super usage"

def objectLiteral (self : Meet) : Rule Expr := reading "object literal" do
  expect "\x7b"
  let placed : Rule (Nat × Expr) := do
    let place := (← token).start
    let property ← objectProperty self
    if ← isPlain then checkProperty place property
    return (place, property)
  let placed ← allowingIn (delimited "\x7d" "," placed)
  expect "\x7d"
  match (placed.filter (setsPrototype ·.2)).drop 1 with
  | (place, _) :: _ =>
    if (← isPlain) && !(← at_ "=") then
      refuseAt place "Duplicate __proto__ fields are not allowed in object literals."
  | [] => pure ()
  return .object (placed.map (·.2))

def arguments (self : Meet) : Rule (List Expr) := reading "argument list" do
  expect "("
  let argument : Rule Expr := do
    let comments := (← token).comments
    let e ← spreadOr self
    return if comments.isEmpty then e else .commented comments e
  let args ← within ({ · with allowsIn := true, inDecorator := false }) (delimited ")" "," argument [",", "\x7d"])
  expect ")"
  return args

def plainParts (self : Meet) : Rule (List Expr) := do
  if ← at_ ")" then refuseToken "empty parenthesized expression"
  let first ← self (.assignment true)
  let rest ← many do
    let comma := (← token).start
    if !(← eat ",") then return none
    if ← at_ ")" then
      refuseAt comma "unexpected token ',', trailing comma in parenthesized expression"
    return some (← self (.assignment true))
  if !(← at_ ")") then
    refuseFor [")", ","] "CoverParenthesizedExpressionAndArrowParameterList"
  return first :: rest

def parenthesized (self : Meet) : Rule Expr := do
  expect "("
  let parts ← within ({ · with allowsIn := true, inDecorator := false }) do
    if ← isPlain then plainParts self else delimited ")" "," do
      let e ← self (.assignment true)
      if ← foresee do expect ","; at_ ")" then giveUp "Expected \x60)\x60 but found \x60,\x60"
      return e
  if parts.isEmpty then
    expect ")"
    giveUp "Empty parenthesized expression"
  expect ")"
  match parts with
  | [e] => return .paren e
  | parts => return .paren (.sequence parts)

def importExpression (self : Meet) : Rule Expr := do
  let start := (← token).start
  expect "import"
  if ← eat "." then
    let word ← anyWord
    if ← isPlain then refuseAt start "invalid \x60import.meta\x60 expression outside a module"
    if word != "meta" then complain "The only valid meta property for import is import.meta"
    if !(← dialect).isModule then complain "Unexpected import.meta expression"
    return .importMeta
  if (← isPlain) && !(← at_ "(") then refuseFor ["."] "import.meta"
  expect "("
  if ← at_ ")" then giveUp "import() requires a specifier."
  let source ← allowingIn (self (.assignment true))
  let options ← if (← eat ",") && !(← at_ ")") then
      some <$> allowingIn (self (.assignment true))
    else pure none
  let _ ← eat ","
  expect ")"
  return .importCall source options

def templateLiteral (self : Meet) : Rule Expr := do
  let (quasis, values) ← templateParts false (allowingIn (self .expression))
  return .template quasis values

def decoratedClass (self : Meet) : Rule Expr := do
  let decorators ← decorators self
  if ← at_ "class" then classOf self decorators false false
  else unexpected

def checkRegex (t : Token) : Rule Unit := do
  match Regex.read t.text t.flags with
  | .ok _ => pure ()
  | .error f =>
    if f.isFlagFault then refuseAt (t.start + t.text.length + 2) f.message
    else refuseAt t.start ("Invalid regular expression literal: " ++ f.treeMessage)

def nameExpression (t : Token) : Rule Expr := do
  if !isName t then unexpected
  if ← isPlain then refuseWord t
  else if t.text == "yield" && (← context).inGenerator then
    complain "Cannot use \x60yield\x60 as an identifier in a generator context"
  advance
  return .identifier t.text

def primary (self : Meet) : Rule Expr := do
  let t ← token
  match t.kind with
  | .number => do
    if (← isPlain) && t.legacyOctal && (← context).isStrict then
      refuseAt t.start (if t.text.any fun c => c == '8' || c == '9' then
        "leading 0's are not allowed in strict mode"
        else "implicit octal literals are not allowed in strict mode")
    advance
    return .number t.number t.text
  | .bigint => do advance; return .bigint t.natural
  | .string => do
    if (← isPlain) && t.legacyOctal && (← context).isStrict then
      refuseAt t.start "octal escape sequences are not allowed in strict mode"
    advance
    return stringLiteral t
  | .template => templateLiteral self
  | .mark =>
    match t.text with
    | "(" => parenthesized self
    | "[" => arrayLiteral self
    | "\x7b" => objectLiteral self
    | "@" => decoratedClass self
    | "/" | "/=" =>
      let r := Lexer.asRegex t
      setToken (if (← isPlain) && r.kind == .regex then { r with faults := [] } else r)
      if r.kind == .regex then
        if ← isPlain then checkRegex r
        advance
        return .regex r.text r.flags
      else unexpected
    | "<" => if (← dialect).markup then self (.element false) else unexpected
    | _ => unexpected
  | .privateName =>
    let next ← following
    if Token.spells next "in" then do advance; return .privateName t.text else unexpected
  | .word =>
    if t.escaped then nameExpression t
    else match t.text with
    | "this" => do advance; return .this
    | "null" => do advance; return .null
    | "true" => do advance; return .bool true
    | "false" => do advance; return .bool false
    | "function" => functionOf self false false false
    | "class" => classOf self [] false false
    | "import" => importExpression self
    | "super" => do
      advance
      if !(← atAny [".", "[", "("]) then complain "'super' can only be used with function calls or in property accesses"
      return .super
    | "async" =>
      let next ← following
      if Token.spells next "function" && onSameLine next then do
        advance
        functionOf self true false false
      else do advance; return .identifier t.text
    | _ => nameExpression t
  | _ => unexpected

/-- Members, indices, tagged templates and type arguments behind an expression; whether one of the
links is optional. -/
def memberRest (self : Meet) (inChain : Bool) (e : Expr) : Rule (Expr × Bool) := do
  let rec go : Nat → Expr → Bool → Rule (Expr × Bool)
    | 0, e, inChain => return (e, inChain)
    | fuel + 1, e, inChain => do
      let t ← token
      let named (e : Expr) (isOptional : Bool) : Rule Expr := do
        let t ← token
        if t.kind == .privateName then do advance; return .privateMember e isOptional t.text
        if (← isPlain) && t.kind != .word then refuseFor ["identifier"] "member expression"
        return .member e isOptional (← anyWord)
      let indexed (e : Expr) (isOptional : Bool) : Rule Expr := do
        expect "["
        let key ← allowingIn (self .expression)
        expect "]"
        return .index e isOptional key
      match t.kind, t.text with
      | .mark, "." => do advance; go fuel (← named e false) inChain
      | .mark, "?." =>
        let next ← following
        if Token.spells next "(" || Token.spells next "<" || next.kind == .template then
          return (e, inChain)
        advance
        if ← at_ "[" then go fuel (← indexed e true) true else go fuel (← named e true) true
      | .mark, "[" =>
        if (← context).inDecorator then return (e, inChain)
        go fuel (← indexed e false) inChain
      | .mark, "!" =>
        if (← dialect).types && onSameLine t then do advance; go fuel (.nonNull e) inChain
        else return (e, inChain)
      | .template, _ =>
        if inChain then complain "Tagged template expressions are not permitted in an optional chain"
        let (tag, types) := match e with
          | .instantiate tag types => (tag, types)
          | tag => (tag, [])
        let (quasis, values) ← templateParts true (allowingIn (self .expression))
        go fuel (.tagged tag types quasis values) inChain
      | .mark, "<" | .mark, "<<" =>
        match ← typeArgumentsInExpression? self with
        | some types => go fuel (.instantiate e types) inChain
        | none => return (e, inChain)
      | _, _ => return (e, inChain)
  go (← get).fuel e inChain

def marksPure (t : Token) : Bool := t.comments.any fun c =>
  (c.text.splitOn "@__PURE__").length > 1 || (c.text.splitOn "#__PURE__").length > 1

def newExpression (self : Meet) : Rule Expr := do
  let rec go : Nat → Rule Expr
    | 0 => unexpected
    | fuel + 1 => do
      let isPure := marksPure (← token)
      expect "new"
      if ← eat "." then
        if (← isPlain) && !(← at_ "target") then refuseFor ["target"] "new.target"
        if (← anyWord) != "target" then giveUp "The only valid meta property for new is new.target"
        if !(← isPlain) && !(← context).inFunction then complain "Unexpected new.target expression"
        return .newTarget
      let callee ← if ← at_ "new" then go fuel else primary self
      let (callee, inChain) ← memberRest self false callee
      if inChain || (← at_ "?.") then
        complain "Optional chaining cannot appear in the callee of new expressions"
      if let (false, .importCall ..) := (← isPlain, callee) then
        complain "Cannot use new with dynamic import"
      let (callee, types) := match callee with
        | .instantiate callee types => (callee, types)
        | callee => (callee, [])
      let args ← if ← at_ "(" then arguments self else pure []
      return .new callee types args isPure
  go (← get).fuel

def leftHandSide (self : Meet) : Rule Expr := do
  let isPure := marksPure (← token)
  let first ← if ← at_ "new" then newExpression self else primary self
  let rec go : Nat → Expr → Bool → Rule (Expr × Bool)
    | 0, e, inChain => return (e, inChain)
    | fuel + 1, e, inChain => do
      let (e, inChain) ← memberRest self inChain e
      let isOptional ← eat "?."
      let inChain := inChain || isOptional
      let types ← if isOptional then typeArgumentsInExpression? self else pure none
      let (e, types) := match e, types with
        | .instantiate callee types, none => (callee, some types)
        | e, types => (e, types)
      if ← at_ "(" then
        let args ← arguments self
        go fuel (.call e isOptional (types.getD []) args isPure) inChain
      else
        if isOptional then
          if ← atKind .template then
            complain "Tagged template expressions are not permitted in an optional chain"
          else unexpected
        return (types.elim e (.instantiate e), inChain)
  let (e, inChain) ← go (← get).fuel first false
  if inChain then return .chain e else return e

def unaryOp? : String → Option UnaryOp
  | "+" => some .plus
  | "-" => some .minus
  | "!" => some .not
  | "~" => some .bitNot
  | "typeof" => some .typeOf
  | "void" => some .void
  | "delete" => some .delete
  | _ => none

def startsAwait : Rule Bool := do
  if !(← at_ "await") then return false
  let c ← context
  if c.inAsync || ((← dialect).isModule && !c.inFunction) then return true
  let next ← following
  return onSameLine next && match next.kind with
    | .word => !(["in", "instanceof", "of", "as", "satisfies"].contains next.text)
    | .string | .number | .bigint | .privateName => true
    | _ => false

def awaitComplaint : String :=
  "\x60await\x60 is only allowed within async functions and at the top levels of modules"

def awaitExpression (self : Meet) : Rule Expr := do
  let c ← context
  if !(c.inAsync || ((← dialect).isModule && !c.inFunction)) then
    complain awaitComplaint
  expect "await"
  return .await (← within ({ · with inAsync := true }) (self .unary))

def checkDeleted (place : Nat) (operand : Expr) : Rule Unit := do
  let rec bare : Nat → Expr → Expr
    | fuel + 1, .paren e => bare fuel e
    | fuel + 1, .chain e => bare fuel e
    | _, e => e
  match bare 8 operand with
  | .identifier _ =>
    if (← context).isStrict then refuseAt place "cannot delete variables in strict mode"
  | .privateMember .. => refuseAt place "cannot delete private fields"
  | _ => pure ()

def unary (self : Meet) : Rule Expr := do
  let t ← token
  let isBare := t.kind == .mark || (t.kind == .word && !t.escaped)
  match if isBare then unaryOp? t.text else none with
  | some op => do
    advance
    let operand ← self .unary
    if (← isPlain) && op == .delete then checkDeleted t.start operand
    return .unary op operand
  | none =>
    if ← startsAwait then awaitExpression self
    else if ← atAny ["++", "--"] then
      advance
      let target ← self .unary
      return .update (t.text == "++") true (← simpleTarget (← get).fuel target)
    else
      let e ← leftHandSide self
      let t ← token
      if (Token.spells t "++" || Token.spells t "--") && onSameLine t then
        let target ← simpleTarget (← get).fuel e
        advance
        return .update (t.text == "++") false target
      else return e

inductive Operator
  | binary (op : BinaryOp)
  | logical (op : LogicalOp)
  | asType
  | satisfies

def operator? (t : Token) : Option (Nat × Operator) :=
  if t.kind == .mark then
    match t.text with
    | "??" => some (1, .logical .coalesce)
    | "||" => some (2, .logical .or)
    | "&&" => some (3, .logical .and)
    | "|" => some (4, .binary .bitOr)
    | "^" => some (5, .binary .bitXor)
    | "&" => some (6, .binary .bitAnd)
    | "==" => some (7, .binary .equal)
    | "!=" => some (7, .binary .notEqual)
    | "===" => some (7, .binary .same)
    | "!==" => some (7, .binary .notSame)
    | "<" => some (8, .binary .less)
    | "<=" => some (8, .binary .lessEqual)
    | ">" => some (8, .binary .greater)
    | ">=" => some (8, .binary .greaterEqual)
    | "<<" => some (9, .binary .shiftLeft)
    | ">>" => some (9, .binary .shiftRight)
    | ">>>" => some (9, .binary .shiftRightZero)
    | "+" => some (10, .binary .add)
    | "-" => some (10, .binary .sub)
    | "*" => some (11, .binary .mul)
    | "/" => some (11, .binary .div)
    | "%" => some (11, .binary .rem)
    | "**" => some (12, .binary .pow)
    | _ => none
  else if t.kind == .word && !t.escaped then
    match t.text with
    | "in" => some (8, .binary .isIn)
    | "instanceof" => some (8, .binary .instanceOf)
    | "as" => some (8, .asType)
    | "satisfies" => some (8, .satisfies)
    | _ => none
  else none

def isMixed (e : Expr) : Option Bool :=
  match e with
  | .logical .coalesce .. => some false
  | .logical .. => some true
  | _ => none

def mixedConstruct : String :=
  "logical expression (cannot use '??' without parentheses within '||' or '&&')"

def binary (self : Meet) (bound : Nat) : Rule Expr := do
  let left ← self .unary
  let rec go : Nat → Expr → Rule Expr
    | 0, e => return e
    | fuel + 1, left => do
      let t ← token
      let t := if Token.spells t ">" then Lexer.asGreater t else t
      match operator? t with
      | none => return left
      | some (strength, op) =>
        let stops := if strength == 12 then strength < bound else strength ≤ bound
        if stops then return left
        if Token.spells t "in" && !(← context).allowsIn then return left
        if strength == 12 && (← isPlain) then
          match left with
          | .unary .. | .await _ => return left
          | _ => pure ()
        let isTyped := (← dialect).types
        match op with
        | .asType | .satisfies =>
          if !isTyped || t.afterBreak then return left
          advance
          let isConst := (← at_ "const") && t.text == "as"
          let type ← if isConst then do
              advance
              pure (TypeNode.reference (.identifier "const") [])
            else self .type
          go fuel (if t.text == "as" then .asType left type else .satisfies left type)
        | .logical op => do
          if (← isPlain) && (isMixed left) == some (op == .coalesce) then
            refuseFor ["??"] mixedConstruct
          advance
          let right ← self (.binary (if op == .coalesce && (← isPlain) then 3 else strength))
          if op == .coalesce then
            if ((isMixed right).or (isMixed left)) == some true then
              complain "Logical expressions and coalesce expressions cannot be mixed"
          go fuel (.logical op left right)
        | .binary op => do
          setToken { t with faults := [] }
          advance
          let right ← self (.binary strength)
          if op == .pow then
            match left with
            | .unary .. | .await _ =>
              complain "Unexpected exponentiation expression"
            | _ => pure ()
          go fuel (.binary op left right)
  go (← get).fuel left

def assignOp? (t : Token) : Option AssignOp :=
  if t.kind != .mark then none
  else match t.text with
    | "=" => some .plain
    | "+=" => some (.binary .add)
    | "-=" => some (.binary .sub)
    | "*=" => some (.binary .mul)
    | "/=" => some (.binary .div)
    | "%=" => some (.binary .rem)
    | "**=" => some (.binary .pow)
    | "<<=" => some (.binary .shiftLeft)
    | ">>=" => some (.binary .shiftRight)
    | ">>>=" => some (.binary .shiftRightZero)
    | "&=" => some (.binary .bitAnd)
    | "|=" => some (.binary .bitOr)
    | "^=" => some (.binary .bitXor)
    | "&&=" => some (.logical .and)
    | "||=" => some (.logical .or)
    | "??=" => some (.logical .coalesce)
    | _ => none

/-- Whether parentheses begin the parameters of an arrow function; none if only reading on tells. -/
def startsArrow : Rule (Option Bool) := do
  let test : Rule (Option Bool) := do
    if ← eat "async" then
      let t ← token
      if t.afterBreak then return some false
      if !(Token.spells t "(") && !(Token.spells t "<") then return some false
    if ← eat "(" then
      let second ← token
      if ← eat ")" then
        return some (← atAny ["=>", ":", "\x7b"])
      if Token.spells second "[" || Token.spells second "\x7b" then return none
      if Token.spells second "..." then return some true
      if (parameterWords ++ ["static", "abstract", "declare", "async"]).any (Token.spells second) &&
          second.text != "async" then
        let next ← following
        if isName next && next.text != "as" && (← dialect).types then return some true
      if !(isName second) && !(Token.spells second "this") && !(Token.spells second "@") then
        return some false
      if Token.spells second "@" then return none
      advance
      if ← at_ ":" then return some (← dialect).types
      if ← at_ "?" then
        advance
        return some (← atAny [":", ",", "=", ")"])
      if ← atAny [",", "=", ")"] then return none
      return some false
    else if ← eat "<" then
      if !(← dialect).types then return some false
      let t ← token
      if !(isName t) && !(Token.spells t "const") then return some false
      if (← dialect).markup then
        let _ ← eat "const"
        advance
        if ← eat "extends" then return some (!(← atAny ["=", ">", "/"]))
        return some (← atAny [",", "="])
      return none
    else return some false
  lookahead test

def arrowBody (self : Meet) (isAsync allowsResult : Bool) : Rule Stmt := do
  if (← token).afterBreak then complain "Line terminator not permitted before arrow"
  expect "=>"
  if ← at_ "\x7b" then reading "arrow function" do
    return .block (← within (functionContext isAsync false) (self .functionBody))
  else
    let c ← context
    let allowsIn := c.allowsIn
    return .expression (← within
      (fun c => { c with inAsync := isAsync, inGenerator := false, allowsIn, inFunction := true })
      (self (.assignment allowsResult)))

structure ArrowHead where
  isAsync : Bool
  typeParams : List TypeNode
  params : List Expr
  result : Option TypeNode

def arrowHead (self : Meet) : Rule ArrowHead := do
  let isAsync ← eat "async"
  within (fun c => { c with inAsync := c.inAsync || isAsync }) do
    let typeParams ← typeParameters self
    let params ← parameters self
    let result ← resultAnnotation? self
    return { isAsync, typeParams, params, result }

def arrowOf (start : Nat) (h : ArrowHead) (body : Stmt) : Rule Expr := do
  if ← isPlain then
    checkParams start true h.params (match body with
      | .block body => body
      | _ => [])
  return .arrow h.isAsync h.typeParams h.params h.result body

def parenthesizedArrow? (self : Meet) (allowsResult : Bool) : Rule (Option Expr) := do
  if !(← atAny ["(", "<", "async"]) then return none
  match ← startsArrow with
  | some false => return none
  | some true => do
    let start := (← token).start
    let head ← arrowHead self
    return some (← arrowOf start head (← arrowBody self head.isAsync allowsResult))
  | none =>
    let place := (← token).start
    if (← get).notArrow.contains place then return none
    let found ← attempt do
      let head ← arrowHead self
      if !(← atAny ["=>", "\x7b"]) then return none
      let body ← arrowBody self head.isAsync allowsResult
      if !allowsResult && head.result.isSome && !(← at_ ":") then return none
      return some (head, body)
    match found with
    | some (head, body) => return some (← arrowOf place head body)
    | none =>
      modify fun s => { s with notArrow := place :: s.notArrow }
      return none

def plainParam (name : String) : Expr := .param [] {} (.identifier name) none none

def asyncArrow? (self : Meet) (allowsResult : Bool) : Rule (Option Expr) := do
  if !(← at_ "async") then return none
  let next ← following
  if !(isName next) || next.afterBreak then return none
  let isArrow ← foresee do advance; advance; at_ "=>"
  if !isArrow then return none
  advance
  let isPlain ← isPlain
  let name ← within (fun c => { c with inAsync := c.inAsync || !isPlain }) bindingName
  let body ← arrowBody self true allowsResult
  return some (.arrow true [] [plainParam name] none body)

def startsYield : Rule Bool := do
  if !(← at_ "yield") then return false
  if (← context).inGenerator then return true
  let next ← following
  return onSameLine next && (next.kind == .string || next.kind == .number ||
    (next.kind == .word && !(["in", "instanceof", "of", "as", "satisfies"].contains next.text)))

def yieldExpression (self : Meet) : Rule Expr := do
  if !(← context).inGenerator then
    complain "A 'yield' expression is only allowed in a generator body."
  expect "yield"
  let t ← token
  if t.afterBreak then return .yield false none
  let isDelegate ← eat "*"
  let t ← token
  let ends := t.kind == .eof || [":", ",", ";", ")", "]", "\x7d", "in"].any (Token.spells t)
  if ends && !isDelegate then return .yield false none
  return .yield isDelegate (some (← self (.assignment true)))

def assignmentRest (self : Meet) (allowsResult : Bool) (left : Expr) : Rule Expr := do
  let t ← token
  let t := if Token.spells t ">" then Lexer.asGreater t else t
  if let (.identifier name, true) := (left, Token.spells t "=>") then
    return .arrow false [] [plainParam name] none (← arrowBody self false allowsResult)
  match assignOp? t with
  | some op =>
    let fuel := (← get).fuel
    let target ← match op with
      | .plain => assignmentTarget fuel left
      | _ => simpleTarget fuel left
    setToken { t with faults := [] }
    advance
    return .assign op target (← self (.assignment allowsResult))
  | none =>
    if ← eat "?" then
      let yes ← allowingIn (self (.assignment false))
      expect ":"
      return .conditional left yes (← self (.assignment allowsResult))
    else return left

def assignment (self : Meet) (allowsResult : Bool) : Rule Expr := do
  if ← startsYield then return ← yieldExpression self
  if let some e ← parenthesizedArrow? self allowsResult then return e
  if let some e ← asyncArrow? self allowsResult then return e
  let left ← self (.binary 0)
  assignmentRest self allowsResult left

def expression (self : Meet) : Rule Expr := do
  let first ← self (.assignment true)
  if !(← at_ ",") then return first
  let rest ← many do if ← eat "," then return some (← self (.assignment true)) else return none
  return .sequence (first :: rest)

end PagePreview.Script.Grammar
