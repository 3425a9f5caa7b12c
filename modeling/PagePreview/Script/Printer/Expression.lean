import PagePreview.Script.Printer.Core

/-! How types, patterns and expressions are written. -/

namespace PagePreview.Script.Printer

def expr (self : Show) (level : Level) (e : Expr) : Write Unit := self (.expr level {} e)

def type (self : Show) (t : TypeNode) : Write Unit := self (.type t)

def typeAfterColon (self : Show) : Option TypeNode → Write Unit
  | none => pure ()
  | some t => do put ": "; type self t

def key (self : Show) (isComputed : Bool) (e : Expr) : Write Unit := do
  if isComputed then
    put "["
    expr self Level.comma e
    put "]"
  else match e with
    | .identifier name => put name
    | .privateName name => put ("#" ++ name)
    | e => expr self Level.comma e

def typeArgs (self : Show) (types : List TypeNode) : Write Unit := do
  if !types.isEmpty then
    put "<"
    commaList (type self) types
    put ">"

def typeParams (self : Show) (params : List TypeNode) : Write Unit := do
  match params with
  | [] => pure ()
  | [p] => do
    put "<"
    type self p
    put ",>"
  | params => do
    put "<\n"
    deeper do
      let mut isFirst := true
      for p in params do
        if !isFirst then put ",\n"
        isFirst := false
        indent
        type self p
    newline
    indent
    put ">"

def signature (self : Show) (tps : List TypeNode) (params : List Expr) (result : Option TypeNode) :
    Write Unit := do
  typeParams self tps
  put "("
  commaList (expr self Level.comma) params
  put ")"
  typeAfterColon self result

def templateParts {α : Type} (f : α → Write Unit) : List Quasi → List α → Write Unit
  | [], _ => pure ()
  | [q], _ => put q.raw
  | q :: qs, [] => do put q.raw; templateParts f qs []
  | q :: qs, v :: vs => do
    put q.raw
    put "$\x7b"
    f v
    put "\x7d"
    templateParts f qs vs

def mappedMark (mark word : String) : String :=
  match mark with
  | "" => ""
  | "true" => word
  | sign => sign ++ word

def typeMembers (self : Show) (members : List TypeNode) : Write Unit :=
  braces members.isEmpty do
    for m in members do
      let m ← match m with
        | .commented comments m => do putComments comments; pure m
        | m => pure m
      indent
      type self m
      endStatement

def joined (self : Show) (mark : String) : List TypeNode → Write Unit
  | [] => pure ()
  | [t] => type self t
  | t :: ts => do
    type self t
    put mark
    joined self mark ts

def typeRule (self : Show) (t : TypeNode) : Write Unit := do
  match t with
  | .word name => put name
  | .reference name args => do expr self Level.lowest name; typeArgs self args
  | .literal e => expr self Level.lowest e
  | .template quasis types => do
    put "\x60"
    templateParts (type self) quasis types
    put "\x60"
  | .array t => do type self t; put "[]"
  | .tuple ts => do
    put "["
    commaList (type self) ts
    put "]"
  | .optional t => do type self t; put "?"
  | .rest t => do put "..."; type self t
  | .named label isOptional t => do
    put (label ++ if isOptional then "?: " else ": ")
    type self t
  | .union ts => joined self " | " ts
  | .intersection ts => joined self " & " ts
  | .conditional check extend yes no => do
    type self check
    put " extends "
    type self extend
    put " ? "
    type self yes
    put " : "
    type self no
  | .infer name constraint => do
    put ("infer " ++ name)
    if let some t := constraint then put " extends "; type self t
  | .operator w t => do put (w ++ " "); type self t
  | .indexed object index => do
    type self object
    put "["
    type self index
    put "]"
  | .mapped name keys rename optionalMark readonlyMark t => do
    put "\x7b "
    put (mappedMark readonlyMark "readonly ")
    put ("[" ++ name ++ " in ")
    type self keys
    if let some r := rename then put " as "; type self r
    put "]"
    put (mappedMark optionalMark "?")
    typeAfterColon self t
    put " \x7d"
  | .function tps params result => do
    signature self tps params none
    put " => "
    type self result
  | .constructor isAbstract tps params result => do
    put (if isAbstract then "abstract new " else "new ")
    signature self tps params none
    put " => "
    type self result
  | .query name args => do
    put "typeof "
    expr self Level.lowest name
    typeArgs self args
  | .importType argument options qualifier args => do
    put "import("
    expr self Level.comma argument
    if let some o := options then put ", "; expr self Level.comma o
    put ")"
    if let some q := qualifier then put "."; expr self Level.lowest q
    typeArgs self args
  | .object members => typeMembers self members
  | .predicate asserts name t => do
    put ((if asserts then "asserts " else "") ++ name)
    if let some t := t then put " is "; type self t
  | .paren t => do
    put "("
    type self t
    put ")"
  | .typeParam name constraint fallback words => do
    for w in words do put (w ++ " ")
    put name
    if let some t := constraint then put " extends "; type self t
    if let some t := fallback then put " = "; type self t
  | .property k isComputed isOptional isReadonly t => do
    if isReadonly then put "readonly "
    key self isComputed k
    if isOptional then put "?"
    typeAfterColon self t
  | .method kind k isComputed isOptional tps params result => do
    match kind with
      | .getter => put "get "
      | .setter => put "set "
      | _ => pure ()
    key self isComputed k
    if isOptional then put "?"
    signature self tps params result
  | .call tps params result => signature self tps params result
  | .construct tps params result => do put "new "; signature self tps params result
  | .index name k t isReadonly isStatic => do
    if isStatic then put "static "
    if isReadonly then put "readonly "
    put ("[" ++ name ++ ": ")
    type self k
    put "]: "
    type self t
  | .commented _ t => type self t

def block (self : Show) (body : List Stmt) : Write Unit :=
  braces body.isEmpty do for s in body do self (.stmt s)

def isWrappedDecorator : Expr → Bool
  | .identifier _ | .member .. | .privateMember .. => false
  | .call callee .. => isWrappedDecorator callee
  | _ => true

def decoratorList (self : Show) (ds : List Expr) : Write Unit := do
  for d in ds do
    put "@"
    wrapIf (isWrappedDecorator d) (expr self Level.lowest d)
    put " "

def modifierWords (m : Modifiers) (isField : Bool) : Write Unit := do
  if m.isDeclare && isField then put "declare "
  if let some w := m.accessibility then put (w ++ " ")
  if m.isAbstract then put "abstract "
  if m.isStatic then put "static "
  if m.isOverride then put "override "
  if m.isReadonly then put "readonly "
  if m.isAccessor then put "accessor "

def functionRest (self : Show) (f : Expr) : Write Unit := do
  match f with
  | .function _ _ _ _ tps params result body => do
    signature self tps params result
    match body with
    | some body => do put " "; block self body
    | none => pure ()
  | _ => pure ()

def isAsyncFunction : Expr → Bool
  | .function _ isAsync .. => isAsync
  | _ => false

def isGeneratorFunction : Expr → Bool
  | .function _ _ isGenerator .. => isGenerator
  | _ => false

def methodRest (self : Show) (kind : MethodKind) (k : Expr) (isComputed isOptional : Bool)
    (f : Expr) : Write Unit := do
  match kind with
    | .getter => put "get "
    | .setter => put "set "
    | _ => pure ()
  if isAsyncFunction f then put "async "
  if isGeneratorFunction f then put "*"
  key self isComputed k
  if isOptional then put "?"
  functionRest self f

def hasBody : Expr → Bool
  | .function _ _ _ _ _ _ _ body => body.isSome
  | _ => false

def member (self : Show) (m : Expr) : Write Unit := do
  let m ← match m with
    | .commented comments m => do putComments comments; pure m
    | m => pure m
  indent
  match m with
  | .methodMember ds mods kind k isComputed f => do
    decoratorList self ds
    modifierWords mods false
    methodRest self kind k isComputed mods.isOptional f
    if !hasBody f then put ";"
    newline
  | .fieldMember ds mods k isComputed t value => do
    decoratorList self ds
    modifierWords mods true
    key self isComputed k
    if mods.isOptional then put "?"
    typeAfterColon self t
    if let some v := value then
      put " = "
      expr self Level.comma v
    endStatement
  | .staticBlock body => do
    put "static "
    block self body
    newline
  | .indexMember t => do type self t; endStatement
  | m => do expr self Level.lowest m; endStatement

/-- A function or class at the start of a statement or of a default export looks like a
declaration, unless it is in parentheses. -/
def looksDeclared : Write Bool := do
  return (← startsAt (·.statementStart)) || (← startsAt (·.defaultStart))

def function (self : Show) (name : Option String) (isAsync isGenerator isDeclare : Bool) (f : Expr) :
    Write Unit := do
  spaceBeforeWord
  if isDeclare then put "declare "
  if isAsync then put "async "
  put "function"
  if isGenerator then put "* "
  if let some n := name then word n
  functionRest self f
  if !hasBody f then put ";"

def arrow (self : Show) (bans : Bans) (isAsync : Bool) (tps : List TypeNode) (params : List Expr)
    (result : Option TypeNode) (body : Stmt) : Write Unit := do
  if isAsync then word "async "
  signature self tps params result
  put " => "
  match body with
  | .expression e => do
    modify fun o => { o with arrowStart := some o.size }
    self (.expr Level.comma { bans with call := false } e)
  | .block body => block self body
  | _ => pure ()

def classText (self : Show) (ds : List Expr) (isDeclare isAbstract : Bool) (name : Option String)
    (tps : List TypeNode) (parent : Option Expr) (parentArgs implements : List TypeNode)
    (members : List Expr) : Write Unit := do
  decoratorList self ds
  spaceBeforeWord
  if isDeclare then put "declare "
  if isAbstract then put "abstract "
  put "class"
  if let some n := name then put (" " ++ n)
  typeParams self tps
  if let some p := parent then
    put " extends "
    expr self Level.postfixed p
    typeArgs self parentArgs
  if !implements.isEmpty then
    put " implements "
    commaList (type self) implements
  put " "
  braces members.isEmpty do for m in members do member self m

def declaration (self : Show) (e : Expr) : Write Unit := do
  match e with
  | .function name isAsync isGenerator isDeclare _ _ _ _ =>
    function self name isAsync isGenerator isDeclare e
  | .class ds isDeclare isAbstract name tps parent parentArgs implements members =>
    classText self ds isDeclare isAbstract name tps parent parentArgs implements members
  | e => expr self Level.lowest e

def argumentComments (comments : List Comment) : Write Unit := do
  for c in comments do
    newline
    indent
    putComment c
  newline

def isCommented : Expr → Bool
  | .commented .. => true
  | _ => false

def arguments (self : Show) (bans : Bans) (args : List Expr) : Write Unit := do
  put "("
  let one (e : Expr) : Write Unit := self (.expr Level.comma bans e)
  if args.any isCommented then
    deeper do
      let mut isFirst := true
      for a in args do
        if !isFirst then put ","
        isFirst := false
        match a with
          | .commented comments a => do argumentComments comments; indent; one a
          | a => do newline; indent; one a
      newline
    indent
  else commaList one args
  put ")"

def isShorthand (k : Expr) (isComputed isShort : Bool) (value : Expr) : Bool :=
  !isComputed && match k, value with
    | .identifier "__proto__", _ => isShort
    | .identifier name, .identifier v => name == v
    | .identifier name, .paren (.identifier v) => name == v
    | .identifier name, .defaultPattern (.identifier v) _ => name == v
    | _, _ => false

def property (self : Show) (e : Expr) : Write Unit := do
  match e with
  | .property k isComputed isShort value => do
    if !isShorthand k isComputed isShort value then
      key self isComputed k
      put ": "
    expr self Level.comma value
  | .method kind k isComputed f => methodRest self kind k isComputed false f
  | .coverDefault name value => do
    put (name ++ " = ")
    expr self Level.comma value
  | e => expr self Level.comma e

def lines (f : Expr → Write Unit) (items : List Expr) : Write Unit := do
  deeper do
    let mut isFirst := true
    for i in items do
      if !isFirst then put ","
      isFirst := false
      newline
      indent
      f i
  newline
  indent

def object (self : Show) (properties : List Expr) : Write Unit := do
  put "\x7b"
  match properties with
    | [] => pure ()
    | [p] => do put " "; property self p; put " "
    | properties => lines (property self) properties
  put "\x7d"

def isHole : Expr → Bool
  | .hole => true
  | _ => false

def array (self : Show) (elements : List Expr) : Write Unit := do
  put "["
  let one (e : Expr) : Write Unit := expr self Level.comma e
  if elements.length > 2 then
    deeper do
      let mut isFirst := true
      for e in elements do
        if !isFirst then put ","
        isFirst := false
        newline
        indent
        one e
      if elements.getLast?.any isHole then put ","
    newline
    indent
  else
    commaList one elements
    if elements.getLast?.any isHole then put ","
  put "]"

def arrayPattern (self : Show) (elements : List Expr) : Write Unit := do
  put "["
  commaList (expr self Level.comma) elements
  if elements.getLast?.any isHole then put ","
  put "]"

def objectPattern (self : Show) (properties : List Expr) : Write Unit := do
  if properties.isEmpty then put "\x7b\x7d"
  else
    put "\x7b "
    commaList (property self) properties
    put " \x7d"

def unarySign : UnaryOp → Option Sign
  | .plus => some .plus
  | .minus => some .minus
  | .not => some .not
  | _ => none

def isWordOp : UnaryOp → Bool
  | .typeOf | .void | .delete => true
  | _ => false

def binaryLevel : BinaryOp → Level
  | .equal | .notEqual | .same | .notSame => Level.equal
  | .less | .lessEqual | .greater | .greaterEqual | .isIn | .instanceOf => Level.compare
  | .shiftLeft | .shiftRight | .shiftRightZero => Level.shift
  | .add | .sub => Level.add
  | .mul | .div | .rem => Level.multiply
  | .pow => Level.power
  | .bitOr => Level.bitOr
  | .bitXor => Level.bitXor
  | .bitAnd => Level.bitAnd

def logicalLevel : LogicalOp → Level
  | .and => Level.and
  | .or => Level.or
  | .coalesce => Level.coalesce

def coalesceLevel (e : Expr) (level : Level) : Level :=
  match e with
  | .logical .and .. | .logical .or .. => Level.prefixed
  | _ => level

def powerBase (e : Expr) : Level :=
  match e with
  | .unary .. | .await _ => Level.call
  | _ => Level.power

def infixText (self : Show) (level own left right : Level) (bans : Bans) (forbidden : Bool)
    (op : String) (l r : Expr) : Write Unit := do
  let wraps := level ≥ own || forbidden
  let bans := if wraps then { bans with isIn := false } else bans
  wrapIf wraps do
    self (.expr left { bans with call := false } l)
    put (" " ++ op ++ " ")
    modify fun o => { o with signEnd := none }
    self (.expr right { bans with call := false } r)

def markup (self : Show) (e : Expr) : Write Unit := do
  let children (list : List Expr) : Write Unit := do for c in list do expr self Level.lowest c
  match e with
  | .element name types attributes list isEmpty => do
    put "<"
    expr self Level.lowest name
    typeArgs self types
    for a in attributes do
      put " "
      expr self Level.lowest a
    if isEmpty then put " />"
    else
      put ">"
      children list
      put "</"
      expr self Level.lowest name
      put ">"
  | .fragment list => do
    put "<>"
    children list
    put "</>"
  | .jsxText raw => put raw
  | .jsxHole comments => do
    put "\x7b"
    if !comments.isEmpty then putComments comments
    modify fun o => { o with joined := false }
    put "\x7d"
  | .jsxContainer e => do
    put "\x7b"
    expr self Level.lowest e
    put "\x7d"
  | .jsxSpread e => do
    put "\x7b..."
    expr self Level.lowest e
    put "\x7d"
  | .jsxAttribute name value => do
    expr self Level.lowest name
    if let some v := value then
      put "="
      expr self Level.lowest v
  | .jsxSpreadAttribute e => do
    put "\x7b..."
    expr self Level.comma e
    put "\x7d"
  | .jsxName name => put name
  | .jsxNamespaced space name => put (space ++ ":" ++ name)
  | .jsxMember object name => do
    match object with
      | .identifier n => put n
      | .this => put "this"
      | e => expr self Level.lowest e
    put ("." ++ name)
  | .jsxString raw =>
    let quote := if raw.contains '"' then "'" else "\""
    put (quote ++ raw ++ quote)
  | _ => pure ()

def memberObject (self : Show) (bans : Bans) (e : Expr) : Write Unit :=
  self (.expr Level.postfixed { call := bans.call } e)

def exprRule (self : Show) (level : Level) (bans : Bans) (e : Expr) : Write Unit := do
  match e with
  | .identifier name => word name
  | .privateName name => put ("#" ++ name)
  | .this => word "this"
  | .super => word "super"
  | .null => word "null"
  | .bool b => word (if b then "true" else "false")
  | .number x _ => putNumber level x
  | .bigint n => word (toString n ++ "n")
  | .string s _ => putString s
  | .regex pattern flags => do
    if (← get).last == '/' then put " "
    put ("/" ++ pattern ++ "/" ++ flags)
    modify fun o => { o with regexEnd := some o.size }
  | .template quasis values => do
    put "\x60"
    templateParts (expr self Level.lowest) quasis values
    put "\x60"
  | .tagged tag types quasis values => do
    expr self Level.postfixed tag
    typeArgs self types
    put "\x60"
    templateParts (expr self Level.lowest) quasis values
    put "\x60"
  | .array elements => array self elements
  | .hole => pure ()
  | .spread e => do put "..."; expr self Level.comma e
  | .object properties => do
    let wraps := (← startsAt (·.statementStart)) || (← startsAt (·.arrowStart))
    wrapIf wraps (object self properties)
  | .property .. | .method .. | .coverDefault .. => property self e
  | .function name isAsync isGenerator isDeclare _ _ _ _ => do
    wrapIf (← looksDeclared) (function self name isAsync isGenerator isDeclare e)
  | .arrow isAsync tps params result body =>
    wrapIf (level ≥ Level.assign) (arrow self bans isAsync tps params result body)
  | .param ds mods pattern t fallback => do
    decoratorList self ds
    modifierWords mods false
    expr self Level.comma pattern
    if mods.isOptional then put "?"
    typeAfterColon self t
    if let some v := fallback then
      put " = "
      expr self Level.comma v
  | .restParam ds pattern t => do
    decoratorList self ds
    put "..."
    expr self Level.comma pattern
    typeAfterColon self t
  | .thisParam t => do put "this"; typeAfterColon self t
  | .class ds isDeclare isAbstract name tps parent parentArgs implements members => do
    wrapIf (← looksDeclared)
      (classText self ds isDeclare isAbstract name tps parent parentArgs implements members)
  | .methodMember .. | .fieldMember .. | .staticBlock _ | .indexMember _ => member self e
  | .unary op operand =>
    wrapIf (level ≥ Level.prefixed) do
      if isWordOp op then do word op.text; put " "
      else putSign op.text (unarySign op)
      self (.expr Level.power { bans with call := false } operand)
  | .update isIncrement isPrefixed target => do
    let text := if isIncrement then "++" else "--"
    let sign : Sign := if isIncrement then .increment else .decrement
    if isPrefixed then
      wrapIf (level ≥ Level.prefixed) do
        putSign text (some sign)
        expr self Level.prefixed target
    else
      wrapIf (level ≥ Level.postfixed) do
        expr self Level.postfixed target
        put text
  | .binary op l r => do
    let own := binaryLevel op
    let left := if op == .pow then powerBase l else own - 1
    let right := if op == .pow then own - 1 else own
    infixText self level own left right bans (op == .isIn && bans.isIn) op.text l r
  | .logical op l r => do
    let own := logicalLevel op
    let (left, right) := match op with
      | .coalesce => (coalesceLevel l (own - 1), coalesceLevel r own)
      | _ => (own - 1, own)
    infixText self level own left right bans false op.text l r
  | .assign op target value => do
    let isObject := match target with
      | .objectPattern _ => true
      | _ => false
    let starts := (← startsAt (·.statementStart)) || (← startsAt (·.arrowStart))
    wrapIf ((starts && isObject) || level ≥ Level.assign) do
      expr self Level.comma target
      put (" " ++ op.text ++ " ")
      self (.expr Level.comma { bans with call := false } value)
  | .conditional test yes no => do
    let wraps := level ≥ Level.conditional
    let bans := if wraps then { bans with isIn := false } else bans
    wrapIf wraps do
      self (.expr Level.conditional { bans with call := false } test)
      put " ? "
      expr self Level.yield yes
      put " : "
      self (.expr Level.yield { bans with call := false } no)
  | .sequence parts =>
    wrapIf (level ≥ Level.comma) (commaList (expr self Level.comma) parts)
  | .await operand =>
    wrapIf (level ≥ Level.prefixed) do
      word "await "
      expr self Level.power operand
  | .yield isDelegate operand =>
    wrapIf (level ≥ Level.assign) do
      word "yield"
      if isDelegate then put "*"
      if let some e := operand then
        put " "
        expr self Level.yield e
  | .new callee types args isPure =>
    wrapIf (level ≥ Level.call || (isPure && level ≥ Level.postfixed)) do
      if isPure then put "/* @__PURE__ */ "
      word "new "
      self (.expr Level.new { call := true } callee)
      typeArgs self types
      arguments self {} args
  | .call callee isOptional types args isPure => do
    let isDefault ← startsAt (·.defaultStart)
    let isStatement ← startsAt (·.statementStart)
    wrapIf (level ≥ Level.new || bans.call || (isPure && level ≥ Level.postfixed)) do
      if isPure then
        put "/* @__PURE__ */ "
        modify fun o =>
          if isDefault then { o with defaultStart := some o.size }
          else if isStatement then { o with statementStart := some o.size }
          else o
      self (.expr Level.postfixed {} callee)
      if isOptional then put "?."
      typeArgs self types
      arguments self {} args
  | .member object isOptional name => do
    memberObject self bans object
    if isOptional then put "?"
    else if ← startsAt (·.wholeEnd) then put " "
    put ("." ++ name)
  | .privateMember object isOptional name => do
    memberObject self bans object
    put ((if isOptional then "?.#" else ".#") ++ name)
  | .index object isOptional k => do
    memberObject self bans object
    put (if isOptional then "?.[" else "[")
    expr self Level.lowest k
    put "]"
  | .chain links => wrapIf (level ≥ Level.postfixed) (self (.expr Level.lowest bans links))
  | .importCall source options =>
    wrapIf (level ≥ Level.new || bans.call) do
      word "import("
      expr self Level.comma source
      if let some o := options then
        put ", "
        expr self Level.comma o
      put ")"
  | .importMeta => word "import.meta"
  | .newTarget => word "new.target"
  -- A function in parentheses keeps them: they tell that it is called soon.
  | .paren inner@(.function name isAsync isGenerator isDeclare _ _ _ _) =>
    wrapIf true (function self name isAsync isGenerator isDeclare inner)
  | .paren (.arrow isAsync tps params result body) =>
    wrapIf true (arrow self bans isAsync tps params result body)
  | .paren inner => self (.expr level bans inner)
  | .asType operand t =>
    wrapIf (level ≥ Level.shift) do
      self (.expr Level.power { bans with call := false } operand)
      put " as "
      type self t
  | .satisfies operand t =>
    wrapIf (level ≥ Level.shift) do
      self (.expr Level.power { bans with call := false } operand)
      put " satisfies "
      type self t
  | .nonNull operand => do
    self (.expr Level.postfixed bans operand)
    put "!"
  | .instantiate operand types => do
    self (.expr Level.postfixed bans operand)
    typeArgs self types
  | .objectPattern properties => objectPattern self properties
  | .arrayPattern elements => arrayPattern self elements
  | .defaultPattern target value => do
    expr self Level.comma target
    put " = "
    expr self Level.comma value
  | .restPattern target => do put "..."; expr self Level.comma target
  | .typed pattern isDefinite t => do
    expr self Level.comma pattern
    if isDefinite then put "!"
    typeAfterColon self (some t)
  | .declarator target value => do
    self (.expr Level.comma bans target)
    if let some v := value then
      put " = "
      self (.expr Level.comma bans v)
  | .enumMember k isComputed value => do
    key self isComputed k
    if let some v := value then
      put " = "
      expr self Level.lowest v
  | .commented _ e => self (.expr level bans e)
  | e => markup self e

end PagePreview.Script.Printer
