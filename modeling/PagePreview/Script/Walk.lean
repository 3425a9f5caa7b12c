import PagePreview.Script.Tree

/-! One step down a tree: a node with every expression, statement and type right below it put through
a function, in the order in which they were written. The names of a node are left alone: a key that is
not computed, and the tag of an element with its type arguments. -/

namespace PagePreview.Script

structure Visit (m : Type → Type) [Monad m] where
  expr : Expr → m Expr
  stmt : Stmt → m Stmt
  type : TypeNode → m TypeNode := pure

namespace Visit
variable {m : Type → Type} [Monad m]

def list {α : Type} (f : α → m α) : List α → m (List α)
  | [] => pure []
  | a :: as => do
    let b ← f a
    let bs ← list f as
    pure (b :: bs)

def option {α : Type} (f : α → m α) : Option α → m (Option α)
  | none => pure none
  | some a => do
    let b ← f a
    pure (some b)

def exprs (v : Visit m) : List Expr → m (List Expr) := list v.expr
def stmts (v : Visit m) : List Stmt → m (List Stmt) := list v.stmt
def expr? (v : Visit m) : Option Expr → m (Option Expr) := option v.expr
def stmt? (v : Visit m) : Option Stmt → m (Option Stmt) := option v.stmt
def stmts? (v : Visit m) : Option (List Stmt) → m (Option (List Stmt)) := option v.stmts
def types (v : Visit m) : List TypeNode → m (List TypeNode) := list v.type
def type? (v : Visit m) : Option TypeNode → m (Option TypeNode) := option v.type

def key (v : Visit m) (isComputed : Bool) (k : Expr) : m Expr := if isComputed then v.expr k else pure k

end Visit

def Stmt.uncommented : Stmt → Stmt
  | .commented _ s => s
  | s => s

def TypeNode.descend {m : Type → Type} [Monad m] (v : Visit m) (t : TypeNode) : m TypeNode :=
  match t with
  | .word _ => pure t
  | .reference name args => return .reference (← v.expr name) (← v.types args)
  | .literal value => return .literal (← v.expr value)
  | .template quasis types => return .template quasis (← v.types types)
  | .array element => return .array (← v.type element)
  | .tuple elements => return .tuple (← v.types elements)
  | .optional type => return .optional (← v.type type)
  | .rest type => return .rest (← v.type type)
  | .named label isOptional type => return .named label isOptional (← v.type type)
  | .union types => return .union (← v.types types)
  | .intersection types => return .intersection (← v.types types)
  | .conditional check extend yes no =>
    return .conditional (← v.type check) (← v.type extend) (← v.type yes) (← v.type no)
  | .infer name constraint => return .infer name (← v.type? constraint)
  | .operator op type => return .operator op (← v.type type)
  | .indexed base key => return .indexed (← v.type base) (← v.type key)
  | .mapped name keys rename optionalMark readonlyMark type =>
    return .mapped name (← v.type keys) (← v.type? rename) optionalMark readonlyMark (← v.type? type)
  | .function tps params result =>
    return .function (← v.types tps) (← v.exprs params) (← v.type result)
  | .constructor isAbstract tps params result =>
    return .constructor isAbstract (← v.types tps) (← v.exprs params) (← v.type result)
  | .query name args => return .query (← v.expr name) (← v.types args)
  | .importType argument options qualifier args =>
    return .importType (← v.expr argument) (← v.expr? options) (← v.expr? qualifier) (← v.types args)
  | .object members => return .object (← v.types members)
  | .predicate asserts name type => return .predicate asserts name (← v.type? type)
  | .paren type => return .paren (← v.type type)
  | .typeParam name constraint fallback words =>
    return .typeParam name (← v.type? constraint) (← v.type? fallback) words
  | .property k isComputed isOptional isReadonly type =>
    return .property (← v.key isComputed k) isComputed isOptional isReadonly (← v.type? type)
  | .method kind k isComputed isOptional tps params result =>
    return .method kind (← v.key isComputed k) isComputed isOptional (← v.types tps) (← v.exprs params)
      (← v.type? result)
  | .call tps params result => return .call (← v.types tps) (← v.exprs params) (← v.type? result)
  | .construct tps params result =>
    return .construct (← v.types tps) (← v.exprs params) (← v.type? result)
  | .index name key type isReadonly isStatic =>
    return .index name (← v.type key) (← v.type type) isReadonly isStatic
  | .commented comments node => return .commented comments (← v.type node)

def Expr.descend {m : Type → Type} [Monad m] (v : Visit m) (e : Expr) : m Expr :=
  match e with
  | .identifier _ | .privateName _ | .this | .super | .null | .bool _ | .number .. | .bigint _
  | .string .. | .regex .. | .hole | .importMeta | .newTarget
  | .jsxText _ | .jsxHole _ | .jsxName _ | .jsxNamespaced .. | .jsxString _ => pure e
  | .thisParam type => return .thisParam (← v.type? type)
  | .indexMember type => return .indexMember (← v.type type)
  | .template quasis values => return .template quasis (← v.exprs values)
  | .tagged tag types quasis values => 
    return .tagged (← v.expr tag) (← v.types types) quasis (← v.exprs values)
  | .array elements => return .array (← v.exprs elements)
  | .spread value => return .spread (← v.expr value)
  | .object properties => return .object (← v.exprs properties)
  | .property k isComputed isShort value =>
    return .property (← v.key isComputed k) isComputed isShort (← v.expr value)
  | .method kind k isComputed f => return .method kind (← v.key isComputed k) isComputed (← v.expr f)
  | .coverDefault name value => return .coverDefault name (← v.expr value)
  | .function name isAsync isGenerator isDeclare tps params result body =>
    return .function name isAsync isGenerator isDeclare (← v.types tps) (← v.exprs params) (← v.type? result)
      (← v.stmts? body)
  | .arrow isAsync tps params result body =>
    return .arrow isAsync (← v.types tps) (← v.exprs params) (← v.type? result) (← v.stmt body)
  | .param ds mods pattern type fallback =>
    return .param (← v.exprs ds) mods (← v.expr pattern) (← v.type? type) (← v.expr? fallback)
  | .restParam ds pattern type =>
    return .restParam (← v.exprs ds) (← v.expr pattern) (← v.type? type)
  | .class ds isDeclare isAbstract name tps parent parentArgs implements members =>
    return .class (← v.exprs ds) isDeclare isAbstract name (← v.types tps) (← v.expr? parent)
      (← v.types parentArgs) (← v.types implements) (← v.exprs members)
  | .methodMember ds mods kind k isComputed f =>
    return .methodMember (← v.exprs ds) mods kind (← v.key isComputed k) isComputed (← v.expr f)
  | .fieldMember ds mods k isComputed type value =>
    return .fieldMember (← v.exprs ds) mods (← v.key isComputed k) isComputed (← v.type? type)
      (← v.expr? value)
  | .staticBlock body => return .staticBlock (← v.stmts body)
  | .unary op operand => return .unary op (← v.expr operand)
  | .update isIncrement isPrefixed target => return .update isIncrement isPrefixed (← v.expr target)
  | .binary op left right => return .binary op (← v.expr left) (← v.expr right)
  | .logical op left right => return .logical op (← v.expr left) (← v.expr right)
  | .assign op target value => return .assign op (← v.expr target) (← v.expr value)
  | .conditional test yes no => return .conditional (← v.expr test) (← v.expr yes) (← v.expr no)
  | .sequence parts => return .sequence (← v.exprs parts)
  | .await operand => return .await (← v.expr operand)
  | .yield isDelegate operand => return .yield isDelegate (← v.expr? operand)
  | .new callee types args isPure =>
    return .new (← v.expr callee) (← v.types types) (← v.exprs args) isPure
  | .call callee isOptional types args isPure =>
    return .call (← v.expr callee) isOptional (← v.types types) (← v.exprs args) isPure
  | .member base isOptional name => return .member (← v.expr base) isOptional name
  | .privateMember base isOptional name => return .privateMember (← v.expr base) isOptional name
  | .index base isOptional k => return .index (← v.expr base) isOptional (← v.expr k)
  | .chain links => return .chain (← v.expr links)
  | .importCall source options => return .importCall (← v.expr source) (← v.expr? options)
  | .paren inner => return .paren (← v.expr inner)
  | .asType operand type => return .asType (← v.expr operand) (← v.type type)
  | .satisfies operand type => return .satisfies (← v.expr operand) (← v.type type)
  | .nonNull operand => return .nonNull (← v.expr operand)
  | .instantiate operand types => return .instantiate (← v.expr operand) (← v.types types)
  | .objectPattern properties => return .objectPattern (← v.exprs properties)
  | .arrayPattern elements => return .arrayPattern (← v.exprs elements)
  | .defaultPattern target value => return .defaultPattern (← v.expr target) (← v.expr value)
  | .restPattern target => return .restPattern (← v.expr target)
  | .typed pattern isDefinite type => return .typed (← v.expr pattern) isDefinite (← v.type type)
  | .declarator target value => return .declarator (← v.expr target) (← v.expr? value)
  | .element name types attributes children isEmpty =>
    return .element name types (← v.exprs attributes) (← v.exprs children) isEmpty
  | .fragment children => return .fragment (← v.exprs children)
  | .jsxContainer value => return .jsxContainer (← v.expr value)
  | .jsxSpread value => return .jsxSpread (← v.expr value)
  | .jsxAttribute name value => return .jsxAttribute name (← v.expr? value)
  | .jsxSpreadAttribute value => return .jsxSpreadAttribute (← v.expr value)
  | .jsxMember base name => return .jsxMember (← v.expr base) name
  | .enumMember k isComputed value =>
    return .enumMember (← v.key isComputed k) isComputed (← v.expr? value)
  | .commented comments node => return .commented comments (← v.expr node)

def Stmt.descend {m : Type → Type} [Monad m] (v : Visit m) (s : Stmt) : m Stmt :=
  match s with
  | .empty | .debugger | .directive _ | .continue _ | .break _ | .importFrom .. | .exportFrom ..
  | .exportAll .. | .exportNamespace _ | .remarks _ => pure s
  | .typeAlias isDeclare name tps type =>
    return .typeAlias isDeclare name (← v.types tps) (← v.type type)
  | .interface isDeclare name tps parents members =>
    return .interface isDeclare name (← v.types tps) (← v.types parents) (← v.types members)
  | .block body => return .block (← v.stmts body)
  | .expression value => return .expression (← v.expr value)
  | .vars isDeclare kind list => return .vars isDeclare kind (← v.exprs list)
  | .declaration value => return .declaration (← v.expr value)
  | .cond test yes no => return .cond (← v.expr test) (← v.stmt yes) (← v.stmt? no)
  | .loop init test update body =>
    return .loop (← v.stmt? init) (← v.expr? test) (← v.expr? update) (← v.stmt body)
  | .loopIn left right body => return .loopIn (← v.stmt left) (← v.expr right) (← v.stmt body)
  | .loopOf isAwait left right body =>
    return .loopOf isAwait (← v.stmt left) (← v.expr right) (← v.stmt body)
  | .while test body => return .while (← v.expr test) (← v.stmt body)
  | .doWhile body test => return .doWhile (← v.stmt body) (← v.expr test)
  | .return value => return .return (← v.expr? value)
  | .throw value => return .throw (← v.expr value)
  | .with object body => return .with (← v.expr object) (← v.stmt body)
  | .switch subject cases => return .switch (← v.expr subject) (← v.stmts cases)
  | .case test body => return .case (← v.expr? test) (← v.stmts body)
  | .labeled label body => return .labeled label (← v.stmt body)
  | .try body param handler finalizer =>
    return .try (← v.stmts body) (← v.expr? param) (← v.stmts? handler) (← v.stmts? finalizer)
  | .exportDeclaration d => return .exportDeclaration (← v.stmt d)
  | .exportDefault d => return .exportDefault (← v.stmt d)
  | .exportAssign value => return .exportAssign (← v.expr value)
  | .importAlias isType name value => return .importAlias isType name (← v.expr value)
  | .enum isDeclare isConst name members => return .enum isDeclare isConst name (← v.exprs members)
  | .space isDeclare word name body => return .space isDeclare word name (← v.stmts? body)
  | .commented comments node => return .commented comments (← v.stmt node)

end PagePreview.Script
