import PagePreview.Script.EnumValue
import PagePreview.Script.Walk

/-! Erasure: a program without types. Annotations vanish, declarations of types are dropped, and
what has a meaning when the script runs is written out: enums, namespaces, parameter properties. -/

namespace PagePreview.Script.Erasure

structure State where
  enums : List (String × EnumValue.Table) := []
  used : List String := []

abbrev Erase := EStateM String State

def slot (name : String) (key : Str) : Expr := .index (.identifier name) false (.string key "")

def qualify (name : String) (own : EnumValue.Table) : Nat → Expr → Expr
  | 0, e => e
  | fuel + 1, e =>
    match e with
    | .identifier n => if (own.lookup (.plain n)).isSome then .member (.identifier name) false n else e
    | e => Id.run (e.descend { expr := fun e => pure (qualify name own fuel e), stmt := pure })

def memberKey : Expr → Str
  | .identifier n => .plain n
  | .string s _ => s
  | .template [q] [] => q.cooked.getD .empty
  | _ => .empty

/-- The statement that sets one member: its value under its name, and its name under a value that
is no text. -/
def enumStatement (name : String) (key : Str) (value : Expr) (isText : Bool) : Stmt :=
  let set := Expr.assign .plain (slot name key) value
  .expression (if isText then set
    else .assign .plain (.index (.identifier name) false set) (.string key ""))

structure EnumProgress where
  own : EnumValue.Table := []
  last : Option Str := none
  next : Option Float := some 0
  statements : List Stmt := []

def addMember (enums : List (String × EnumValue.Table)) (fuel : Nat) (name : String)
    (p : EnumProgress) (m : Expr) : EnumProgress :=
  let rec strip : Nat → Expr → Expr
    | fuel + 1, .commented _ m => strip fuel m
    | _, m => m
  match strip 4 m with
  | .enumMember key _ init =>
    let key := memberKey key
    let known : Option EnumValue := match init with
      | some e => EnumValue.ofExpr? enums p.own fuel e
      | none => p.next.map .number
    let value : Expr := match known, init, p.last with
      | some v, _, _ => v.toExpr
      | none, some e, _ => qualify name p.own fuel e
      | none, none, some last => .binary .add (.number 1 "1") (slot name last)
      | none, none, none => .number 0 "0"
    let isText := match known with
      | some (.string _) => true
      | _ => false
    { own := p.own ++ [(key, known)]
      last := some key
      next := match known with
        | some (.number x) => some (x + 1)
        | _ => none
      statements := p.statements ++ [enumStatement name key value isText] }
  | _ => p

/-- An enum as a variable whose value a function fills. In a block the object is new; at the top
level, and for an enum that goes on, it is the one that is there. -/
def enumeration (fuel : Nat) (isTop isExported : Bool) (name : String) (members : List Expr) :
    Erase Stmt := do
  let s ← get
  let earlier := s.enums.lookup name
  let start : EnumProgress := { own := earlier.getD [] }
  let done := members.foldl (addMember s.enums fuel name) start
  set { s with enums := (name, done.own) :: s.enums.filter (·.1 != name) }
  let id := Expr.identifier name
  let body := done.statements ++ [.return (some id)]
  let filler := Expr.function none false false false [] [.param [] {} id none none] none (some body)
  let isFresh := (isExported || !isTop) && earlier.isNone
  let argument := if isFresh then Expr.object [] else .logical .or id (.object [])
  let value := Expr.call filler false [] [argument] true
  return if earlier.isSome then .expression (.assign .plain id value)
    else .vars false (if isFresh then .letVar else .var) [.declarator id (some value)]

def propertyParams (params : List Expr) : List String :=
  params.filterMap fun
    | .param _ m (.identifier name) _ _ =>
      if m.accessibility.isSome || m.isReadonly || m.isOverride then some name else none
    | _ => none

def isParentCall : Stmt → Bool
  | .expression (.call .super ..) => true
  | .commented _ (.expression (.call .super ..)) => true
  | _ => false

def isDirective : Stmt → Bool
  | .directive _ => true
  | .commented _ (.directive _) => true
  | _ => false

/-- Puts statements behind the call of the parent's constructor, else behind the directives. -/
def insertEarly (new : List Stmt) (body : List Stmt) : List Stmt :=
  if body.any isParentCall then
    body.takeWhile (!isParentCall ·) ++ (body.dropWhile (!isParentCall ·)).take 1 ++ new ++
      (body.dropWhile (!isParentCall ·)).drop 1
  else body.takeWhile isDirective ++ new ++ body.dropWhile isDirective

def isThisParam : Expr → Bool
  | .thisParam _ => true
  | _ => false

def withProperties (f : Expr) : Expr :=
  match f with
  | .function name isAsync isGenerator isDeclare tps params result (some body) =>
    let sets := (propertyParams params).map fun n =>
      Stmt.expression (.assign .plain (.member .this false n) (.identifier n))
    .function name isAsync isGenerator isDeclare tps params result
      (some (if sets.isEmpty then body else insertEarly sets body))
  | f => f

def isRealMember : Expr → Bool
  | .indexMember _ => false
  | .methodMember _ m _ _ _ (.function _ _ _ _ _ _ _ body) => body.isSome && !m.isAbstract
  | .fieldMember _ m _ _ _ _ => !m.isDeclare && !m.isAbstract
  | .commented _ (.indexMember _) => false
  | .commented _ (.methodMember _ m _ _ _ (.function _ _ _ _ _ _ _ body)) => body.isSome && !m.isAbstract
  | .commented _ (.fieldMember _ m _ _ _ _) => !m.isDeclare && !m.isAbstract
  | _ => true

def plainModifiers (m : Modifiers) : Modifiers := { isStatic := m.isStatic, isAccessor := m.isAccessor }

def bare (e : Expr) : Expr :=
  match e with
  | .function name isAsync isGenerator _ _ params _ body =>
    .function name isAsync isGenerator false [] (params.filter (!isThisParam ·)) none body
  | .arrow isAsync _ params _ body => .arrow isAsync [] params none body
  | .param ds _ pattern _ fallback => .param ds {} pattern none fallback
  | .restParam ds pattern _ => .restParam ds pattern none
  | .class ds _ _ name _ parent _ _ members =>
    .class ds false false name [] parent [] [] (members.filter isRealMember)
  | .methodMember ds m .constructor key isComputed f =>
    .methodMember ds (plainModifiers m) .constructor key isComputed (withProperties f)
  | .methodMember ds m kind key isComputed f =>
    .methodMember ds (plainModifiers m) kind key isComputed f
  | .fieldMember ds m key isComputed _ value =>
    .fieldMember ds (plainModifiers m) key isComputed none value
  | .tagged tag _ quasis values => .tagged tag [] quasis values
  | .new callee _ args isPure => .new callee [] args isPure
  | .call callee isOptional _ args isPure => .call callee isOptional [] args isPure
  | .typed pattern _ _ => pattern
  | e => e

def isTypeOnly : Stmt → Bool
  | .typeAlias .. | .interface .. => true
  | .vars isDeclare .. => isDeclare
  | .declaration (.function _ _ _ isDeclare _ _ _ body) => isDeclare || body.isNone
  | .declaration (.class _ isDeclare ..) => isDeclare
  | .enum isDeclare .. => isDeclare
  | .importAlias isType .. => isType
  | _ => false

def isUnusedAlias (used : List String) : Stmt → Bool
  | .importAlias _ name _ => !used.contains name
  | _ => false

def isEmptySpace : Nat → Stmt → Bool
  | 0, _ => true
  | fuel + 1, s =>
    match s.uncommented with
    | .space isDeclare _ _ body => isDeclare || (body.getD []).all (isEmptySpace fuel)
    | .exportDeclaration d => isTypeOnly d || isEmptySpace fuel d
    | .exportFrom true .. => true
    | .remarks _ => true
    | s => isTypeOnly s

def boundNames : Nat → Expr → List String
  | 0, _ => []
  | fuel + 1, e =>
    match e with
    | .identifier name => [name]
    | .arrayPattern items => items.flatMap (boundNames fuel)
    | .objectPattern items => items.flatMap (boundNames fuel)
    | .property _ _ _ value => boundNames fuel value
    | .defaultPattern target _ => boundNames fuel target
    | .restPattern target => boundNames fuel target
    | .restParam _ target _ => boundNames fuel target
    | .param _ _ target _ _ => boundNames fuel target
    | .typed target _ _ => boundNames fuel target
    | .declarator target _ => boundNames fuel target
    | .commented _ e => boundNames fuel e
    | _ => []

def exportSet (space name : String) : Stmt :=
  .expression (.assign .plain (.member (.identifier space) false name) (.identifier name))

def nameParts : Nat → Expr → List String
  | fuel + 1, .member object _ name => nameParts fuel object ++ [name]
  | _, .identifier name => [name]
  | _, _ => []

def isBareTarget : Expr → Bool
  | .declarator (.identifier _) _ => true
  | .declarator (.typed (.identifier _) ..) _ => true
  | _ => false

def sharedDeclarator (space : String) : Expr → Expr
  | .declarator target (some value) =>
    let name := (boundNames 3 target).headD ""
    .declarator target (some (.assign .plain (.member (.identifier space) false name) value))
  | d => d

def nested (parts : List String) (body : List Stmt) : List Stmt :=
  match parts with
  | [] => body
  | p :: ps => [.exportDeclaration (.space false "namespace" (.identifier p) (some (nested ps body)))]

inductive Task : Type → Type
  | expr (e : Expr) : Task Expr
  | stmt (s : Stmt) : Task Stmt
  | stmts (isTop : Bool) (list : List Stmt) : Task (List Stmt)
  | space (name : String) (parent : Option String) (body : List Stmt) : Task (List Stmt)

abbrev Meet := ∀ {α : Type}, Task α → Erase α

def exprRule (self : Meet) (e : Expr) : Erase Expr :=
  match e with
  | .asType operand _ => self (.expr operand)
  | .satisfies operand _ => self (.expr operand)
  | .nonNull operand => self (.expr operand)
  | .instantiate operand _ => self (.expr operand)
  | .function name isAsync isGenerator isDeclare tps params result body => do
    let params ← Visit.list (self <| .expr ·) params
    let body ← Visit.option (self <| .stmts false ·) body
    return bare (.function name isAsync isGenerator isDeclare tps (params.map bare) result body)
  | .methodMember ds m .constructor k isComputed f => do
    -- The modifiers of the parameters are still there.
    let f ← self (.expr (withProperties f))
    return bare (.methodMember ds m .plain k isComputed f)
  | .class .. => return bare (← (bare e).descend { expr := (self <| .expr ·), stmt := (self <| .stmt ·) })
  | .staticBlock body => return .staticBlock (← self (.stmts false body))
  | e => return bare (← e.descend { expr := (self <| .expr ·), stmt := (self <| .stmt ·) })

def aliasVariable (name : String) (value : Expr) : Erase Stmt := do
  if let .call .. := value then
    throw "Import assignment cannot be used when targeting ECMAScript modules."
  return .vars false .var [.declarator (.identifier name) (some value)]

def stmtRule (self : Meet) (fuel : Nat) (s : Stmt) : Erase Stmt :=
  match s with
  | .block body => return .block (← self (.stmts false body))
  | .case test body =>
    return .case (← Visit.option (self <| .expr ·) test) (← self (.stmts false body))
  | .try body param handler finalizer => do
    let body ← self (.stmts false body)
    let param ← Visit.option (self <| .expr ·) param
    let handler ← Visit.option (self <| .stmts false ·) handler
    return .try body param handler (← Visit.option (self <| .stmts false ·) finalizer)
  | .enum _ _ name members => enumeration fuel false false name members
  | .exportDeclaration (.enum _ _ name members) =>
    return .exportDeclaration (← enumeration fuel false true name members)
  | .importAlias false name value => aliasVariable name value
  | .exportDeclaration (.importAlias false name value) =>
    return .exportDeclaration (← aliasVariable name value)
  | .exportAssign _ =>
    throw "Export assignment cannot be used when targeting ECMAScript modules."
  | s => s.descend { expr := (self <| .expr ·), stmt := (self <| .stmt ·) }

def letDeclared (name : String) : Stmt :=
  .vars false .letVar [.declarator (.identifier name) none]

def declaredName : Expr → List String
  | .function (some n) .. => [n]
  | .class _ _ _ (some n) .. => [n]
  | _ => []

def spaceWithVariable (self : Meet) (fuel : Nat) (known : List String) (parent : Option String)
    (name : Expr) (body : List Stmt) : Erase (List Stmt) := do
  let parts := nameParts fuel name
  let head := parts.headD ""
  let inner ← self (.space head parent (nested (parts.drop 1) body))
  return (if known.contains head then [] else [letDeclared head]) ++ inner

def stmtsRule (self : Meet) (fuel : Nat) (isTop : Bool) : List String → List Stmt → Erase (List Stmt)
  | _, [] => pure []
  | known, s :: rest => do
    match s.uncommented with
    | .space isDeclare _ name body =>
      if !isTop || isEmptySpace fuel (.space isDeclare "" name body) then
        stmtsRule self fuel isTop known rest
      else
        let here ← spaceWithVariable self fuel known none name (body.getD [])
        return here ++ (← stmtsRule self fuel isTop ((nameParts fuel name).take 1 ++ known) rest)
    | .enum isDeclare _ name members =>
      if isDeclare then stmtsRule self fuel isTop known rest
      else do
        let s ← enumeration fuel isTop false name members
        return s :: (← stmtsRule self fuel isTop (name :: known) rest)
    | plain =>
      if isTypeOnly plain || isUnusedAlias (← get).used plain then stmtsRule self fuel isTop known rest
      else do
        let names := match plain with
          | .declaration e => declaredName e
          | _ => []
        let s ← self (.stmt s)
        return s :: (← stmtsRule self fuel isTop (names ++ known) rest)

def mutableExport : String :=
  "Namespaces exporting non-const are not supported by Babel. Change to const or see: https://babeljs.io/docs/en/babel-plugin-transform-typescript"

def sharedDeclaration (self : Meet) (fuel : Nat) (param : String) (d : Stmt) : Erase (List Stmt) := do
  let shared (s : Stmt) (names : List String) : List Stmt := s :: names.map (exportSet param)
  if isTypeOnly d || isEmptySpace fuel d then return []
  match d with
  | .vars _ kind ds =>
    if kind != .const then throw mutableExport
    else if ds.all isBareTarget then
      return [← self (.stmt (.vars false kind (ds.map (sharedDeclarator param))))]
    else
      return shared (← self (.stmt (.vars false kind ds))) (ds.flatMap (boundNames fuel))
  | .declaration e => return shared (← self (.stmt d)) (declaredName e)
  | .enum _ _ n members => return shared (← enumeration fuel false false n members) [n]
  | .importAlias _ n value => return shared (← aliasVariable n value) [n]
  | .space _ _ n body => spaceWithVariable self fuel [] (some param) n (body.getD [])
  | _ => return []

def spaceStatements (self : Meet) (fuel : Nat) (param : String) : List Stmt → Erase (List Stmt)
  | [] => pure []
  | s :: rest => do
    let here ← match s.uncommented with
      | .exportDeclaration d => sharedDeclaration self fuel param d
      | .space isDeclare _ n body =>
        if isDeclare || isEmptySpace fuel (.space isDeclare "" n body) then pure []
        else spaceWithVariable self fuel [] none n (body.getD [])
      | _ => self (.stmts false [s])
    return here ++ (← spaceStatements self fuel param rest)

def spaceRule (self : Meet) (fuel : Nat) (name : String) (parent : Option String) (list : List Stmt) :
    Erase (List Stmt) := do
  let param := "_" ++ name
  let body ← spaceStatements self fuel param list
  let id := Expr.identifier name
  let filler := Expr.function none false false false []
    [.param [] {} (.identifier param) none none] none (some body)
  let argument := match parent with
    | none => Expr.logical .or id (.paren (.assign .plain id (.object [])))
    | some p =>
      let held := Expr.member (.identifier p) false name
      .logical .or id (.paren (.assign .plain id
        (.logical .or held (.paren (.assign .plain held (.object []))))))
  return [.expression (.call (.paren filler) false [] [argument] false)]

def rule (self : Meet) (fuel : Nat) : {α : Type} → Task α → Erase α
  | _, .expr e => exprRule self e
  | _, .stmt s => stmtRule self fuel s
  | _, .stmts isTop list => stmtsRule self fuel isTop [] list
  | _, .space name parent body => spaceRule self fuel name parent body

def meet : Nat → {α : Type} → Task α → Erase α
  | 0, _, _ => throw "Unexpected token"
  | fuel + 1, _, task => fun s => rule (meet fuel) fuel task s

mutual

def exprNames : Nat → Expr → StateM (List String) Expr
  | 0, e => pure e
  | fuel + 1, e =>
    match e with
    | .identifier name => do
      modify (name :: ·)
      return e
    | e => e.descend { expr := exprNames fuel, stmt := stmtNames fuel }

def stmtNames : Nat → Stmt → StateM (List String) Stmt
  | 0, s => pure s
  | fuel + 1, s =>
    match s with
    | .exportFrom false names none _ => do
      modify (names.map (·.name.text.display) ++ ·)
      return s
    | s => s.descend { expr := exprNames fuel, stmt := stmtNames fuel }

end

def declaredNames (fuel : Nat) (s : Stmt) : List (String × Bool) :=
  let s := match s.uncommented with
    | .exportDeclaration d => d
    | s => s
  let isType := isTypeOnly s || isEmptySpace fuel s
  let names := match s with
    | .typeAlias _ n .. | .interface _ n .. | .enum _ _ n _ | .importAlias _ n _ => [n]
    | .vars _ _ ds => ds.flatMap (boundNames fuel)
    | .declaration e => declaredName e
    | .space _ _ n _ => (nameParts fuel n).take 1
    | .importFrom true _ (some c) .. => c.names
    | _ => []
  let isType := match s with
    | .importFrom .. => true
    | _ => isType
  names.map (·, isType)

def typeNames (fuel : Nat) (body : List Stmt) : List String :=
  let declared := body.flatMap (declaredNames fuel)
  (declared.filter fun (n, _) => declared.all fun (m, isType) => m != n || isType).map (·.1)

/-- An import without what is a type or is never used; none if nothing is left of its clause. An
empty list in braces vanishes. -/
def usedImport? (used : List String) : Stmt → Option Stmt
  | .importFrom true .. => none
  | .importFrom false phase (some ⟨none, none, some []⟩) source attributes =>
    some (.importFrom false phase none source attributes)
  | .importFrom false phase (some c) source attributes =>
    let keeps (name : String) : Bool := used.contains name
    let c' : ImportClause :=
      { defaultName := c.defaultName.filter keeps
        namespaceName := c.namespaceName.filter keeps
        named := (c.named.map (·.filter fun n => !n.isType && keeps n.renamed.text.display)).filter
          (!·.isEmpty) }
    if c'.defaultName.isNone && c'.namespaceName.isNone && c'.named.isNone then none
    else some (.importFrom false phase (some c') source attributes)
  | s => some s

def realExport? (types : List String) : Stmt → Option Stmt
  | .exportFrom true .. => none
  | .exportAll true .. => none
  | .exportFrom false names source attributes =>
    let real := names.filter fun n =>
      !n.isType && (source.isSome || !types.contains n.name.text.display)
    if real.isEmpty && !names.isEmpty then none else some (.exportFrom false real source attributes)
  | .exportDeclaration d =>
    if isTypeOnly d then none
    else match d with
      | .space .. => none
      | d => some (.exportDeclaration d)
  | .exportDefault (.interface ..) => none
  | s@(.exportDefault (.expression (.identifier n))) => if types.contains n then none else some s
  | .exportDefault (.declaration (.function _ _ _ _ _ _ _ none)) => none
  | .exportNamespace _ => none
  | s => some s

def isModuleStatement (s : Stmt) : Bool :=
  match s.uncommented with
  | .importFrom .. | .exportFrom .. | .exportAll .. | .exportDeclaration _ | .exportDefault _
  | .exportAssign _ | .exportNamespace _ => true
  | _ => false

def onPlain (f : Stmt → Option Stmt) : Stmt → Option Stmt
  | .commented comments s => (f s).map (.commented comments)
  | s => f s

def program (p : Program) : Except String Program :=
  let isModule := p.body.any isModuleStatement
  let body := p.body.filterMap (onPlain (realExport? (typeNames p.depth p.body)))
  let used := ((Visit.list (stmtNames p.depth) body).run []).2
  match (meet p.depth (.stmts true body)).run { used } with
  | .error e _ => .error e
  | .ok body _ =>
    let used := ((Visit.list (stmtNames p.depth) body).run []).2
    let body := body.filterMap (onPlain (usedImport? used))
    let keeps := !isModule || body.any isModuleStatement
    .ok { p with body := if keeps then body else body ++ [.exportFrom false [] none none] }

end PagePreview.Script.Erasure
