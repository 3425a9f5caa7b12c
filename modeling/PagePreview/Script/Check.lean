import PagePreview.Script.Scope
import PagePreview.Script.Typed
import PagePreview.Script.Walk

/-! Checks of a tree that reading alone does not make: names declared twice, jumps without a
target, and what strict code forbids. The first complaint in the order of the source counts. -/

namespace PagePreview.Script.Check

structure Place where
  strict : Bool := false
  inFunction : Bool := false
  inLoop : Bool := false
  inSwitch : Bool := false
  labels : List (String × Bool) := []
  superMember : Bool := false
  superCall : Bool := false
  derived : Bool := false
  hasNewTarget : Bool := false
  withoutArguments : Option String := none
  inStaticBlock : Bool := false
  inParams : Bool := false
  isAmbient : Bool := false
  atTop : Bool := true
  privateNames : List String := []
  inClass : Bool := false
  deriving Inhabited

structure State where
  place : Place := {}
  scopes : List Scope := [{ holdsVars := true }]

abbrev Checked := EStateM String State

inductive Task
  | expr (e : Expr)
  | stmt (s : Stmt)
  | list (body : List Stmt)

abbrev Meet := Task → Checked Unit

def place : Checked Place := do return (← get).place

def within (f : Place → Place) (check : Checked Unit) : Checked Unit := do
  let outer ← place
  modify fun s => { s with place := f s.place }
  check
  modify fun s => { s with place := outer }

def inScope (scope : Scope) (check : Checked Unit) : Checked Unit := do
  modify fun s => { s with scopes := scope :: s.scopes }
  check
  modify fun s => { s with scopes := s.scopes.drop 1 }

def each {α : Type} (f : α → Checked Unit) : List α → Checked Unit
  | [] => pure ()
  | a :: as => do
    f a
    each f as

def eachOption {α : Type} (f : α → Checked Unit) : Option α → Checked Unit
  | none => pure ()
  | some a => f a

def report : Option String → Checked Unit
  | none => pure ()
  | some message => throw message

def redeclared (name : String) : String := "Identifier \x60" ++ name ++ "\x60 has already been declared"

def checkWord (name : String) : Checked Unit := do
  if (← place).strict && strictWords.contains name then throw ("The keyword '" ++ name ++ "' is reserved")

def assignable (name : String) : Checked Unit := do
  if (← place).strict && (name == "eval" || name == "arguments") then
    throw ("Cannot assign to '" ++ name ++ "' in strict mode")

def declare (b : Binding) (name : String) : Checked Unit := do
  checkWord name
  assignable name
  let s ← get
  match b, s.scopes with
  | .var, scopes =>
    match Scope.declareVar? name scopes with
    | some scopes => set { s with scopes }
    | none => throw (redeclared name)
  | b, scope :: outer =>
    if scope.clashes name b then throw (redeclared name)
    set { s with scopes := scope.declare name b :: outer }
  | _, [] => pure ()

def declareParam (isUnique : Bool) (name : String) : Checked Unit := do
  checkWord name
  assignable name
  let s ← get
  match s.scopes with
  | scope :: outer =>
    let earlier := scope.bindingsOf name
    if earlier.any (Binding.clashes .var) || (isUnique && earlier.contains .var) then
      throw (redeclared name)
    set { s with scopes := scope.declare name .var :: outer }
  | [] => pure ()

def boundNames : Nat → Expr → List String
  | 0, _ => []
  | fuel + 1, e =>
    match e with
    | .identifier name => [name]
    | .arrayPattern items => items.flatMap (boundNames fuel)
    | .objectPattern items => items.flatMap (boundNames fuel)
    | .property _ _ _ value => boundNames fuel value
    | .defaultPattern target _ => boundNames fuel target
    | .restPattern target => boundNames fuel target
    | .restParam _ target _ => boundNames fuel target
    | .param _ _ target _ _ => boundNames fuel target
    | .typed target _ _ => boundNames fuel target
    | .declarator target _ => boundNames fuel target
    | .commented _ e => boundNames fuel e
    | _ => []

def bare : Nat → Expr → Expr
  | fuel + 1, .commented _ e => bare fuel e
  | fuel + 1, .paren e => bare fuel e
  | _, e => e

def bareStmt : Nat → Stmt → Stmt
  | fuel + 1, .commented _ s => bareStmt fuel s
  | _, s => s

def assignedNames : Nat → Expr → List String
  | 0, _ => []
  | fuel + 1, e =>
    match e with
    | .identifier name => [name]
    | .arrayPattern items => items.flatMap (assignedNames fuel)
    | .objectPattern items => items.flatMap (assignedNames fuel)
    | .property _ _ _ value => assignedNames fuel value
    | .defaultPattern target _ => assignedNames fuel target
    | .restPattern target => assignedNames fuel target
    | .asType e _ | .satisfies e _ | .nonNull e | .paren e | .commented _ e => assignedNames fuel e
    | _ => []

def checkTarget (fuel : Nat) (e : Expr) : Checked Unit := each assignable (assignedNames fuel e)

def octalComplaint : String :=
  "'0'-prefixed octal literals and octal escape sequences are deprecated"

def escapeComplaint? : List Char → Option String
  | '\\' :: c :: rest =>
    if c == '0' then
      match rest with
      | d :: _ => if '1' ≤ d && d ≤ '9' then some octalComplaint else escapeComplaint? rest
      | [] => none
    else if '1' ≤ c && c ≤ '7' then some octalComplaint
    else if c == '8' || c == '9' then some "Invalid escape sequence"
    else escapeComplaint? rest
  | _ :: rest => escapeComplaint? rest
  | [] => none

def checkNumber (raw : String) : Checked Unit :=
  match raw.toList with
  | '0' :: c :: rest =>
    if '0' ≤ c && c ≤ '9' then
      if (c :: rest).all (fun d => '0' ≤ d && d ≤ '7') then throw octalComplaint
      else throw "Decimals with leading zeros are not allowed in strict mode"
    else pure ()
  | _ => pure ()

def isStrictDirective (s : Stmt) : Bool :=
  match bareStmt 4 s with
  | .directive raw => raw == "use strict"
  | _ => false

def isDirective (s : Stmt) : Bool :=
  match bareStmt 4 s with
  | .directive _ => true
  | _ => false

def hasStrictDirective (body : List Stmt) : Bool := (body.takeWhile isDirective).any isStrictDirective

def isSimpleParam (p : Expr) : Bool :=
  match p with
  | .param _ _ (.identifier _) _ none => true
  | .param _ _ (.commented _ (.identifier _)) _ none => true
  | .thisParam _ => true
  | _ => false

inductive FunctionKind
  | plain | arrow | method | constructor
  deriving DecidableEq

def checkFunction (self : Meet) (fuel : Nat) (kind : FunctionKind) (name : Option String)
    (params : List Expr) (body : List Stmt) : Checked Unit := do
  let outer ← place
  let strict := outer.strict || hasStrictDirective body
  let simple := params.all isSimpleParam
  let isArrow := kind == .arrow
  let inner : Place :=
    { strict, inFunction := true, privateNames := outer.privateNames, inClass := outer.inClass
      derived := outer.derived
      superMember := match kind with
        | .plain => false
        | .arrow => outer.superMember
        | _ => true
      superCall := match kind with
        | .constructor => true
        | .arrow => outer.superCall
        | _ => false
      hasNewTarget := !isArrow || outer.hasNewTarget
      withoutArguments := if isArrow then outer.withoutArguments else none
      isAmbient := outer.isAmbient, atTop := false }
  within (fun _ => inner) do
    eachOption (fun n => do checkWord n; assignable n) name
    inScope { holdsVars := true } do
      each (fun p => do
        each (declareParam (strict || isArrow || kind == .method || !simple)) (boundNames fuel p)
        within ({ · with inParams := true }) (self (.expr p))) params
      report (Typed.paramComplaint? (kind == .constructor) false params)
      if hasStrictDirective body && !simple then
        throw "Illegal 'use strict' directive in function with non-simple parameter list"
      self (.list body)

def memberName? : Expr → Option String
  | .methodMember _ _ _ (.privateName n) _ _ => some n
  | .fieldMember _ _ (.privateName n) _ _ _ => some n
  | _ => none

def isPair : Expr → Expr → Bool
  | .methodMember _ m .getter .., .methodMember _ m' .setter .. => m.isStatic == m'.isStatic
  | .methodMember _ m .setter .., .methodMember _ m' .getter .. => m.isStatic == m'.isStatic
  | _, _ => false

def doubledPrivate? : List Expr → Option String
  | [] => none
  | m :: rest =>
    match memberName? m with
    | none => doubledPrivate? rest
    | some n =>
      if rest.any fun m' => memberName? m' == some n && !isPair m m' then some n
      else doubledPrivate? rest

def isConstructor : Expr → Bool
  | .methodMember _ _ .constructor _ _ (.function _ _ _ _ _ _ _ body) => body.isSome
  | _ => false

def checkSignature (self : Meet) (kind : FunctionKind) (params : List Expr) : Checked Unit := do
  each (fun p => self (.expr p)) params
  report (Typed.paramComplaint? (kind == .constructor) false params)

def inClassPart (part : String) (isBlock : Bool) (p : Place) : Place :=
  { p with
    superMember := true, superCall := false, inFunction := true, inLoop := false, inSwitch := false
    labels := [], hasNewTarget := true, withoutArguments := some part, inStaticBlock := isBlock
    atTop := false }

def checkMember (self : Meet) (fuel : Nat) (isAmbient : Bool) (m : Expr) : Checked Unit := do
  match bare 4 m with
  | .methodMember ds _ kind key isComputed f =>
    each (fun d => self (.expr d)) ds
    if isComputed then self (.expr key)
    let role : FunctionKind := if kind == .constructor then .constructor else .method
    match f with
    | .function _ _ _ _ _ params _ (some body) => checkFunction self fuel role none params body
    | .function _ _ _ _ _ params _ none => checkSignature self role params
    | _ => pure ()
    report (Typed.memberComplaint? isAmbient m)
  | .fieldMember ds _ key isComputed _ value =>
    each (fun d => self (.expr d)) ds
    if isComputed then self (.expr key)
    within (inClassPart "class field initializer" false)
      (eachOption (fun v => self (.expr v)) value)
    report (Typed.memberComplaint? isAmbient m)
  | .staticBlock body =>
    within (inClassPart "static initialization block" true)
      (inScope { holdsVars := true } (self (.list body)))
  | _ => pure ()

def checkClass (self : Meet) (fuel : Nat) (ds : List Expr) (isDeclare isAbstract : Bool)
    (name : Option String) (parent : Option Expr) (members : List Expr) : Checked Unit := do
  each (fun d => self (.expr d)) ds
  let plain := members.map (bare 4)
  within (fun p => { p with strict := true }) do
    eachOption (fun n => do checkWord n; assignable n) name
    let isAmbient := isDeclare || (← place).isAmbient
    within (fun p => { p with
        inClass := true, derived := parent.isSome
        privateNames := plain.filterMap memberName? ++ p.privateNames }) do
      eachOption (fun e => self (.expr e)) parent
      if let some n := doubledPrivate? plain then throw (redeclared ("#" ++ n))
      each (checkMember self fuel isAmbient) members
      if (plain.filter isConstructor).length > 1 then
        throw "Multiple constructor implementations are not allowed."
    report (Typed.classComplaint? isAbstract isAmbient members)

def isProto : Expr → Bool
  | .property (.identifier "__proto__") false false _ => true
  | .property (.string (.plain "__proto__") _) false false _ => true
  | _ => false

def checkPrivate (name : String) : Checked Unit := do
  let p ← place
  if !p.inClass then throw ("Private identifier '#" ++ name ++ "' is not allowed outside class bodies")
  if !p.privateNames.contains name then
    throw ("Private field '" ++ name ++ "' must be declared in an enclosing class")

def superMemberComplaint : String :=
  "'super' can only be referenced in members of derived classes or object literal expressions."

def below (self : Meet) (e : Expr) : Checked Unit := do
  let _ ← e.descend
    { expr := fun e => do self (.expr e); return e
      stmt := fun s => do self (.stmt s); return s }

def exprRule (self : Meet) (fuel : Nat) (e : Expr) : Checked Unit := do
  match e with
  | .identifier name => do
    checkWord name
    if name == "arguments" then
      if let some part := (← place).withoutArguments then
        throw ("'arguments' is not allowed in " ++ part)
  | .privateName name => checkPrivate name
  | .await _ => do
    below self e
    if (← place).inParams then throw "await expression not allowed in formal parameter"
    if (← place).inStaticBlock then throw "Cannot use await in class static initialization block"
  | .yield .. => do
    below self e
    if (← place).inParams then throw "yield expression not allowed in formal parameter"
  | .number _ raw => if (← place).strict then checkNumber raw
  | .string _ raw =>
    if (← place).strict then report (escapeComplaint? raw.toList)
  | .function name _ _ _ _ params _ (some body) => checkFunction self fuel .plain name params body
  | .function _ _ _ _ _ params _ none => checkSignature self .plain params
  | .arrow _ _ params _ body =>
    match body with
    | .block body => checkFunction self fuel .arrow none params body
    | body => checkFunction self fuel .arrow none params [body]
  | .class ds isDeclare isAbstract name _ parent _ _ members =>
    checkClass self fuel ds isDeclare isAbstract name parent members
  | .method _ key isComputed f => do
    if isComputed then self (.expr key)
    match f with
    | .function _ _ _ _ _ params _ (some body) => checkFunction self fuel .method none params body
    | _ => pure ()
  | .object properties => do
    below self e
    if (properties.filter fun p => isProto (bare 4 p)).length > 1 then throw (redeclared "__proto__")
  | .assign _ target _ => do
    below self e
    checkTarget fuel target
  | .update _ _ target => do
    below self e
    checkTarget fuel target
  | .unary .delete operand => do
    below self e
    match bare 8 operand with
    | .identifier _ =>
      if (← place).strict then throw "Delete of an unqualified identifier in strict mode."
    | .privateMember .. =>
      throw "The operand of a 'delete' operator cannot be a private identifier."
    | _ => pure ()
  | .privateMember object _ name => do
    below self e
    match object with
    | .super => throw "Private fields cannot be accessed on super"
    | _ => checkPrivate name
  | .call .super _ _ args _ => do
    let p ← place
    if !p.superCall then
      throw "Super calls are not permitted outside constructors or in nested functions inside constructors."
    if !p.derived then throw "'super' can only be referenced in a derived class."
    each (fun a => self (.expr a)) args
  | .super => if !(← place).superMember then throw superMemberComplaint
  | .newTarget => if !(← place).hasNewTarget then throw "Unexpected new.target expression"
  | e => below self e

def isLoop : Nat → Stmt → Bool
  | 0, _ => false
  | fuel + 1, s =>
    match s with
    | .loop .. | .loopIn .. | .loopOf .. | .while .. | .doWhile .. => true
    | .labeled _ s => isLoop fuel s
    | .commented _ s => isLoop fuel s
    | _ => false

def checkJump (isBreak : Bool) (label : Option String) : Checked Unit := do
  let p ← place
  match label with
  | none =>
    if isBreak then
      if !p.inLoop && !p.inSwitch then throw "Illegal break statement"
    else if !p.inLoop then throw "Illegal continue statement: no surrounding iteration statement"
  | some name =>
    match p.labels.lookup name with
    | some onLoop =>
      if !isBreak && !onLoop then
        throw "A \x60continue\x60 statement can only jump to a label of an enclosing \x60for\x60, \x60while\x60 or \x60do while\x60 statement."
    | none =>
      if p.inFunction then throw "Jump target cannot cross function boundary"
      else throw "Use of undefined label"

def isFunction : Nat → Stmt → Bool
  | 0, _ => false
  | fuel + 1, s =>
    match s with
    | .declaration (.function ..) => true
    | .commented _ s | .labeled _ s => isFunction fuel s
    | _ => false

/-- The statement under a head. Loose code can have a function there on its own if `allowsFunction`
holds. -/
def checkBody (self : Meet) (allowsFunction : Bool) (s : Stmt) : Checked Unit := do
  self (.stmt s)
  if isFunction 64 s then
    match bareStmt 4 s with
    | .declaration _ => if (← place).strict || !allowsFunction then throw "Invalid function declaration"
    | _ => throw "Invalid function declaration"

def loopBody (self : Meet) (s : Stmt) : Checked Unit :=
  within (fun p => { p with inLoop := true }) (checkBody self false s)

/-- The variables in the head of a loop over the things of a value: one, without a value, but for
a plain `var` of loose code before `in`. -/
def checkHead (isIn : Bool) (left : Stmt) : Checked Unit := do
  let word := if isIn then "in" else "of"
  match bareStmt 4 left with
  | .vars _ kind [.declarator target value] => do
    let isName := match target with
      | .identifier _ | .typed (.identifier _) .. => true
      | _ => false
    let isLoose := !(← place).strict && isIn && kind == .var && isName
    if value.isSome && !isLoose then
      throw ("for-" ++ word ++ " loop variable declaration may not have an initializer")
    match target with
    | .typed .. =>
      throw ("The left-hand side of a 'for..." ++ word ++ "' statement cannot use a type annotation.")
    | _ => pure ()
  | .vars .. => throw ("Only a single declaration is allowed in a \x60for..." ++ word ++ "\x60 statement")
  | _ => pure ()

def isDefault : Stmt → Bool
  | .case none _ => true
  | _ => false

def kindBinding : VariableKind → Binding
  | .var => .var
  | _ => .lexical

def spaceBody (self : Meet) (isDeclare : Bool) (body : List Stmt) : Checked Unit := do
  let isAtTop := (← place).atTop
  within (fun p => { p with isAmbient := p.isAmbient || isDeclare, atTop := true })
    (inScope { holdsVars := true } (self (.list body)))
  if !isAtTop then
    throw "A namespace declaration is only allowed at the top level of a namespace or module."

def nestedRule (self : Meet) (fuel : Nat) (s : Stmt) : Checked Unit := do
  let expr (e : Expr) : Checked Unit := self (.expr e)
  match s with
  | .block body => inScope {} (self (.list body))
  | .vars _ kind ds =>
    each (fun d => do
      let names := boundNames fuel d
      if kind != .var && names.contains "let" then
        throw ("\x60let\x60 cannot be declared as a variable name inside of a \x60" ++ kind.text ++
          "\x60 declaration")
      each (declare (kindBinding kind)) names
      expr d) ds
  | .declaration (.function (some name) isAsync isGenerator isDeclare tps params result body) => do
    declare .function name
    expr (.function (some name) isAsync isGenerator isDeclare tps params result body)
  | .declaration (.class ds isDeclare isAbstract (some name) tps parent pargs implements members) => do
    declare .classDef name
    expr (.class ds isDeclare isAbstract (some name) tps parent pargs implements members)
  | .cond test yes no => do
    expr test
    checkBody self true yes
    eachOption (checkBody self true) no
  | .loop init test update body =>
    inScope {} do
      eachOption (fun s => self (.stmt s)) init
      eachOption expr test
      eachOption expr update
      loopBody self body
  | .loopIn left right body =>
    inScope {} do
      self (.stmt left)
      expr right
      loopBody self body
      checkHead true left
  | .loopOf _ left right body =>
    inScope {} do
      self (.stmt left)
      expr right
      loopBody self body
      checkHead false left
  | .while test body => do
    expr test
    loopBody self body
  | .doWhile body test => do
    loopBody self body
    expr test
  | .continue label => checkJump false label
  | .break label => checkJump true label
  | .with object body => do
    if (← place).strict then throw "'with' statements are not allowed"
    expr object
    checkBody self false body
  | .switch subject cases => do
    expr subject
    within (fun p => { p with inSwitch := true })
      (inScope {} (each (fun c => self (.stmt c)) cases))
    if (cases.filter (isDefault <| bareStmt 4 ·)).length > 1 then throw (redeclared "default")
  | .labeled label body => do
    if ((← place).labels.lookup label).isSome then
      throw ("Label \x60" ++ label ++ "\x60 has already been declared")
    within (fun p => { p with labels := (label, isLoop fuel body) :: p.labels }) (do
      self (.stmt body)
      if (← place).strict then
        if let .declaration (.function ..) := bareStmt 4 body then throw "Invalid function declaration")
  | .try body param handler finalizer => do
    inScope {} (self (.list body))
    eachOption (fun (handler : List Stmt) => inScope {} do
      eachOption (fun p => do
        let b : Binding := match bare 4 p with
          | .identifier _ => .var
          | .typed (.identifier _) .. => .var
          | _ => .lexical
        -- A variable of this kind is bound here and nowhere further out.
        each (fun n => do
          checkWord n
          assignable n
          let s ← get
          match s.scopes with
          | scope :: outer =>
            if b == .lexical && scope.clashes n b then throw (redeclared n)
            set { s with scopes := scope.declare n b :: outer }
          | [] => pure ()) (boundNames fuel p)
        expr p) param
      self (.list handler)) handler
    eachOption (fun body => inScope {} (self (.list body))) finalizer
  | .importFrom _ _ (some clause) _ _ => each (declare .imported) clause.names
  | .importAlias _ name _ => declare .imported name
  | .typeAlias _ name _ _ => do
    declare .typeAlias name
    report (Typed.nameComplaint? "Type alias" name)
  | .interface _ name _ _ _ => do
    declare .interface name
    report (Typed.nameComplaint? "Interface" name)
  | .enum _ isConst name members => do
    declare (if isConst then .constEnum else .regularEnum) name
    each expr members
    report (Typed.enumComplaint? false members)
  | .directive raw => if (← place).strict then report (escapeComplaint? raw.toList)
  | .space isDeclare _ (.identifier name) (some body) => do
    if !isDeclare then declare .space name
    spaceBody self isDeclare body
  | .space isDeclare _ _ (some body) => spaceBody self isDeclare body
  | s =>
    let _ ← s.descend
      { expr := fun e => do expr e; return e
        stmt := fun s => do self (.stmt s); return s }

def stmtRule (self : Meet) (fuel : Nat) (s : Stmt) : Checked Unit :=
  match s with
  | .space .. | .commented .. | .exportDeclaration _ => nestedRule self fuel s
  | s => within ({ · with atTop := false }) (nestedRule self fuel s)

def rule (self : Meet) (fuel : Nat) : Task → Checked Unit
  | .expr e => exprRule self fuel e
  | .stmt s => stmtRule self fuel s
  | .list body => each (fun s => self (.stmt s)) body

def meet : Nat → Meet
  | 0, _ => pure ()
  | fuel + 1, task => fun s => rule (meet fuel) fuel task s

def complaint? (p : Program) : Option String :=
  let start : State := { place := { strict := hasStrictDirective p.body } }
  match meet p.depth (.list p.body) start with
  | .ok _ _ => none
  | .error message _ => some message

end PagePreview.Script.Check
