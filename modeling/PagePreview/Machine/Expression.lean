import PagePreview.Machine.Class

/-! Expressions: one rule for each kind. -/

namespace PagePreview.Machine
open Script Run

def isImmediate : Expr → Bool
  | .identifier _ | .this | .null | .bool _ | .number .. | .string .. | .bigint _ => true
  | _ => false

def evaluateHolding (n : Nat) (c : Context) (e : Expr) : Run Value :=
  if isImmediate e then evaluate c e else holding n (evaluate c e)

def argumentsFrom (c : Context) (n : Nat) (args : List Expr) : Run (Array Value) := do
  let mut out := #[]
  for a in args do
    match a with
    | .spread e =>
      let v ← evaluateHolding (n + out.size) c e
      out := out ++ (← valuesOf v)
    | a => out := out.push (← evaluateHolding (n + out.size) c a)
  return out

def linked (isOptional : Bool) (base : Value) : Run Unit := do
  if isOptional && base.isNullish then throw .cut

def calleeOf (c : Context) (e : Expr) : Run (Value × Value) := do
  match e with
  | .member .super _ name =>
    let this ← thisValue c
    return (this, ← getFrom (← superHolder c) (.named name) this)
  | .index .super _ k =>
    let this ← thisValue c
    let k ← toKey (← evaluate c k)
    return (this, ← getFrom (← superHolder c) k this)
  | .member base isOptional name =>
    let v ← evaluate c base
    linked isOptional v
    return (v, ← getValue v (.named name))
  | .index base isOptional k =>
    let v ← evaluate c base
    linked isOptional v
    let k ← evaluateHolding 1 c k
    if v.isNullish then throwType nullishComplaint
    return (v, ← getValue v (← toKey k))
  | .privateMember base isOptional name =>
    let v ← evaluate c base
    linked isOptional v
    return (v, ← getPrivate v (← privateKey c name))
  | .identifier name =>
    match ← locate name c.scope with
    | p@(.object id _) => return (.object id, (← valueAt? name p).getD .undefined)
    | p =>
      match ← valueAt? name p with
      | some v => return (.undefined, v)
      | none => notDefined name
  | e => return (.undefined, ← evaluate c e)

def isEvalName : Expr → Bool
  | .identifier "eval" => true
  | _ => false

def callExpression (c : Context) (callee : Expr) (isOptional : Bool) (args : List Expr) : Run Value := do
  match callee with
  | .super =>
    let frame ← frameOf c
    let some f := frame.function | raise .malformed "invalid super usage"
    let parent := (← prototypeOf f).elim Value.undefined .object
    let args ← argumentsFrom c 2 args
    if !(← get).isConstructor parent then throwType "super constructor object must be constructor"
    match parent, frame.newTarget with
    | .object p, .object target =>
      let v ← construct p args target
      bindThis c v
      if let .object id := v then giveMembers id f
      return v
    | _, _ => raise .malformed "invalid super usage"
  | callee =>
    let (this, f) ← match callee with
      | .chain links => tryCatch (calleeOf c links) fun
          | .cut => return (.undefined, .undefined)
          | e => throw e
      | e => calleeOf c e
    linked isOptional f
    let args ← argumentsFrom c 2 args
    match f, isEvalName callee with
    | .object id, true =>
      if id == Intrinsic.evalFunction.id then
        match args.getD 0 .undefined with
        | .string text => return valueOf (← perform (.source (some c) text.display))
        | v => return v
      else call f this args
    | f, _ => call f this args

def newExpression (c : Context) (callee : Expr) (args : List Expr) : Run Value := do
  let f ← evaluate c callee
  let args ← argumentsFrom c 1 args
  if !(← get).isConstructor f then throwType "not a constructor"
  match f with
  | .object id => construct id args id
  | _ => throwType "not a constructor"

def templateText (c : Context) : List Quasi → List Expr → Str → Run Str
  | q :: qs, e :: es, done => do
    let v ← evaluateHolding 1 c e
    templateText c qs es (done ++ q.cooked.getD .empty ++ (← toText v))
  | [q], [], done => return done ++ q.cooked.getD .empty
  | _, _, done => return done

def newTemplateTexts (quasis : List Quasi) : Run Nat := do
  let cooked := quasis.map fun q => q.cooked.elim Value.undefined .string
  let raw := quasis.map fun q => Value.text q.raw
  let raw ← newListValue raw.toArray
  let raw ← lock raw true "cannot freeze object"
  let id ← newList cooked.toArray
  updateObject id (·.store (.named "raw") (.fixed raw))
  let _ ← lock (.object id) true "cannot freeze object"
  return id

def templateTexts (quasis : List Quasi) : Run Value := do
  let key := ((quasis.head?.map (·.start)).getD 0, quasis.map (·.raw))
  match (← get).templates.lookup key with
  | some id => return .object id
  | none => do
    let id ← newTemplateTexts quasis
    modify fun s => { s with templates := (key, id) :: s.templates }
    return .object id

def taggedTemplate (c : Context) (tag : Expr) (quasis : List Quasi) (values : List Expr) : Run Value := do
  let (this, f) ← calleeOf c tag
  let texts ← templateTexts quasis
  let args ← argumentsFrom c 3 values
  call f this (#[texts] ++ args)

def newPattern (proto : Nat) (source flags : String) : Run Value := do
  let id ← allocate {
    proto := some proto, kind := .pattern source flags
    properties := .ofList [(.named "lastIndex", .data (.number 0) true false false)] }
  return .object id

def elementsOf (c : Context) (elements : List Expr) : Run (Array (Option Value)) := do
  let mut out := #[]
  for e in elements do
    match e with
    | .hole => out := out.push none
    | .spread e =>
      let v ← evaluateHolding 1 c e
      out := out ++ (← valuesOf v).map some
    | e => out := out.push (some (← evaluateHolding 1 c e))
  return out

def setsPrototype (k : Expr) (isComputed isShorthand : Bool) : Bool :=
  !isComputed && !isShorthand && match k with
    | .identifier "__proto__" => true
    | .string (.plain "__proto__") _ => true
    | _ => false

def objectProperty (c : Context) (id : Nat) (p : Expr) : Run Unit := do
  match p with
  | .property k isComputed isShorthand value =>
    if setsPrototype k isComputed isShorthand then
      match ← evaluateHolding 1 c value with
      | .object proto => updateObject id fun o => { o with proto := some proto }
      | .null => updateObject id fun o => { o with proto := none }
      | _ => pure ()
    else
      let key ← keyOf c isComputed k
      let v ← if isNameless value then evaluateNamed c (← key.functionName) value
        else evaluateHolding 1 c value
      updateObject id (·.store key (.plain v))
  | .method kind k isComputed f =>
    let key ← keyOf c isComputed k
    let name ← key.functionName
    let f ← newMethod c f (accessorWord kind ++ name) id
    let old := (← objectAt id).properties.get? key
    updateObject id (·.store key (methodProperty kind (.object f) old true))
  | .spread e =>
    let v ← evaluateHolding 1 c e
    copyProperties id v []
  | _ => return

def unaryOperation (c : Context) (op : UnaryOp) (e : Expr) : Run Value := do
  match op, e with
  | .typeOf, .identifier name =>
    match ← valueAt? name (← locate name c.scope) with
    | some v => return .text ((← get).typeName v)
    | none => return .text "undefined"
  | .delete, .member base isOptional name =>
    let v ← evaluate c base
    linked isOptional v
    remove v (.named name)
  | .delete, .index base isOptional k =>
    let v ← evaluate c base
    linked isOptional v
    let k ← evaluateHolding 1 c k
    remove v (← toKey k)
  | .delete, .identifier name =>
    match ← locate name c.scope with
    | .object id _ => return .bool (← deleteProperty id (.named name))
    | .global => return .bool (← deleteProperty Intrinsic.globalObject.id (.named name))
    | .variable .. => return .bool false
  | .delete, .chain e =>
    tryCatch (evaluate c (.unary .delete e)) fun
      | .cut => return .bool true
      | e => throw e
  | .delete, e => do
    let _ ← evaluate c e
    return .bool true
  | .typeOf, e => do
    let v ← evaluate c e
    return .text ((← get).typeName v)
  | .void, e => do
    let _ ← evaluate c e
    return .undefined
  | .not, e => return .bool !(← evaluate c e).isTrue
  | .plus, e => return .number (← toNumber (← evaluate c e))
  | .minus, e =>
    match ← toNumeric (← evaluate c e) with
    | .number x => return .number (-x)
    | .bigint n => return .bigint (-n)
  | .bitNot, e =>
    match ← toNumeric (← evaluate c e) with
    | .number x => return .number (Number.bitNot x)
    | .bigint n => return .bigint (-n - 1)
where
  remove (v : Value) (k : Key) : Run Value := do
    let id ← toObject v
    let done ← deleteProperty id k
    if !done && c.isStrict then throwType "Cannot delete property"
    return .bool done

def logicalOperation (c : Context) (op : LogicalOp) (a : Value) (rest : Run Value) : Run Value :=
  let _ := c
  match op with
  | .and => if a.isTrue then rest else return a
  | .or => if a.isTrue then return a else rest
  | .coalesce => if a.isNullish then rest else return a

def updateOperation (c : Context) (isIncrement isPrefixed : Bool) (e : Expr) : Run Value := do
  let t ← targetOf c e
  let old ← toNumeric (← t.get c)
  let new : Numeric := match old with
    | .number x => .number (if isIncrement then x + 1 else x - 1)
    | .bigint n => .bigint (if isIncrement then n + 1 else n - 1)
  t.set c new.value
  return if isPrefixed then new.value else old.value

def assignment (c : Context) (op : AssignOp) (target value : Expr) : Run Value := do
  match op with
  | .plain =>
    let t ← targetOf c target
    let v ← match target with
      | .identifier name => if isNameless value then evaluateNamed c name value else evaluate c value
      | _ => evaluateHolding 1 c value
    match t with
    | .pattern p => destructure c .assign p v
    | t => t.set c v
    return v
  | .binary op =>
    let t ← targetOf c target
    let old ← t.get c
    let v ← evaluateHolding 1 c value
    let v ← binary op old v
    t.set c v
    return v
  | .logical op =>
    let t ← targetOf c target
    let old ← t.get c
    logicalOperation c op old do
      let v ← match target with
        | .identifier name => evaluateNamed c name value
        | _ => evaluateHolding 1 c value
      t.set c v
      return v

def expression (c : Context) (e : Expr) : Run Value := do
  match e with
  | .identifier "undefined" =>
    match ← locate "undefined" c.scope with
    | .global => return .undefined
    | p => return (← valueAt? "undefined" p).getD .undefined
  | .identifier name => lookUp name c.scope
  | .this => thisValue c
  | .null => return .null
  | .bool b => return .bool b
  | .number x _ => return .number x
  | .bigint n => return .bigint n
  | .string s _ => return .string s
  | .regex source flags => newPattern Intrinsic.patternPrototype.id source flags
  | .template quasis values => return .string (← templateText c quasis values .empty)
  | .tagged tag _ quasis values => taggedTemplate c tag quasis values
  | .array elements =>
    let es ← elementsOf c elements
    let id ← allocate { proto := some Intrinsic.arrayPrototype.id, kind := .array es es.size false }
    return .object id
  | .object properties =>
    let id ← newPlain
    for p in properties do objectProperty c id p
    return .object id
  | .function .. | .arrow .. => newFunction c e .empty
  | .class _ _ _ name _ parent _ _ members => newClass c name parent members .empty
  | .unary op operand => unaryOperation c op operand
  | .update isIncrement isPrefixed target => updateOperation c isIncrement isPrefixed target
  | .binary .isIn (.privateName name) right =>
    let k ← privateKey c name
    match ← evaluate c right with
    | .object id => return .bool ((← objectAt id).properties.get? k).isSome
    | v =>
      throwType ("right-hand side of 'in' should be an object, got \x60" ++ (← get).typeName v ++ "\x60")
  | .binary op left right =>
    let a ← evaluate c left
    let b ← evaluateHolding 1 c right
    binary op a b
  | .logical op left right =>
    let a ← evaluate c left
    logicalOperation c op a (evaluate c right)
  | .assign op target value => assignment c op target value
  | .conditional test yes no =>
    if (← evaluate c test).isTrue then evaluate c yes else evaluate c no
  | .sequence parts =>
    let mut last := Value.undefined
    for p in parts do
      last ← evaluate c p
    return last
  | .new callee _ args _ => newExpression c callee args
  | .call callee isOptional _ args _ => callExpression c callee isOptional args
  | .member .. | .index .. | .privateMember .. => return (← calleeOf c e).2
  | .chain links =>
    tryCatch (evaluate c links) fun
      | .cut => return .undefined
      | e => throw e
  | .newTarget => return (← frameOf c).newTarget
  | .await operand =>
    let _ ← evaluate c operand
    throw .suspended
  | .importCall source _ =>
    let _ ← evaluate c source
    let id ← allocate { proto := some Intrinsic.promisePrototype.id, kind := .promise .pending }
    return .object id
  | .paren inner => evaluate c inner
  | .commented _ inner => evaluate c inner
  | _ => raise .malformed "unexpected token"

end PagePreview.Machine
