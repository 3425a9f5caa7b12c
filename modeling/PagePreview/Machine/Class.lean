import PagePreview.Machine.Destructure

/-! Classes: a constructor with its prototype, and what each object of the class is given. -/

namespace PagePreview.Machine
open Script

def privateNames (members : List Expr) : List String :=
  (members.filterMap fun
    | .methodMember _ _ _ (.privateName n) _ _ => some n
    | .fieldMember _ _ (.privateName n) _ _ _ => some n
    | _ => none).foldl (fun ns n => if ns.contains n then ns else ns ++ [n]) []

def constructorOf? (members : List Expr) : Option Expr :=
  members.findSome? fun
    | .methodMember _ _ .constructor _ _ f => some f
    | _ => none

def defaultConstructor (isDerived : Bool) : Code :=
  let rest := Expr.restParam [] (.identifier "args") none
  let body := if isDerived then
      [Stmt.expression (.call .super false [] [.spread (.identifier "args")] false)]
    else []
  { kind := .constructor isDerived, isStrict := true, params := if isDerived then [rest] else []
    plainParams := if isDerived then none else some [], body, names := {}, usesArguments := false }

def constructorCode (isDerived : Bool) (members : List Expr) : Code :=
  match (constructorOf? members).bind (codeOf? true (.constructor isDerived)) with
  | some (_, code) => code
  | none => defaultConstructor isDerived

def parents (parent : Option Value) : Run (Option Nat × Nat) := do
  match parent with
  | none => return (some Intrinsic.objectPrototype.id, Intrinsic.functionPrototype.id)
  | some .null => return (none, Intrinsic.functionPrototype.id)
  | some v =>
    if !(← get).isConstructor v then throwType "superclass must be a constructor"
    match v with
    | .object id =>
      match ← getOf id .prototype with
      | .object p => return (some p, id)
      | .null => return (none, id)
      | _ => throwType "superclass prototype must be an object or null"
    | _ => return (none, Intrinsic.functionPrototype.id)

def memberKey (c : Context) (isComputed : Bool) (k : Expr) : Run Key :=
  match k with
  | .privateName n => privateKey c n
  | k => keyOf c isComputed k

def methodProperty (kind : MethodKind) (f : Value) (old : Option Property) (isListed : Bool) :
    Property :=
  match kind, old with
  | .getter, some (.accessor _ setter ..) => .accessor f setter isListed true
  | .setter, some (.accessor getter ..) => .accessor getter f isListed true
  | .getter, _ => .accessor f .undefined isListed true
  | .setter, _ => .accessor .undefined f isListed true
  | _, _ => .data f true isListed true

def accessorWord : MethodKind → Str
  | .getter => "get "
  | .setter => "set "
  | _ => .empty

def addHidden (kind : MethodKind) (k : Key) (f : Value) (ms : Array (Key × Property)) :
    Array (Key × Property) :=
  let old := (ms.find? (·.1 == k)).map Prod.snd
  let p := match kind, methodProperty kind f old false with
    | .plain, _ => .data f false false false
    | _, p => p
  if old.isSome then ms.map fun m => if m.1 == k then (k, p) else m else ms.push (k, p)

def asMethod {α : Type} (c : Context) (this : Value) (home : Nat) (step : Context → Run α) : Run α :=
  inScope { outer := some c.scope, frame := some { this := some this, home := some home } } fun scope =>
    step { c with scope, frame := scope }

def giveField (this : Value) (home : Nat) (f : Field) : Run Unit := do
  let v ← match f.value with
    | none => pure .undefined
    | some e => asMethod f.context this home fun c => evaluateNamed c f.name e
  let .object id := this | return
  match f.key with
  | .hidden _ =>
    if ((← objectAt id).properties.get? f.key).isSome then
      throwType "private field was already defined"
    updateObject id (·.store f.key (.data v true false false))
  | k =>
    if !(← defineProperty id k (.ofProperty (.plain v))) then throwType "cannot define property"

def giveMembers (this : Nat) (constructor : Nat) : Run Unit := do
  match (← objectAt constructor).kind with
  | .closure _ _ home ms =>
    for (k, p) in ms.methods do
      updateObject this (·.store k p)
    for f in ms.fields do
      giveField (.object this) (home.getD constructor) f
  | _ => return

structure Gathered where
  members : Members := ⟨#[], #[]⟩
  statics : List (Run Unit) := []

def addMember (c : Context) (constructor proto : Nat) (g : Gathered) (m : Expr) : Run Gathered := do
  match m with
  | .methodMember _ _ .constructor .. => return g
  | .methodMember _ mods kind k isComputed f =>
    let key ← memberKey c isComputed k
    let target := if mods.isStatic then constructor else proto
    let name ← key.functionName
    let id ← newMethod c f (accessorWord kind ++ name) target
    match key, mods.isStatic with
    | .hidden _, false =>
      return { g with members := { g.members with
        methods := addHidden kind key (.object id) g.members.methods } }
    | key, _ =>
      let old := (← objectAt target).properties.get? key
      updateObject target (·.store key (methodProperty kind (.object id) old false))
      return g
  | .fieldMember _ mods k isComputed _ value =>
    let key ← memberKey c isComputed k
    let field : Field := { key, value, context := c, name := ← key.functionName }
    pin
    if mods.isStatic then
      return { g with statics := g.statics ++ [giveField (.object constructor) constructor field] }
    else return { g with members := { g.members with fields := g.members.fields.push field } }
  | .staticBlock body =>
    let run : Run Unit := asMethod c (.object constructor) constructor fun c => do
      let f : Code := .of .method false false true [] body
      let id ← newClosure c f .empty (some constructor)
      let _ ← Run.call (.object id) (.object constructor) #[]
    return { g with statics := g.statics ++ [run] }
  | _ => return g

def newClass (c : Context) (name : Option String) (parent : Option Expr) (members : List Expr)
    (fallback : Str) : Run Value := do
  let scope ← openScope { outer := some c.scope }
  if let some n := name then declare scope n { value := none, isMutable := false }
  for n in privateNames members do
    let id ← newSymbol (some (.plain ("#" ++ n)))
    declare scope ("#" ++ n) { value := some (.symbol id), isMutable := false }
  let c := { c with scope, isStrict := true }
  let parentValue ← match parent with
    | some e => some <$> Run.evaluate c e
    | none => pure none
  let (protoParent, constructorParent) ← parents parentValue
  let proto ← allocate { proto := protoParent }
  let code := constructorCode parent.isSome members
  let shown : Str := match name with
    | some n => n
    | none => fallback
  let id ← newClosure c code shown (some proto)
  updateObject id fun o => { o with proto := some constructorParent }
  updateObject id (·.store .prototype (.data (.object proto) false false false))
  updateObject proto (·.store .constructor (.unlisted (.object id)))
  let mut g : Gathered := {}
  for m in members do
    g ← addMember c id proto g m
  let ms := g.members
  updateObject id fun o => match o.kind with
    | .closure code c home _ => { o with kind := .closure code c home ms }
    | _ => o
  if let some n := name then start scope n (.object id)
  for run in g.statics do
    run
  return .object id

end PagePreview.Machine
