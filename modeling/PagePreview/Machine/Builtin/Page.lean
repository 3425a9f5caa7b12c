import PagePreview.Machine.Evaluate
import PagePreview.Machine.Builtin.Objects
import PagePreview.Machine.Builtin.Patterns
import PagePreview.Number.Fixed
import PagePreview.Render.Hook
import PagePreview.Render.Node

/-! The handle of a page: how the machine's values are rendered, and the functions that pages reach
their runtime by. A page that redefines a built-in function on which rendering rests is rendered by
what it put in its place. -/

namespace PagePreview.Machine.Builtin
open Script Run

def markSymbol (k : Render.Mark) : Value := .symbol (wellKnownSymbols.length + k.ctorIdx)

def marks : List Render.Mark :=
  [.element, .fragment, .provider, .consumer, .suspense, .strictMode]

def shapeOf (v : Value) : Run Render.Shape := do
  match v with
  | .undefined => return .undefined
  | .null => return .null
  | .bool b => return .bool b
  | .number x => return .number (x == 0)
  | .bigint _ => return .bigint
  | .string s => return .text s
  | .symbol _ => return .symbol
  | .object _ => return if (← get).isCallable v then .function else .object

def isBuiltin (v : Value) (family : Family) (name : String) : Run Bool := do
  match v with
  | .object id => match (← objectAt id).kind with
    | .native f => return f.family == family && f.name == name
    | _ => return false
  | _ => return false

def globalMember (owner name : String) : Run (Value × Value) := do
  let holder ← lookUp owner globalScope
  return (holder, ← getValue holder (.named name))

def foldList {σ : Type} (list : Value) (start : σ) (step : σ → Nat → Value → Run σ) : Run σ := do
  let each ← getValue list (.named "forEach")
  if !(← isBuiltin each .array "forEach") then
    let _ ← call each list #[Intrinsic.pageNoop.value]
    return start
  let id ← toObject list
  let n ← lengthOf id
  let mut state := start
  for i in [0:n] do
    if ← hasAt id i then
      let v ← getAt id i
      state ← counted 5 (step state i v)
  return state

def foldNames {σ : Type} (v : Value) (start : σ) (step : σ → Str → Run σ) : Run σ := do
  let (holder, keys) ← globalMember "Object" "keys"
  foldList (← call keys holder #[v]) start fun state _ name => do step state (← toText name)

def mapList (list : Value) (other : Value) (step : Nat → Value → Run Value) : Run Value := do
  let map ← getValue list (.named "map")
  if !(← isBuiltin map .array "map") then return ← call map list #[other]
  let id ← toObject list
  let n ← lengthOf id
  let mut out := #[]
  for i in [0:n] do
    if ← hasAt id i then out := out.push (some (← step i (← getAt id i)))
    else out := out.push none
  return .object (← allocate {
    proto := some Intrinsic.arrayPrototype.id, kind := .array out out.size false })

def asksIsList (v : Value) : Run Bool := do
  let (holder, f) ← globalMember "Array" "isArray"
  if ← isBuiltin f .array "isArray" then isList v
  else return (← call f holder #[v]).isTrue

def constructedText (v : Value) : Run Str := do
  let f ← lookUp "String" globalScope
  match v, ← isBuiltin f .string "constructor" with
  | .string s, true => return s
  | _, _ => toText (← call f .undefined #[v])

def escapedBy (s : Str) : Run Str := do
  if ← isBuiltin (← getOf Intrinsic.stringPrototype.id (.named "replace")) .string "replace" then
    return Render.escape s
  let mut v := Value.string s
  for (c, reference) in Render.escapes do
    let pattern ← makePattern #[.text (String.singleton c), .text "g"] Intrinsic.patternPrototype.id
    v ← invoke v "replace" #[pattern, .text reference]
  toText v

def newInstance (f : Value) (args : Array Value) : Run Value := do
  match f with
  | .object id =>
    if !(← get).isConstructor f then throwType "not a constructor"
    construct id args id
  | _ => throwType "not a constructor"

def pageFailure {α : Type} (message : String) : Run α := do
  throwValue (.object (← newError Intrinsic.errorPrototype.id (.plain message)))

def always {α : Type} (step : Run α) (after : Run Unit) : Run α := do
  let a ← tryCatch step fun
    | .thrown v => do
      after
      throwValue v
    | e => throw e
  after
  return a

def renderHost : Render.Host Run Value where
  undefined := .undefined
  null := .null
  ofText := .string
  ofBool := .bool
  ofNat := .ofNat
  ofMark := markSymbol
  shape := shapeOf
  isTrue := Value.isTrue
  same := Value.same
  isList := asksIsList
  get v k := getValue v (.text k)
  set v k x := setValue true v (.text k) x
  isInborn name := return (← getFrom Intrinsic.objectPrototype.id (.text name) Intrinsic.handle.value).isTrue
  foldNames := foldNames
  foldItems := foldList
  mapItems list step := mapList list Intrinsic.pageNoop.value step
  mapNodes list step :=
    mapList list Intrinsic.pageRenderNode.value fun _ v => Value.string <$> counted 5 (step v)
  joined v separator := do toText (← invoke v "join" #[.string separator])
  call f this args := call f this args.toArray
  construct f args := newInstance f args.toArray
  text := constructedText
  addedText v := do toText (← add (.text "") v)
  escaped := escapedBy
  newRecord := newRecord
  newList vs := newListValue vs.toArray
  assign target sources := do
    let (holder, f) ← globalMember "Object" "assign"
    call f holder (target :: sources).toArray
  fail := pageFailure
  finally_ := always
  framed n := counted (n + 2)

/-- A function of the page's runtime as an object, with the prototype that scripts' functions have. -/
def newPageFunction (name : String) (title : String) (length : Nat) (captured : List Value) : Run Nat := do
  let id ← allocate {
    proto := some Intrinsic.functionPrototype.id
    kind := .native { family := .page, name, captured, isConstructor := true }
    properties := .ofList [(.length, .data (.ofNat length) false false true),
      (.name, .data (.text title) false false true)] }
  let proto ← allocate {
    proto := some Intrinsic.objectPrototype.id
    properties := .ofList [(.constructor, .unlisted (.object id))] }
  updateObject id (·.store .prototype (.data (.object proto) true false false))
  return id

def startComponent (this props context : Value) : Run Unit := do
  let set (name : String) (v : Value) : Run Unit := setValue true this (.named name) v
  set "props" props
  set "context" context
  let state ← getValue this (.named "state")
  set "state" (← if state.isTrue then pure state else Value.object <$> newPlain)
  set "refs" (.object (← newPlain))

def wrapper (name : String) (type : Value) : Run Value := do
  let title := if name == "memo" then "Memo" else "Forwarded"
  let id ← newPageFunction (name ++ "Component") title 1 [type]
  setValue true (.object id) (.named "displayName") (← Render.Hook.displayName renderHost type)
  return .object id

def renderAgain (v : Value) : Run Str := do
  toText (← call Intrinsic.pageRenderNode.value .undefined #[v])

def pageResult (f : Native) (this : Value) (args : Array Value) : Run Value := do
  let h := renderHost
  let first := argument args 0
  let second := argument args 1
  let third := argument args 2
  match f.name with
  | "createElement" => Render.createElement h first second (args.toList.drop 2)
  | "cloneElement" => Render.cloneElement h first second (args.toList.drop 2)
  | "isValidElement" => return .bool (← Render.isElement h first)
  | "toArray" => Render.Children.toArray h first
  | "map" => Render.Children.map h first second third
  | "forEach" => Render.Children.forEach h first second third
  | "count" => Render.Children.count h first
  | "only" => Render.Children.only h first
  | "Component" => do
    startComponent this first second
    return .undefined
  | "PureComponent" => do
    counted 4 (startComponent this first second)
    return .undefined
  | "createContext" => Render.Hook.createContext h first
  | "memo" | "forwardRef" => wrapper f.name first
  | "memoComponent" => counted 4 (Render.createElement h (f.captured.headD .undefined) first [])
  | "forwardRefComponent" => call (f.captured.headD .undefined) .undefined #[first, .null]
  | "lazy" => return .object (← newPageFunction "nothing" "" 0 [])
  | "nothing" => return .null
  | "useState" => Render.Hook.useState h Intrinsic.pageNoop.value first
  | "useReducer" => Render.Hook.useReducer h Intrinsic.pageNoop.value second third
  | "useMemo" => Render.Hook.useMemo h first
  | "useCallback" | "useDeferredValue" => return first
  | "useRef" => Render.Hook.useRef h first
  | "useId" => do
    modify fun s => { s with identifiers := s.identifiers + 1 }
    let n := (← get).identifiers
    return .text (":r" ++ Number.wholeText 36 n ++ ":")
  | "useContext" => Render.Hook.useContext h first
  | "useTransition" => do
    newListValue #[.bool false, .object (← newPageFunction "startTransition" "" 1 [])]
  | "startTransition" => do
    let _ ← call first .undefined #[]
    return .undefined
  | "useSyncExternalStore" => Render.Hook.useSyncExternalStore h second third
  | "renderNode" => return .string (← Render.nodeMarkup h renderAgain first)
  | "renderToString" => do
    modify fun s => { s with identifiers := 0 }
    return .string (← renderAgain first)
  | _ => return .undefined

def pageFunction (f : Native) (this : Value) (args : Array Value) (newTarget : Option Nat) : Run Value := do
  let this ← match newTarget with
    | some t => do
      let proto ← protoFor t .objectPrototype
      pure (Value.object (← allocate { proto := some proto }))
    | none => pure this
  let result ← counted (args.size + 2) (pageResult f this args)
  match newTarget, result with
  | none, v => return v
  | some _, .object id => return .object id
  | some _, _ => return this

end PagePreview.Machine.Builtin
