import PagePreview.Machine.Builtin

/-! The store as it is before any script runs: the built-in objects at their places, the global
object's properties, and the handle of the page's runtime. -/

namespace PagePreview.Machine
open Script Builtin

namespace Realm

structure Blueprint where
  proto : Option Nat
  kind : Kind := .plain
  members : List (Key × Property) := []
  isExtensible : Bool := true

def Blueprint.object (b : Blueprint) : Object where
  proto := b.proto
  kind := b.kind
  properties := .ofList b.members
  isExtensible := b.isExtensible

/-- One act of filling the store. No member is a place of a row, so all go into the objects' tables. -/
inductive Act
  | put (id : Nat) (b : Blueprint)
  | give (owner : Nat) (k : Key) (p : Property)
  | share (owner : Nat) (member : Key) (target : Nat) (k : Key)

def addMember (os : Array Object) (owner : Nat) (k : Key) (p : Property) : Array Object :=
  os.modify owner fun o => { o with properties := o.properties.insert k p }

def Act.apply (os : Array Object) : Act → Array Object
  | .put id b => os.setIfInBounds id b.object
  | .give owner k p => addMember os owner k p
  | .share owner member target k =>
    match (os[owner]?).bind (·.properties.get? member) with
    | some p => addMember os target k p
    | none => os

structure Plan where
  size : Nat
  acts : List Act

def Plan.objects (p : Plan) : Array Object :=
  p.acts.foldr (fun act os => act.apply os) (Array.replicate p.size default)

abbrev Setup := StateM Plan

def act (a : Act) : Setup Unit := modify fun p => { p with acts := a :: p.acts }

def add (b : Blueprint) : Setup Nat := do
  let id := (← get).size
  modify fun p => { p with size := id + 1 }
  act (.put id b)
  return id

def put (i : Intrinsic) (b : Blueprint) : Setup Unit := act (.put i.id b)

def give (owner : Nat) (k : Key) (p : Property) : Setup Unit := act (.give owner k p)

def plainObject (proto : Intrinsic) (kind : Kind := .plain) : Blueprint := { proto := some proto.id, kind }

def functionObject (family : Family) (name title : String) (length : Nat) (isConstructor : Bool := false)
    (proto : Intrinsic := .functionPrototype) : Blueprint where
  proto := some proto.id
  kind := .native { family, name, isConstructor }
  members := [(.length, .data (.ofNat length) false false true),
    (.name, .data (.text title) false false true)]

def memberKey (name : String) : Key :=
  match wellKnownSymbols.findIdx? fun s => name == "[Symbol." ++ s ++ "]" with
  | some i => .symbol i
  | none => .named name

def method (owner : Intrinsic) (family : Family) (name : String) (length : Nat) : Setup Unit := do
  let f ← add (functionObject family name name length)
  give owner.id (memberKey name) (.unlisted (.object f))

def methods (owner : Intrinsic) (family : Family) (table : List (String × Nat)) : Setup Unit :=
  table.forM fun (name, length) => method owner family name length

def knownMethod (owner place : Intrinsic) (family : Family) (name : String) (length : Nat) : Setup Unit := do
  put place (functionObject family name name length)
  give owner.id (.named name) (.unlisted place.value)

def getter (owner : Intrinsic) (family : Family) (name : String) : Setup Unit := do
  let f ← add (functionObject family ("get " ++ name) ("get " ++ name) 0)
  give owner.id (memberKey name) (.accessor (.object f) .undefined false true)

def species (owner : Intrinsic) (family : Family) : Setup Unit := getter owner family "[Symbol.species]"

def share (owner : Intrinsic) (name : String) (k : Key) : Setup Unit :=
  act (.share owner.id (.named name) owner.id k)

def tag (owner : Intrinsic) (text : String) : Setup Unit :=
  give owner.id .toStringTag (.data (.text text) false false true)

def global (name : String) (v : Value) : Setup Unit :=
  give Intrinsic.globalObject.id (.named name) (.unlisted v)

def constructor (place prototype : Intrinsic) (family : Family) (name title : String) (length : Nat)
    (parent : Intrinsic := .functionPrototype) : Setup Unit := do
  put place (functionObject family name title length true parent)
  give place.id .prototype (.fixed prototype.value)
  give prototype.id .constructor (.unlisted place.value)
  global title place.value

def plainPrototypes : List Intrinsic := [
  .symbolPrototype, .bigintPrototype, .patternPrototype, .mapPrototype, .setPrototype,
  .weakMapPrototype, .weakSetPrototype, .weakRefPrototype, .promisePrototype, .datePrototype,
  .bufferPrototype, .sharedBufferPrototype, .windowPrototype, .rowPrototype, .iteratorPrototype,
  .errorPrototype, .mathObject, .jsonObject, .reflectObject, .atomicsObject, .consoleObject, .handle,
  .childrenTools, .componentPrototype]

def errorKinds : List (Intrinsic × Intrinsic × String) := [
  (.typeErrorConstructor, .typeErrorPrototype, "TypeError"),
  (.rangeErrorConstructor, .rangeErrorPrototype, "RangeError"),
  (.referenceErrorConstructor, .referenceErrorPrototype, "ReferenceError"),
  (.syntaxErrorConstructor, .syntaxErrorPrototype, "SyntaxError"),
  (.evalErrorConstructor, .evalErrorPrototype, "EvalError"),
  (.uriErrorConstructor, .uriErrorPrototype, "URIError"),
  (.aggregateErrorConstructor, .aggregateErrorPrototype, "AggregateError")]

def iteratorKinds : List (Intrinsic × String) := [
  (.arrayIteratorPrototype, "Array Iterator"), (.stringIteratorPrototype, "String Iterator"),
  (.mapIteratorPrototype, "Map Iterator"), (.setIteratorPrototype, "Set Iterator"),
  (.patternIteratorPrototype, "RegExp String Iterator")]

def placeObjects : Setup Unit := do
  put .globalObject (plainObject .objectPrototype)
  put .objectPrototype { proto := none }
  put .functionPrototype (functionObject .function "" "" 0 false .objectPrototype)
  put .arrayPrototype (plainObject .objectPrototype (.array #[] 0 false))
  put .stringPrototype (plainObject .objectPrototype (.string .empty))
  put .numberPrototype (plainObject .objectPrototype (.number 0))
  put .booleanPrototype (plainObject .objectPrototype (.bool false))
  for p in plainPrototypes do put p (plainObject .objectPrototype)
  for (_, p, _) in errorKinds do put p (plainObject .errorPrototype)
  for (p, _) in iteratorKinds do put p (plainObject .iteratorPrototype)
  for e in Element.all do put (rowIntrinsics e).1 (plainObject .rowPrototype)
  put .generatorPrototype (plainObject .iteratorPrototype)
  put .asyncIteratorPrototype (plainObject .objectPrototype)
  put .asyncGeneratorPrototype (plainObject .asyncIteratorPrototype)
  put .asyncFunctionPrototype (plainObject .functionPrototype)
  put .generatorFunctionPrototype (plainObject .functionPrototype)
  put .asyncGeneratorFunctionPrototype (plainObject .functionPrototype)
  put .pureComponentPrototype (plainObject .componentPrototype)

def objectsAndFunctions : Setup Unit := do
  constructor .objectConstructor .objectPrototype .object "constructor" "Object" 1
  knownMethod .objectConstructor .objectKeys .object "keys" 1
  methods .objectConstructor .object (objectFunctions.filter (·.1 != "keys"))
  methods .objectPrototype .object objectMethods
  let g ← add (functionObject .object "get __proto__" "get __proto__" 0)
  let s ← add (functionObject .object "set __proto__" "set __proto__" 1)
  give Intrinsic.objectPrototype.id (.named "__proto__") (.accessor (.object g) (.object s) false true)
  constructor .functionConstructor .functionPrototype .function "constructor" "Function" 1
  methods .functionPrototype .function functionMethods
  let f ← add (functionObject .function "[Symbol.hasInstance]" "[Symbol.hasInstance]" 1)
  give Intrinsic.functionPrototype.id .hasInstance (.fixed (.object f))
  let thrower := Intrinsic.strictThrower
  put thrower {
    proto := some Intrinsic.functionPrototype.id
    kind := .native { family := .function, name := "strict thrower" }
    members := [(.length, .fixed (.number 0)), (.name, .fixed (.text ""))]
    isExtensible := false }
  for name in ["caller", "arguments"] do
    give Intrinsic.functionPrototype.id (.named name) (.accessor thrower.value thrower.value false true)

def hiddenConstructor (place prototype : Intrinsic) (name title : String) : Setup Unit := do
  put place (functionObject .function name title 1 true .functionConstructor)
  give place.id .prototype (.fixed prototype.value)
  give prototype.id .constructor (.data place.value false false true)
  tag prototype title

def generators : Setup Unit := do
  hiddenConstructor .asyncFunctionConstructor .asyncFunctionPrototype "async constructor" "AsyncFunction"
  hiddenConstructor .generatorFunctionConstructor .generatorFunctionPrototype
    "generator constructor" "GeneratorFunction"
  hiddenConstructor .asyncGeneratorFunctionConstructor .asyncGeneratorFunctionPrototype
    "async generator constructor" "AsyncGeneratorFunction"
  let link (functions objects : Intrinsic) (title : String) : Setup Unit := do
    give functions.id .prototype (.data objects.value false false true)
    give objects.id .constructor (.data functions.value false false true)
    methods objects .generator generatorMethods
    tag objects title
  link .generatorFunctionPrototype .generatorPrototype "Generator"
  link .asyncGeneratorFunctionPrototype .asyncGeneratorPrototype "AsyncGenerator"
  method .asyncIteratorPrototype .iterator "[Symbol.asyncIterator]" 0

def listsAndTexts : Setup Unit := do
  constructor .arrayConstructor .arrayPrototype .array "constructor" "Array" 1
  methods .arrayConstructor .array listFunctions
  knownMethod .arrayPrototype .arrayForEach .array "forEach" 1
  knownMethod .arrayPrototype .arrayValues .array "values" 0
  knownMethod .arrayPrototype .arrayToString .array "toString" 0
  methods .arrayPrototype .array
    (listMethods.filter fun (n, _) => n != "forEach" && n != "values" && n != "toString")
  share .arrayPrototype "values" .iterator
  species .arrayConstructor .array
  let names ← add { proto := none }
  for name in unscopableNames do give names (.named name) (.plain (.bool true))
  give Intrinsic.arrayPrototype.id .unscopables (.data (.object names) false false true)
  constructor .stringConstructor .stringPrototype .string "constructor" "String" 1
  methods .stringConstructor .string textFunctions
  knownMethod .stringPrototype .stringReplace .string "replace" 2
  methods .stringPrototype .string (textMethods.filter (·.1 != "replace"))
  method .stringPrototype .string "[Symbol.iterator]" 0
  constructor .patternConstructor .patternPrototype .pattern "constructor" "RegExp" 2
  methods .patternPrototype .pattern patternMethods
  for name in patternGetters do getter .patternPrototype .pattern name
  species .patternConstructor .pattern

def numbersAndSymbols : Setup Unit := do
  constructor .numberConstructor .numberPrototype .number "constructor" "Number" 1
  methods .numberConstructor .number numberFunctions
  methods .numberPrototype .number numberMethods
  for (name, x) in numberConstants do
    give Intrinsic.numberConstructor.id (.named name) (.fixed (.number x))
  constructor .booleanConstructor .booleanPrototype .boolean "constructor" "Boolean" 1
  methods .booleanPrototype .boolean booleanMethods
  constructor .symbolConstructor .symbolPrototype .symbol "constructor" "Symbol" 0
  methods .symbolConstructor .symbol symbolFunctions
  for (name, i) in wellKnownSymbols.zipIdx do
    give Intrinsic.symbolConstructor.id (.named name) (.fixed (.symbol i))
  methods .symbolPrototype .symbol symbolMethods
  getter .symbolPrototype .symbol "description"
  tag .symbolPrototype "Symbol"
  constructor .bigintConstructor .bigintPrototype .bigint "constructor" "BigInt" 1
  methods .bigintConstructor .bigint bigintFunctions
  methods .bigintPrototype .bigint bigintMethods
  tag .bigintPrototype "BigInt"
  methods .mathObject .math mathFunctions
  for (name, x) in mathConstants do give Intrinsic.mathObject.id (.named name) (.fixed (.number x))
  tag .mathObject "Math"
  global "Math" Intrinsic.mathObject.value

def errors : Setup Unit := do
  let errorMembers (proto : Intrinsic) (name : String) : Setup Unit := do
    give proto.id .name (.unlisted (.text name))
    give proto.id .message (.unlisted (.text ""))
  constructor .errorConstructor .errorPrototype .error "Error" "Error" 1
  errorMembers .errorPrototype "Error"
  method .errorPrototype .error "toString" 0
  for (place, proto, name) in errorKinds do
    constructor place proto .error name name (if name == "AggregateError" then 2 else 1) .errorConstructor
    errorMembers proto name

def collections : Setup Unit := do
  constructor .mapConstructor .mapPrototype .map "constructor" "Map" 0
  methods .mapPrototype .map mapMethods
  getter .mapPrototype .map "size"
  share .mapPrototype "entries" .iterator
  tag .mapPrototype "Map"
  method .mapConstructor .map "groupBy" 2
  species .mapConstructor .map
  constructor .setConstructor .setPrototype .set "constructor" "Set" 0
  methods .setPrototype .set setMethods
  getter .setPrototype .set "size"
  share .setPrototype "values" .iterator
  share .setPrototype "values" (.named "keys")
  tag .setPrototype "Set"
  species .setConstructor .set
  constructor .weakMapConstructor .weakMapPrototype .weakMap "constructor" "WeakMap" 0
  methods .weakMapPrototype .weakMap weakMapMethods
  tag .weakMapPrototype "WeakMap"
  constructor .weakSetConstructor .weakSetPrototype .weakSet "constructor" "WeakSet" 0
  methods .weakSetPrototype .weakSet weakSetMethods
  tag .weakSetPrototype "WeakSet"
  constructor .weakRefConstructor .weakRefPrototype .weakRef "constructor" "WeakRef" 1
  method .weakRefPrototype .weakRef "deref" 0
  tag .weakRefPrototype "WeakRef"
  method .iteratorPrototype .iterator "[Symbol.iterator]" 0
  for (proto, title) in iteratorKinds do
    method proto .iterator "next" 0
    tag proto title

def buffers : Setup Unit := do
  constructor .bufferConstructor .bufferPrototype .buffer "ArrayBuffer" "ArrayBuffer" 1
  methods .bufferConstructor .buffer bufferFunctions
  methods .bufferPrototype .buffer bufferMethods
  for name in bufferGetters do getter .bufferPrototype .buffer name
  tag .bufferPrototype "ArrayBuffer"
  constructor .sharedBufferConstructor .sharedBufferPrototype .buffer "SharedArrayBuffer" "SharedArrayBuffer" 1
  let shared (name title : String) (length : Nat) : Setup Value := do
    return .object (← add (functionObject .buffer ("shared " ++ name) title length))
  for (name, length) in sharedMethods do
    give Intrinsic.sharedBufferPrototype.id (.named name) (.unlisted (← shared name name length))
  for name in sharedGetters do
    let f ← shared ("get " ++ name) ("get " ++ name) 0
    give Intrinsic.sharedBufferPrototype.id (.named name) (.accessor f .undefined false true)
  tag .sharedBufferPrototype "SharedArrayBuffer"
  species .bufferConstructor .buffer
  species .sharedBufferConstructor .buffer
  constructor .windowConstructor .windowPrototype .window "constructor" "DataView" 1
  methods .windowPrototype .window windowMethods
  for name in windowGetters do getter .windowPrototype .window name
  tag .windowPrototype "DataView"
  methods .atomicsObject .atomics atomicFunctions
  tag .atomicsObject "Atomics"
  global "Atomics" Intrinsic.atomicsObject.value

def rows : Setup Unit := do
  constructor .rowConstructor .rowPrototype .row "constructor" "TypedArray" 0
  methods .rowConstructor .row rowFunctions
  species .rowConstructor .row
  methods .rowPrototype .row rowMethods
  give Intrinsic.rowPrototype.id (.named "toString") (.unlisted Intrinsic.arrayToString.value)
  for name in rowGetters do getter .rowPrototype .row name
  getter .rowPrototype .row "[Symbol.toStringTag]"
  share .rowPrototype "values" .iterator
  for e in Element.all do
    let (proto, place) := rowIntrinsics e
    constructor place proto .row e.rowName e.rowName 3 .rowConstructor
    for id in [place.id, proto.id] do
      give id (.named "BYTES_PER_ELEMENT") (.fixed (.ofNat e.size))

def others : Setup Unit := do
  constructor .promiseConstructor .promisePrototype .promise "constructor" "Promise" 1
  methods .promiseConstructor .promise promiseFunctions
  methods .promisePrototype .promise promiseMethods
  tag .promisePrototype "Promise"
  species .promiseConstructor .promise
  put .proxyConstructor (functionObject .proxy "constructor" "Proxy" 2 true)
  method .proxyConstructor .proxy "revocable" 2
  global "Proxy" Intrinsic.proxyConstructor.value
  constructor .dateConstructor .datePrototype .date "constructor" "Date" 7
  methods .dateConstructor .date dateFunctions
  methods .datePrototype .date dateMethods
  let f ← add (functionObject .date "[Symbol.toPrimitive]" "[Symbol.toPrimitive]" 1)
  give Intrinsic.datePrototype.id .toPrimitive (.data (.object f) false false true)
  methods .jsonObject .json [("parse", 2), ("stringify", 3)]
  tag .jsonObject "JSON"
  global "JSON" Intrinsic.jsonObject.value
  methods .reflectObject .reflect reflectFunctions
  tag .reflectObject "Reflect"
  global "Reflect" Intrinsic.reflectObject.value

def globals : Setup Unit := do
  let id := Intrinsic.globalObject.id
  give id (.named "globalThis") (.unlisted Intrinsic.globalObject.value)
  give id (.named "undefined") (.fixed .undefined)
  give id (.named "NaN") (.fixed .nan)
  give id (.named "Infinity") (.fixed (.number (1.0 / 0.0)))
  methods .globalObject .global globalFunctions
  for name in ["parseFloat", "parseInt"] do
    act (.share id (.named name) Intrinsic.numberConstructor.id (.named name))
  knownMethod .globalObject .evalFunction .global "eval" 1
  let noop ← add (functionObject .console "noop" "noop" 0 true)
  for name in ["log", "info", "warn", "error", "debug", "trace"] do
    give Intrinsic.consoleObject.id (.named name) (.plain (.object noop))
  give id (.named "console") (.data Intrinsic.consoleObject.value true true false)

def pageFunctionAt (id : Nat) (name title : String) (length : Nat) : Setup Unit := do
  act (.put id (functionObject .page name title length true))
  let proto ← add (plainObject .objectPrototype)
  give proto .constructor (.unlisted (.object id))
  give id .prototype (.data (.object proto) true false false)

def pageFunctionNamed (name : String) (length : Nat) : Setup Value := do
  let id ← add { proto := none }
  pageFunctionAt id name name length
  return .object id

def componentFunction (name : String) (proto : Intrinsic) : Setup Value := do
  let id ← add (functionObject .page name name 2 true)
  give id .prototype (.data proto.value true false false)
  return .object id

def firstPageFunctions : List (String × Nat) := [("cloneElement", 2), ("isValidElement", 1)]

def wrapperFunctions : List (String × Nat) :=
  [("createContext", 1), ("memo", 1), ("forwardRef", 1), ("lazy", 0), ("useState", 1), ("useReducer", 3)]

def idleHooks : List String := [
  "useEffect", "useLayoutEffect", "useInsertionEffect", "useImperativeHandle", "useDebugValue"]

def lastPageFunctions : List (String × Nat) := [
  ("useMemo", 1), ("useCallback", 1), ("useRef", 1), ("useId", 0), ("useContext", 1),
  ("useTransition", 0), ("useDeferredValue", 1), ("useSyncExternalStore", 3), ("startTransition", 1),
  ("renderToString", 1)]

def handle : Setup Unit := do
  let id := Intrinsic.handle.id
  let member (name : String) (v : Value) : Setup Unit := give id (.named name) (.plain v)
  let functions (table : List (String × Nat)) : Setup Unit := table.forM fun (name, length) => do
    member name (← pageFunctionNamed name length)
  pageFunctionAt Intrinsic.pageNoop.id "noop" "noop" 0
  pageFunctionAt Intrinsic.pageRenderNode.id "renderNode" "renderNode" 1
  pageFunctionAt Intrinsic.pageCreateElement.id "createElement" "createElement" 2
  member "createElement" Intrinsic.pageCreateElement.value
  functions firstPageFunctions
  for (name, length) in [("toArray", 1), ("map", 3), ("forEach", 3), ("count", 1), ("only", 1)] do
    give Intrinsic.childrenTools.id (.named name) (.plain (← pageFunctionNamed name length))
  member "Children" Intrinsic.childrenTools.value
  member "Fragment" (markSymbol .fragment)
  member "Suspense" (markSymbol .suspense)
  member "StrictMode" (markSymbol .strictMode)
  let component ← componentFunction "Component" .componentPrototype
  let proto := Intrinsic.componentPrototype.id
  give proto .constructor (.unlisted component)
  give proto (.named "isReactComponent") (.plain (.object (← add (plainObject .objectPrototype))))
  give proto (.named "setState") (.plain Intrinsic.pageNoop.value)
  give proto (.named "forceUpdate") (.plain Intrinsic.pageNoop.value)
  let pureComponent ← componentFunction "PureComponent" .pureComponentPrototype
  give Intrinsic.pureComponentPrototype.id .constructor (.plain pureComponent)
  member "Component" component
  member "PureComponent" pureComponent
  functions wrapperFunctions
  for name in idleHooks do member name Intrinsic.pageNoop.value
  functions lastPageFunctions
  member "version" (.text "18.3.1")

def build : Setup Unit := do
  placeObjects
  objectsAndFunctions
  generators
  listsAndTexts
  numbersAndSymbols
  errors
  collections
  buffers
  rows
  others
  globals
  handle

def plan : Plan := (build.run { size := Intrinsic.count, acts := [] }).2

def objects : Array Object := plan.objects

def symbols : Array SymbolInfo :=
  (wellKnownSymbols.map fun name => ({ description := some (.plain ("Symbol." ++ name)) } : SymbolInfo)).toArray ++
    (marks.map fun (k : Render.Mark) => ({ description := some (.plain k.name), isShared := true } : SymbolInfo)).toArray

end Realm

def State.initial (limits : Limits) : State where
  objects := Realm.objects
  symbols := Realm.symbols
  scopes := #[{ outer := none, frame := some { this := some Intrinsic.globalValue } }]
  limits

end PagePreview.Machine
