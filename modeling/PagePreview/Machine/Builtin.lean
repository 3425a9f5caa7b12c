import PagePreview.Machine.Builtin.Dates
import PagePreview.Machine.Builtin.Errors
import PagePreview.Machine.Builtin.Functions
import PagePreview.Machine.Builtin.Json
import PagePreview.Machine.Builtin.Numbers
import PagePreview.Machine.Builtin.Page
import PagePreview.Machine.Builtin.Promises
import PagePreview.Machine.Builtin.Rows
import PagePreview.Machine.Builtin.Texts

/-! Built-in functions by family and name. Functions of the page's runtime and of the console count
as calls of scripts; all others only meet the limits. -/

namespace PagePreview.Machine
open Script Run Builtin

def strictComplaint : String :=
  "'caller', 'callee', and 'arguments' properties may not be accessed on strict mode functions or the arguments objects for calls to them"

def builtinOf (f : Native) (this : Value) (args : Array Value) (newTarget : Option Nat) : Run Value := do
  let name := f.name
  let isConstructor := name == "constructor"
  let isAmong (functions : List (String × Nat)) : Bool := isConstructor || functions.any (·.1 == name)
  let inNew (fallback : Intrinsic) (title : String) : Run Nat := do
    if newTarget.isNone then throwType (newComplaint title)
    madeFor newTarget fallback
  let first := argument args 0
  let collection (fallback : Intrinsic) (title : String) (kind : Entries → Kind) : Run Value := do
    if isConstructor then makeCollection f.family (← inNew fallback title) kind first
    else collectionMethod f.family name this args
  if name == "get [Symbol.species]" then return this
  match f.family with
  | .global => globalFunction name args
  | .object => if isAmong objectFunctions then objectFunction name args newTarget else objectMethod name this args
  | .function =>
    if name == "strict thrower" then throwType strictComplaint
    else if name.endsWith "constructor" then makeFunction name args
    else functionMethod name this args
  | .array => if isAmong listFunctions then listFunction name this args newTarget else listMethod name this args
  | .string => if isAmong textFunctions then textFunction name args newTarget else textMethod name this args
  | .number => if isAmong numberFunctions then numberFunction name args newTarget else numberMethod name this args
  | .boolean =>
    if isConstructor then wrapped newTarget .booleanPrototype (.bool first.isTrue) (.bool first.isTrue)
    else booleanMethod name this
  | .symbol => if isAmong symbolFunctions then symbolFunction name args newTarget else symbolMethod name this
  | .bigint => if isAmong bigintFunctions then bigintFunction name args newTarget else bigintMethod name this args
  | .math => mathFunction name args
  | .json => jsonFunction name args
  | .error => if name == "toString" then errorText this else makeError name args newTarget
  | .pattern =>
    if isConstructor then makePattern args newTarget
    else if name.startsWith "get " then patternGetter (name.drop 4).toString this
    else patternMethod name this args
  | .map => if name == "groupBy" then mapOfGroups args else collection .mapPrototype "Map" .map
  | .set => collection .setPrototype "Set" .set
  | .weakMap => collection .weakMapPrototype "WeakMap" .weakMap
  | .weakSet => collection .weakSetPrototype "WeakSet" .weakSet
  | .weakRef => if isConstructor then makeWeakRef args newTarget else weakRefMethod this
  | .promise =>
    if isAmong promiseFunctions then promiseFunction name this args newTarget else promiseMethod f this args
  | .proxy => proxyFunction f args newTarget
  | .reflect => reflectFunction name args
  | .iterator => iteratorMethod name this
  | .generator => generatorMethod name this args
  | .date => if isAmong dateFunctions then dateFunction name args newTarget else dateMethod name this args
  | .buffer =>
    if name == "isView" then isBufferView first
    else match name with
      | "ArrayBuffer" | "SharedArrayBuffer" => makeBuffer (name == "SharedArrayBuffer") args newTarget
      | _ =>
        let isShared := name.startsWith "shared "
        bufferMethod isShared (if isShared then (name.drop 7).toString else name) this args
  | .row =>
    if isAmong rowFunctions || (Element.ofRowName? name).isSome then rowFunction name this args newTarget
    else rowMethod name this args
  | .window => if isConstructor then makeWindow args newTarget else windowMethod name this args
  | .atomics => atomicFunction name args
  | .console => counted (args.size + 2) (return .undefined)
  | .page => pageFunction f this args newTarget

def builtins : Builtins := fun f this args newTarget => do
  if f.family != .page && f.family != .console then checkLimits
  builtinOf f this args newTarget

end PagePreview.Machine
