import PagePreview.Machine.Builtin.Objects
import PagePreview.Script.Unit

/-! The methods of functions, and functions made from texts. -/

namespace PagePreview.Machine.Builtin
open Script Run

def functionMethods : List (String × Nat) := [("apply", 2), ("bind", 1), ("call", 1), ("toString", 0)]

def functionText (this : Value) : Run Value := do
  match this with
  | .object id =>
    if !(← get).isCallable this then throwType "Not a function"
    let o ← objectAt id
    match o.kind, o.ownProperty? .name with
    | .bound .., _ => return .text "function () \x7b [native code] \x7d"
    | _, some (.data (.string name) ..) =>
      return .string ("function " ++ name ++ "() \x7b [native code] \x7d")
    | _, _ => return .text "function () \x7b [native code] \x7d"
  | _ => throwType "Not a function"

def demandFunction (f : Value) : Run Unit := do
  let s ← get
  if !s.isCallable f then throwType (s.display f ++ " is not a function")

def functionMethod (name : String) (this : Value) (args : Array Value) : Run Value := do
  match name with
  | "call" => do
    demandFunction this
    call this (argument args 0) (args.extract 1 args.size)
  | "apply" => do
    demandFunction this
    let list := argument args 1
    call this (argument args 0) (← if list.isNullish then pure #[] else argumentList list)
  | "bind" => do
    if !(← get).isCallable this then
      throwType "cannot bind \x60this\x60 without a \x60[[Call]]\x60 internal method"
    let more := args.extract 1 args.size
    let .object f := this | return .undefined
    let old ← match ← ownProperty f .length with
      | some _ => match ← getOf f .length with
        | .number x => pure (wholePart x)
        | _ => pure 0
      | none => pure 0
    let left := old - Float.ofNat more.size
    let name ← match ← getOf f .name with
      | .string s => pure s
      | _ => pure Str.empty
    let id ← allocate {
      proto := ← prototypeOf f, kind := .bound this (argument args 0) more
      properties := .ofList [
        (.length, .data (.number (if left < 0 then 0 else left)) false false true),
        (.name, .data (.string ("bound " ++ name)) false false true)] }
    return .object id
  | "toString" => functionText this
  | "[Symbol.hasInstance]" =>
    if (← get).isCallable this then return .bool (← isInstance (argument args 0) this)
    else return .bool false
  | _ => return .undefined

/-- A function made from texts: the last one is its body, the others its parameters. The name of
its constructor tells what kind of function it is. -/
def makeFunction (name : String) (args : Array Value) : Run Value := do
  let mut texts := #[]
  for v in args do
    texts := texts.push (← toText v).display
  let isAsync := name.startsWith "async"
  let isGenerator := name.endsWith "generator constructor"
  let body := texts.back?.getD ""
  match readFunction isAsync isGenerator (",".intercalate texts.pop.toList) body with
  | .error message => raise .malformed message
  | .ok e =>
    match codeOf? false .plain e with
    | some (_, code) =>
      let c : Context := { scope := globalScope, frame := globalScope, isStrict := false }
      return .object (← newClosure c code "anonymous" none)
    | none => return .undefined

end PagePreview.Machine.Builtin
