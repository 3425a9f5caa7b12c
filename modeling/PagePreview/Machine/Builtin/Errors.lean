import PagePreview.Machine.Builtin.Collections

/-! Errors: how one is made, and its text. -/

namespace PagePreview.Machine.Builtin
open Script Run

def makeError (name : String) (args : Array Value) (newTarget : Option Nat) : Run Value := do
  let fallback : Intrinsic := match name with
    | "TypeError" => .typeErrorPrototype
    | "RangeError" => .rangeErrorPrototype
    | "ReferenceError" => .referenceErrorPrototype
    | "SyntaxError" => .syntaxErrorPrototype
    | "EvalError" => .evalErrorPrototype
    | "URIError" => .uriErrorPrototype
    | "AggregateError" => .aggregateErrorPrototype
    | _ => .errorPrototype
  let proto ← madeFor newTarget fallback
  let id ← allocate { proto := some proto, kind := .error }
  let skip := if name == "AggregateError" then 1 else 0
  let message := argument args skip
  if !message.isUndefined then
    let text ← toText message
    updateObject id (·.store .message (.unlisted (.string text)))
  match argument args (skip + 1) with
  | .object options =>
    if ← hasProperty options (.named "cause") then
      let cause ← getOf options (.named "cause")
      updateObject id (·.store (.named "cause") (.unlisted cause))
  | _ => pure ()
  if name == "AggregateError" then
    let list ← newListValue (← valuesOf (argument args 0))
    updateObject id (·.store (.named "errors") (.unlisted list))
  return .object id

def errorText (this : Value) : Run Value := do
  let .object id := this | throwType "'this' is not an Object"
  let name ← match ← getOf id .name with
    | .undefined => pure (Str.plain "Error")
    | v => toText v
  let message ← match ← getOf id .message with
    | .undefined => pure Str.empty
    | v => toText v
  if name.isEmpty then return .string message
  if message.isEmpty then return .string name
  return .string (name ++ ": " ++ message)

end PagePreview.Machine.Builtin
