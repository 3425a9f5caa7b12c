import PagePreview.Script.Grammar.Core

/-! Names of properties, binding patterns and parameters. -/

namespace PagePreview.Script.Grammar

def allowingIn {α : Type} (m : Rule α) : Rule α := within ({ · with allowsIn := true }) m

def initializer? (self : Meet) : Rule (Option Expr) := do
  if ← eat "=" then return some (← self (.assignment true)) else return none

def stringLiteral (t : Token) : Expr := .string (t.str.getD .empty) t.text

def propertyKey (self : Meet) : Rule (Expr × Bool) := do
  let t ← token
  match t.kind with
  | .string => do advance; return (stringLiteral t, false)
  | .number => do advance; return (.number t.number t.text, false)
  | .bigint => do advance; return (.bigint t.natural, false)
  | .privateName => do advance; return (.privateName t.text, false)
  | .word => do advance; return (.identifier t.text, false)
  | _ =>
    if ← eat "[" then
      let key ← allowingIn (self (.assignment true))
      reading "expect ']'" (expect "]")
      return (key, true)
    else if ← isPlain then refuseFor ["property name"] "property name"
    else unexpected

def patternWithDefault (self : Meet) : Rule Expr := do
  let target ← self .pattern
  if ← eat "=" then
    return .defaultPattern target (← allowingIn (self (.assignment true)))
  else return target

def arrayPatternElement (self : Meet) : Rule Expr := do
  if ← at_ "," then return .hole
  if ← eat "..." then
    let target ← self .pattern
    if ← at_ "," then complain "A rest element must be last in a destructuring pattern"
    return .restPattern target
  patternWithDefault self

def arrayItems (item : Rule Expr) : Rule (List Expr) := do
  let rec go : Nat → List Expr → Rule (List Expr)
    | 0, done => return done.reverse
    | fuel + 1, done => do
      if ← at_ "]" then return done.reverse
      if ← at_ "," then do advance; go fuel (.hole :: done)
      else
        let a ← item
        if ← at_ "]" then return (a :: done).reverse
        let t ← token
        if t.kind == .eof || t.kind == .unknown then return (a :: done).reverse
        if !(← at_ ",") then
          if ← isPlain then return ← refuseFor [",", "]"] (← context).construct
          giveUp ("Expected \x60,\x60 or \x60]\x60 but found \x60" ++ describe t ++ "\x60")
        advance
        go fuel (a :: done)
  go (← get).fuel []

def objectPatternProperty (self : Meet) : Rule Expr := do
  if ← eat "..." then
    let target ← self .pattern
    if ← at_ "," then complain "A rest element must be last in a destructuring pattern"
    match target with
    | .identifier _ => pure ()
    | _ => if !(← isPlain) then complain "Invalid rest element"
    return .restPattern target
  let t ← token
  let next ← following
  if t.kind == .word && !(Token.spells next ":") then
    let name ← bindingName
    let target : Expr := .identifier name
    let value ← if ← eat "=" then
        pure (.defaultPattern target (← allowingIn (self (.assignment true))))
      else pure target
    return .property (.identifier name) false true value
  let (key, isComputed) ← propertyKey self
  expect ":"
  return .property key isComputed false (← patternWithDefault self)

def pattern (self : Meet) : Rule Expr := do
  if ← at_ "[" then
    reading "array binding pattern" do
      advance
      let elements ← allowingIn (arrayItems (arrayPatternElement self))
      expect "]"
      return .arrayPattern elements
  else if ← at_ "\x7b" then
    reading "object binding pattern" do
      advance
      let properties ← allowingIn (delimited "\x7d" "," (objectPatternProperty self))
      expect "\x7d"
      return .objectPattern properties
  else return .identifier (← bindingName)

def typeAnnotation? (self : Meet) : Rule (Option TypeNode) := do
  if (← dialect).types && (← at_ ":") then
    advance
    return some (← self .type)
  else return none

def parameterWords : List String := ["public", "private", "protected", "readonly", "override"]

def parameterModifiers : Rule Modifiers := do
  if !(← dialect).types then return {}
  let rec go : Nat → Modifiers → Rule Modifiers
    | 0, m => return m
    | fuel + 1, m => do
      let t ← token
      let next ← following
      let applies := parameterWords.any (Token.spells t) &&
        (isName next || next.kind == .word && next.text == "this" ||
          Token.spells next "\x7b" || Token.spells next "[")
      if !applies then return m
      advance
      go fuel (match t.text with
        | "readonly" => { m with isReadonly := true }
        | "override" => { m with isOverride := true }
        | word => { m with accessibility := some word })
  go 6 {}

def decorator (self : Meet) : Rule Expr := do
  expect "@"
  within ({ · with inDecorator := true }) (self .unary)

def decorators (self : Meet) : Rule (List Expr) := do
  if !(← at_ "@") then return []
  if ← isPlain then unexpected
  many do if ← at_ "@" then return some (← decorator self) else return none

def parameter (self : Meet) : Rule Expr := do
  let decorators ← decorators self
  if (← dialect).types && (← at_ "this") then
    advance
    return .thisParam (← typeAnnotation? self)
  if ← eat "..." then
    let target ← self .pattern
    let type ← typeAnnotation? self
    if ← at_ "=" then complain "A rest parameter cannot have an initializer"
    if ← at_ "," then complain "A rest parameter must be last in a parameter list"
    return .restParam decorators target type
  let modifiers ← parameterModifiers
  let target ← self .pattern
  let isOptional ← if (← dialect).types then eat "?" else pure false
  let type ← typeAnnotation? self
  let fallback ← allowingIn (initializer? self)
  return .param decorators { modifiers with isOptional } target type fallback

def repeatedParam : String := "Duplicate parameter name not allowed in this context"

def parameters (self : Meet) : Rule (List Expr) := do
  expect "("
  let start := (← token).start
  let params ← reading "parameter list" (delimited ")" "," (parameter self) [","])
  expect ")"
  if (← isPlain) && !Early.isSimple params && (Early.repeated? (Early.paramNames params)).isSome then
    refuseAt start repeatedParam
  return params

end PagePreview.Script.Grammar
