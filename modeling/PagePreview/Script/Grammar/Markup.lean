import PagePreview.Script.Grammar.Expression

/-! Markup among expressions: elements and fragments. Between tags the lexer reads text. -/

namespace PagePreview.Script.Grammar

def advanceToText : Rule Unit := do
  let s ← get
  set { s with lastStop := s.token.stop }
  setToken (Lexer.nextInMarkup s.token)

def expectIn (isInner : Bool) (text : String) : Rule Unit := do
  if ← at_ text then if isInner then advanceToText else advance
  else expected text

def markupName : Rule String := do
  let t ← token
  if t.kind == .word then
    let t := Lexer.asMarkupName t
    setToken { t with faults := [] }
    advance
    return t.text
  else unexpected

def refuseHyphen (name : String) : Rule Unit := do
  if name.contains '-' then giveUp "Identifiers in JSX cannot contain hyphens"

def isReferenceName (name : String) : Bool :=
  match name.toList with
  | c :: _ => !('a' ≤ c && c ≤ 'z')
  | [] => false

def elementName : Rule Expr := do
  let name ← markupName
  if ← eat ":" then return .jsxNamespaced name (← markupName)
  if ← at_ "." then
    refuseHyphen name
    let rec go : Nat → Expr → Rule Expr
      | 0, e => return e
      | fuel + 1, e => do
        if ← eat "." then
          let property ← markupName
          refuseHyphen property
          go fuel (.jsxMember e property)
        else return e
    return ← go (← get).fuel (if name == "this" then .this else .identifier name)
  return if isReferenceName name then .identifier name
    else if name == "this" then .this else .jsxName name

def nameText : Expr → String
  | .identifier name => name
  | .jsxName name => name
  | .jsxNamespaced space name => space ++ ":" ++ name
  | .jsxMember object name => nameText object ++ "." ++ name
  | .this => "this"
  | _ => ""

def container (self : Meet) (isInner : Bool) : Rule Expr := do
  let t ← token
  if Token.spells t "\x7d" then
    expectIn isInner "\x7d"
    return .jsxHole t.comments
  let e ← allowingIn (self .expression)
  expectIn isInner "\x7d"
  return .jsxContainer e

def attributeValue (self : Meet) : Rule Expr := do
  let t ← token
  if t.kind == .string then do advance; return .jsxString t.text
  else if ← eat "\x7b" then
    let e ← container self false
    if let .jsxHole _ := e then
      complain "JSX attributes must only be assigned a non-empty 'expression'."
    return e
  else if ← at_ "<" then self (.element false)
  else unexpected

def markupAttribute (self : Meet) : Rule Expr := do
  if ← eat "\x7b" then
    expect "..."
    let e ← allowingIn (self .expression)
    expect "\x7d"
    return .jsxSpreadAttribute e
  let first ← markupName
  let name : Expr ← if ← eat ":" then pure (.jsxNamespaced first (← markupName))
    else pure (.jsxName first)
  if ← at_ "=" then
    let s ← get
    set { s with lastStop := s.token.stop }
    setToken (Lexer.nextInTag s.fuel s.token)
    return .jsxAttribute name (some (← attributeValue self))
  return .jsxAttribute name none

def markupAttributes (self : Meet) : Rule (List Expr) :=
  many do
    if ← atAny ["<", ">", "/"] then return none
    return some (← markupAttribute self)

def child? (self : Meet) : Rule (Option Expr) := do
  let t ← token
  match t.kind with
  | .jsxText => do advanceToText; return some (.jsxText t.text)
  | .mark =>
    if t.text == "<" then
      let next ← following
      if Token.spells next "/" then return none
      return some (← self (.element true))
    else if t.text == "\x7b" then
      advance
      if ← eat "..." then
        let e ← allowingIn (self .expression)
        expectIn true "\x7d"
        return some (.jsxSpread e)
      return some (← container self true)
    else unexpected
  | _ => unexpected

def element (self : Meet) (isInner : Bool) : Rule Expr := do
  expect "<"
  if ← at_ ">" then
    expectIn true ">"
    let children ← many (child? self)
    expect "<"
    expect "/"
    expectIn isInner ">"
    return .fragment children
  if !(← atKind .word) then unexpected
  let name ← elementName
  let types := (← typeArguments? self).getD []
  let attributes ← markupAttributes self
  let isEmpty ← eat "/"
  if isEmpty then
    expectIn isInner ">"
    return .element name types attributes [] true
  expectIn true ">"
  let children ← many (child? self)
  expect "<"
  expect "/"
  let closing ← if ← at_ ">" then expected "Identifier" else elementName
  if nameText closing != nameText name then
    complain ("Expected corresponding JSX closing tag for '" ++ nameText name ++ "'.")
  expectIn isInner ">"
  return .element name types attributes children false

end PagePreview.Script.Grammar
