import PagePreview.Render.Element
import PagePreview.Render.Text

/-! Nodes as markup: texts, lists, elements, components and contexts, and the attributes of
elements. -/

namespace PagePreview.Render
open Script

variable {m : Type → Type} {V : Type} [Monad m] (h : Host m V)

def isListed (names : List String) (name : Str) : m Bool := do
  if names.any fun n => name == .plain n then return true
  h.isInborn name

def escapedText (v : V) : m Str := h.framed 1 do h.escaped (← h.text v)

def styleProperty (style : V) (name : Str) : m (Option Str) := do
  let v ← h.get style name
  let shape ← h.shape v
  let text ← match shape with
    | .undefined | .null | .bool _ => return none
    | .text s => if s.isEmpty then return none else pure s
    | .number false => do
      let s ← h.text v
      if (← isListed h unitlessStyles name) || holdsOf isOwnStyle name then pure s else pure (s ++ "px")
    | _ => h.text v
  let shown ← h.framed 1 (return styleName name)
  return some (shown ++ ":" ++ text.trim)

def separated (separator : Str) : List Str → Str
  | [] => .empty
  | [s] => s
  | s :: rest => s ++ separator ++ separated separator rest

def styleText (style : V) : m Str := do
  match ← h.shape style with
  | .undefined | .null => return .empty
  | .object =>
    let parts ← h.foldNames style [] fun parts name => do
      match ← styleProperty h style name with
      | some part => return parts ++ [part]
      | none => return parts
    return separated ";" parts
  | _ => h.text style

def quotedAttribute (name value : Str) : Str := Str.plain " " ++ name ++ "=\"" ++ value ++ "\""

def attributeMarkup (name : Str) (v : V) (shape : Shape) : m Str := do
  match shape with
  | .undefined | .null | .function | .symbol => return .empty
  | shape =>
    if holdsOf isHandlerName name then return .empty
    if name == .plain "style" then
      let css ← h.framed 1 (styleText h v)
      if css.isEmpty then return .empty
      return quotedAttribute "style" (← h.framed 1 (h.escaped css))
    let name ← h.framed 1 (return attributeName name)
    let isData := holdsOf isDataName name
    match shape with
    | .bool false => return if isData then quotedAttribute name "false" else .empty
    | .bool true => return quotedAttribute name (if isData then "true" else "")
    | .object =>
      let text ← if ← h.isList v then h.joined v " " else h.text v
      return quotedAttribute name (← h.framed 1 (h.escaped text))
    | _ => return quotedAttribute name (← escapedText h v)

def attributesMarkup (props : V) : m Str :=
  h.foldNames props .empty fun out name => do
    if ← isListed h skippedProperties name then return out
    let v ← h.get props name
    return out ++ (← attributeMarkup h name v (← h.shape v))

/-- What a component makes of its properties. A class is made, told its properties, given the state
that it derives from them, and asked to render. -/
def renderComponent (type props : V) : m V := do
  let proto ← h.prop type "prototype"
  let isClass ← if h.isTrue proto then
      pure (h.isTrue (← h.prop (← h.prop type "prototype") "isReactComponent"))
    else pure false
  if !isClass then h.call type h.undefined [props]
  else
    let component ← h.construct type [props]
    h.setProp component "props" props
    if (← h.shape (← h.prop type "getDerivedStateFromProps")).isFunction then
      let empty ← h.newRecord []
      let state ← h.prop component "state"
      let derived ← h.invoke type "getDerivedStateFromProps" [props, ← h.prop component "state"]
      h.setProp component "state" (← h.assign empty [state, derived])
    h.invoke component "render" []

/-- Runs a step while a context has a value; behind it, the context has the value from before. -/
def providing {α : Type} (context : V) (value : m V) (step : m α) : m α := do
  let stack ← h.prop context "_stack"
  let push ← h.prop stack "push"
  let _ ← h.call push stack [← h.prop context "_currentValue"]
  h.setProp context "_currentValue" (← value)
  h.finally_ step do
    h.setProp context "_currentValue" (← h.invoke (← h.prop context "_stack") "pop" [])

def contentMarkup (again : V → m Str) (type : Str) (props : V) : m Str := do
  let inner ← h.prop props "dangerouslySetInnerHTML"
  let isRaw ← if h.isTrue inner then
      pure !(← h.isNullish (← h.prop (← h.prop props "dangerouslySetInnerHTML") "__html"))
    else pure false
  if isRaw then h.text (← h.prop (← h.prop props "dangerouslySetInnerHTML") "__html")
  else
    let isFilled ← if type == .plain "textarea" then pure !(← h.isNullish (← h.prop props "value"))
      else pure false
    if isFilled then escapedText h (← h.prop props "value")
    else again (← h.prop props "children")

def elementMarkup (again : V → m Str) (type : Str) (props : V) : m Str := do
  let start := Str.plain "<" ++ type ++ (← h.framed 1 (attributesMarkup h props))
  if ← isListed h voidElements type then return start ++ "/>"
  return start ++ ">" ++ (← contentMarkup h again type props) ++ "</" ++ type ++ ">"

def invalidType (shape : Shape) : String :=
  "Element type is invalid: expected a string or a component but got: " ++
    (match shape with
      | .null => "null"
      | s => s.typeName) ++ "."

def typeMarkup (again : V → m Str) (type props : V) : m Str := do
  if [Mark.fragment, .suspense, .strictMode].any fun k => h.same type (h.ofMark k) then
    return ← again (← h.prop props "children")
  let shape ← h.shape type
  if shape.isFunction then return ← again (← h.framed 2 (renderComponent h type props))
  let hasMark (k : Mark) : m Bool :=
    if h.isTrue type then return h.same (← h.prop type "$$typeof") (h.ofMark k) else return false
  if ← hasMark .provider then
    return ← providing h (← h.prop type "_context") (h.prop props "value") do
      again (← h.prop props "children")
  if ← hasMark .consumer then
    if !(← h.shape (← h.prop props "children")).isFunction then return .empty
    let f ← h.prop props "children"
    return ← again (← h.call f props [← h.prop (← h.prop type "_context") "_currentValue"])
  match shape with
  | .text tag => elementMarkup h again tag props
  | shape => h.fail (invalidType shape)

def nodeMarkup (again : V → m Str) (node : V) : m Str := do
  match ← h.shape node with
  | .undefined | .null | .bool _ => return .empty
  | .text _ | .number _ | .bigint => escapedText h node
  | _ =>
    if ← h.isList node then
      h.joined (← h.mapNodes node again) ""
    else if !(← h.framed 1 (isElement h node)) then
      h.fail "Objects are not valid as a React child."
    else
      let type ← h.prop node "type"
      let given ← h.prop node "props"
      typeMarkup h again type (← if h.isTrue given then pure given else h.newRecord [])

end PagePreview.Render
