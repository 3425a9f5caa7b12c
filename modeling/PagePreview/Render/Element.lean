import PagePreview.Render.Host

/-! Elements: what a page makes of a type, properties and children, and how children are gone
through. -/

namespace PagePreview.Render
open Script

variable {m : Type → Type} {V : Type} [Monad m] (h : Host m V)

structure Identity (V : Type) where
  key : V
  ref : V

/-- Copies the properties of a configuration. A key becomes text, unless it is missing and a missing
one is kept as it is. -/
def copyProperties (keepsMissingKey : Bool) (config props : V) (start : Identity V) : m (Identity V) := do
  if ← h.isNullish config then return start
  h.foldNames config start fun who name => do
    if name == .plain "key" then
      let isMissing ← if keepsMissingKey then h.isNullish (← h.prop config "key") else pure false
      if isMissing then return { who with key := h.null }
      return { who with key := h.ofText (← h.addedText (← h.prop config "key")) }
    else if name == .plain "ref" then return { who with ref := ← h.prop config "ref" }
    else
      h.set props name (← h.get config name)
      return who

def giveChildren (props : V) : List V → m Unit
  | [] => return
  | [child] => h.setProp props "children" child
  | children => do h.setProp props "children" (← h.newList children)

def giveDefaults (type props : V) : m Unit := do
  let hasDefaults ← if h.isTrue type then h.isTrue <$> h.prop type "defaultProps" else pure false
  if hasDefaults then
    h.foldNames (← h.prop type "defaultProps") () fun _ name => do
      match ← h.shape (← h.get props name) with
      | .undefined => h.set props name (← h.get (← h.prop type "defaultProps") name)
      | _ => return

def newElement (type : V) (who : Identity V) (props : V) : m V :=
  h.newRecord [("$$typeof", h.ofMark .element), ("type", type), ("key", who.key), ("ref", who.ref),
    ("props", props)]

def createElement (type config : V) (children : List V) : m V := do
  let props ← h.newRecord []
  let who ← copyProperties h true config props ⟨h.null, h.null⟩
  giveChildren h props children
  giveDefaults h type props
  newElement h type who props

def isElement (v : V) : m Bool := do
  match ← h.shape v with
  | .object => return h.same (← h.prop v "$$typeof") (h.ofMark .element)
  | _ => return false

def cloneElement (element config : V) (children : List V) : m V := do
  let props ← h.assign (← h.newRecord []) [← h.prop element "props"]
  let key ← h.prop element "key"
  let ref ← h.prop element "ref"
  let who ← copyProperties h false config props ⟨key, ref⟩
  giveChildren h props children
  newElement h (← h.prop element "type") who props

def childrenDepth : Nat := 1024

/-- The children of a list, lists in it opened, from left to right; what shows nothing is left out. -/
def gather (fuel : Nat) (children : V) (out : List V) : m (List V) := do
  match fuel with
  | 0 => return out
  | fuel + 1 => h.framed 2 do
    if ← h.isList children then
      h.foldItems children out fun out _ child => gather fuel child out
    else
      match ← h.shape children with
      | .undefined | .null | .bool _ => return out
      | _ => return out ++ [children]

namespace Children

def toList (children : V) : m (List V) := gather h childrenDepth children []

def toArray (children : V) : m V := do h.newList (← toList h children)

def count (children : V) : m V := return h.ofNat (← toList h children).length

def visit (f this : V) (i : Nat) (child : V) : m V := h.invoke f "call" [this, child, h.ofNat i]

def map (children f this : V) : m V := do
  h.mapItems (← toArray h children) (visit h f this)

def forEach (children f this : V) : m V := do
  h.foldItems (← toArray h children) () fun _ i child => do
    let _ ← visit h f this i child
  return h.undefined

def only (child : V) : m V := do
  if ← h.framed 1 (isElement h child) then return child
  h.fail "React.Children.only expected to receive a single React element child."

end Children
end PagePreview.Render
