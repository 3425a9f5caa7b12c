import PagePreview.Render.Element

/-! Hooks of a page that is rendered once: its state never changes and its effects never run. -/

namespace PagePreview.Render.Hook
open Script

variable {m : Type → Type} {V : Type} [Monad m] (h : Host m V)

def useState (noop start : V) : m V := do
  let v ← if (← h.shape start).isFunction then h.call start h.undefined [] else pure start
  h.newList [v, noop]

def useReducer (noop start init : V) : m V := do
  let v ← if (← h.shape init).isFunction then h.call init h.undefined [start] else pure start
  h.newList [v, noop]

def useMemo (factory : V) : m V := h.call factory h.undefined []

def useRef (start : V) : m V := do
  let current := match ← h.shape start with
    | .undefined => h.null
    | _ => start
  h.newRecord [("current", current)]

def useContext (context : V) : m V :=
  if h.isTrue context then h.prop context "_currentValue" else return h.undefined

def useSyncExternalStore (snapshot serverSnapshot : V) : m V :=
  h.call (if h.isTrue serverSnapshot then serverSnapshot else snapshot) h.undefined []

/-- A context: a value that elements further in can read, and what provides and consumes it. -/
def createContext (start : V) : m V := do
  let context ← h.newRecord [("_currentValue", start), ("_stack", ← h.newList [])]
  h.setProp context "Provider" (← h.newRecord [("$$typeof", h.ofMark .provider), ("_context", context)])
  h.setProp context "Consumer" (← h.newRecord [("$$typeof", h.ofMark .consumer), ("_context", context)])
  return context

def displayName (type : V) : m V := do
  if !h.isTrue type then return type
  let name ← h.prop type "displayName"
  if h.isTrue name then return name
  h.prop type "name"

end PagePreview.Render.Hook
