import PagePreview.Script.Str

/-! What a renderer needs from the values of a page. The values and the steps over them are a
parameter: a running script brings its own, and a plain tree of nodes will do as well. -/

namespace PagePreview.Render
open Script

inductive Shape
  | undefined | null
  | bool (b : Bool)
  | number (isZero : Bool)
  | bigint
  | text (s : Str)
  | symbol
  | object
  | function

namespace Shape

def isNullish : Shape → Bool
  | .undefined | .null => true
  | _ => false

def isFunction : Shape → Bool
  | .function => true
  | _ => false

def typeName : Shape → String
  | .undefined => "undefined"
  | .null | .object => "object"
  | .bool _ => "boolean"
  | .number _ => "number"
  | .bigint => "bigint"
  | .text _ => "string"
  | .symbol => "symbol"
  | .function => "function"

end Shape

inductive Mark
  | element | fragment | provider | consumer | suspense | strictMode
  deriving DecidableEq

def Mark.name : Mark → String
  | .element => "react.element"
  | .fragment => "react.fragment"
  | .provider => "react.provider"
  | .consumer => "react.consumer"
  | .suspense => "react.suspense"
  | .strictMode => "react.strict_mode"

structure Host (m : Type → Type) (V : Type) where
  undefined : V
  null : V
  ofText : Str → V
  ofBool : Bool → V
  ofNat : Nat → V
  ofMark : Mark → V
  shape : V → m Shape
  isTrue : V → Bool
  same : V → V → Bool
  isList : V → m Bool
  get : V → Str → m V
  set : V → Str → V → m Unit
  isInborn : Str → m Bool
  foldNames : {σ : Type} → V → σ → (σ → Str → m σ) → m σ
  /-- Goes through the values of a list and their places, carrying something along; places that
  hold nothing are left out. -/
  foldItems : {σ : Type} → V → σ → (σ → Nat → V → m σ) → m σ
  mapItems : V → (Nat → V → m V) → m V
  mapNodes : V → (V → m Str) → m V
  joined : V → Str → m Str
  call : V → V → List V → m V
  construct : V → List V → m V
  text : V → m Str
  addedText : V → m Str
  escaped : Str → m Str
  newRecord : List (String × V) → m V
  newList : List V → m V
  assign : V → List V → m V
  fail : {α : Type} → String → m α
  finally_ : {α : Type} → m α → m Unit → m α
  framed : {α : Type} → Nat → m α → m α

namespace Host

variable {m : Type → Type} {V : Type} [Monad m] (h : Host m V)

def prop (v : V) (name : String) : m V := h.get v (.plain name)

def setProp (v : V) (name : String) (x : V) : m Unit := h.set v (.plain name) x

def isNullish (v : V) : m Bool := return (← h.shape v).isNullish

def invoke (v : V) (name : String) (args : List V) : m V := do
  h.call (← h.prop v name) v args

end Host
end PagePreview.Render
