import PagePreview.JsxText
import PagePreview.Script.Count
import PagePreview.Script.Walk
import PagePreview.Text.Letter

/-! Markup as calls: every element and fragment of a tree becomes one call of `createElement` on the
runtime handle, in the same place, with its type, its attributes and its children as arguments. -/

namespace PagePreview.Script.ElementCall
open Text

abbrev Lower := StateM Nat

def handleMember (name : String) : Expr := .member (.identifier "React") false name

def text (s : List Char) : Expr :=
  let s := String.ofList s
  .string (.plain s) s

def typeOf : Expr → Expr
  | .jsxName name => text name.toList
  | .jsxNamespaced space name => text (space ++ ":" ++ name).toList
  | .jsxMember object name => .member (typeOf object) false name
  | e => e

def propertyKey (name : String) : Expr :=
  if isPlainName name.toList then .identifier name else text name.toList

def attributeName : Expr → String
  | .jsxName name => name
  | .jsxNamespaced space name => space ++ ":" ++ name
  | _ => ""

def attributeText (raw : String) : Expr :=
  if raw.contains '&' then text (JsxText.decode raw.toList) else text raw.toList

def call (type props : Expr) (children : List Expr) : Expr :=
  .call (handleMember "createElement") false [] (type :: props :: children) false

def properties (list : List Expr) : Expr := if list.isEmpty then .null else .object list

def propertyOf {m : Type → Type} [Monad m] (value : Expr → m Expr) (a : Expr) : m Expr :=
  match a with
  | .jsxSpreadAttribute e => return .spread (← value e)
  | .jsxAttribute name none => return .property (propertyKey (attributeName name)) false false (.bool true)
  | .jsxAttribute name (some v) => do
    let v ← match v with
      | .jsxString raw => pure (attributeText raw)
      | .jsxContainer e => value e
      | .jsxHole _ => pure (.identifier "undefined")
      | e => value e
    return .property (propertyKey (attributeName name)) false false v
  | e => pure e

def argumentsOf {m : Type → Type} [Monad m] (value : Expr → m Expr) (c : Expr) : m (List Expr) :=
  match c with
  | .jsxText raw => pure ((JsxText.clean raw.toList).map text).toList
  | .jsxHole _ => pure []
  | .jsxContainer e => return [← value e]
  | .jsxSpread e => return [.spread (← value e)]
  | e => return [← value e]

def collect {m : Type → Type} [Monad m] (f : Expr → m (List Expr)) : List Expr → m (List Expr)
  | [] => pure []
  | a :: as => do
    let b ← f a
    let bs ← collect f as
    pure (b ++ bs)

mutual

def expr : Nat → Expr → Lower Expr
  | 0, e => pure e
  | fuel + 1, e =>
    match e with
    | .element name _ attributes children _ => do
      let props ← Visit.list (propertyOf (expr fuel)) attributes
      modify (· + 1)
      return call (typeOf name) (properties props) (← collect (argumentsOf (expr fuel)) children)
    | .fragment children => do
      modify (· + 1)
      return call (handleMember "Fragment") .null (← collect (argumentsOf (expr fuel)) children)
    | e => e.descend { expr := expr fuel, stmt := stmt fuel, type := type fuel }

def stmt : Nat → Stmt → Lower Stmt
  | 0, s => pure s
  | fuel + 1, s => s.descend { expr := expr fuel, stmt := stmt fuel, type := type fuel }

def type : Nat → TypeNode → Lower TypeNode
  | 0, t => pure t
  | fuel + 1, t => t.descend { expr := expr fuel, stmt := stmt fuel, type := type fuel }

end

def program (p : Program) : Program × Nat :=
  let (body, count) := (Visit.list (stmt p.size) p.body).run 0
  ({ p with body }, count)

end PagePreview.Script.ElementCall
