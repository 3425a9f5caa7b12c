import PagePreview.Proofs.Script.Str
import PagePreview.Proofs.Text.Split
import PagePreview.Render.Text
import PagePreview.JsxText
import PagePreview.Script.Tree

/-!
# Typed markup and the markup it stands for

Trees of intrinsic elements and fragments as they are typed, and what each stands for when it is
read directly: tags and attributes as written, references decoded, texts escaped, nothing for what
shows nothing.
-/

namespace PagePreview.JsxTree
open Script Render Text

def entity : Char → List Char
  | '&' => ['&', 'a', 'm', 'p', ';']
  | '<' => ['&', 'l', 't', ';']
  | '>' => ['&', 'g', 't', ';']
  | '"' => ['&', 'q', 'u', 'o', 't', ';']
  | '\'' => ['&', '#', 'x', '2', '7', ';']
  | c => [c]

def escaped (s : Str) : Str := s.mapChars fun text => text.flatMap entity

/-- Replacing one character after the other is escaping each once: the ampersand comes first, and no
replacement holds a character that is replaced later. -/
theorem escapeChars_eq (s : List Char) : escapeChars s = s.flatMap entity := by
  unfold escapeChars escapes
  simp only [List.foldl_cons, List.foldl_nil, replaceAll_char, List.flatMap_assoc]
  congr 1
  funext c
  by_cases amp : c = '&'
  · subst amp; decide
  by_cases lt : c = '<'
  · subst lt; decide
  by_cases gt : c = '>'
  · subst gt; decide
  by_cases quot : c = '"'
  · subst quot; decide
  by_cases apos : c = '\''
  · subst apos; decide
  · have plain : entity c = [c] := by
      unfold entity
      split <;> first | rfl | contradiction
    simp [amp, lt, gt, quot, apos, plain]

theorem escape_eq (s : Str) : escape s = escaped s := by
  unfold escape escaped
  congr 1
  funext text
  exact escapeChars_eq text

theorem isProper_escaped (s : Str) : (escaped s).IsProper := Str.isProper_mapChars _ s

inductive Name
  | plain (name : String)
  | spaced (space name : String)

namespace Name

def text : Name → String
  | plain name => name
  | spaced space name => space ++ ":" ++ name

def expr : Name → Expr
  | plain name => .jsxName name
  | spaced space name => .jsxNamespaced space name

end Name

/-- A small letter; all letters beyond ASCII count as small, as only ASCII has capitals here. -/
def isSmallLetter (c : Char) : Bool := ('a' ≤ c && c ≤ 'z') || '\x80' ≤ c

def isSmallName (name : String) : Bool :=
  name.toList.head?.any isSmallLetter && !name.toList.any isCapital

/-- A small name, or one of the families whose values are always written out. -/
def isAttributeName (name : String) : Bool := isSmallName name || isDataName name.toList

/-- The name of an element. A text area shows its value, and the others name no element. -/
structure Tag where
  name : Name
  small : isSmallName name.text = true
  intrinsic : name.text ∉ ["textarea", "this", "constructor"]

structure Attribute where
  name : Name
  value : Option String
  small : isAttributeName name.text = true
  free : name.text ∉ ["key", "ref", "children", "style", "constructor"]

structure Attributes where
  list : List Attribute
  distinct : (list.map (·.name.text)).Nodup

inductive Literal
  | text (value : Str) (raw : String)
  | null
  | bool (b : Bool)

mutual

inductive Tree
  | element (tag : Tag) (attributes : Attributes) (children : List Child) (isEmpty : Bool)
  | fragment (children : List Child)

inductive Child
  | tree (t : Tree)
  | text (raw : String)
  | braces (l : Literal)
  | comment (comments : List Comment)

end

def Attribute.expr (a : Attribute) : Expr := .jsxAttribute a.name.expr (a.value.map .jsxString)

def Literal.expr : Literal → Expr
  | .text value raw => .string value raw
  | .null => .null
  | .bool b => .bool b

mutual

def Tree.expr : Tree → Expr
  | .element tag attributes children isEmpty =>
    .element tag.name.expr [] (attributes.list.map Attribute.expr) (childExprs children) isEmpty
  | .fragment children => .fragment (childExprs children)

def Child.expr : Child → Expr
  | .tree t => t.expr
  | .text raw => .jsxText raw
  | .braces l => .jsxContainer l.expr
  | .comment comments => .jsxHole comments

def childExprs : List Child → List Expr
  | [] => []
  | c :: cs => c.expr :: childExprs cs

end

/-- The value of an attribute as it is shown: decoded and escaped, and without one nothing, but the
word for truth in the families whose values are always written out. -/
def Attribute.shown (a : Attribute) : Str :=
  match a.value with
  | some raw => escaped (.plain (String.ofList (JsxText.decode raw.toList)))
  | none => .plain (if isDataName a.name.text.toList then "true" else "")

def Attribute.markup (a : Attribute) : Str :=
  Str.concat [.plain " ", .plain a.name.text, .plain "=\"", a.shown, .plain "\""]

def Literal.markup : Literal → Str
  | .text value _ => escaped value
  | .null | .bool _ => .empty

def elementText (tag : Tag) (attributes : Attributes) (inner : Str) : Str :=
  Str.concat ([.plain "<", .plain tag.name.text] ++ attributes.list.map Attribute.markup ++
    if voidElements.contains tag.name.text then [.plain "/>"]
    else [.plain ">", inner, .plain "</", .plain tag.name.text, .plain ">"])

mutual

def Tree.markup : Tree → Str
  | .element tag attributes children _ => elementText tag attributes (Str.concat (childMarkups children))
  | .fragment children => Str.concat (childMarkups children)

def Child.markup : Child → Str
  | .tree t => t.markup
  | .text raw =>
    match JsxText.clean raw.toList with
    | some text => escaped (.plain (String.ofList text))
    | none => .empty
  | .braces l => l.markup
  | .comment _ => .empty

def childMarkups : List Child → List Str
  | [] => []
  | c :: cs => c.markup :: childMarkups cs

end

end PagePreview.JsxTree
