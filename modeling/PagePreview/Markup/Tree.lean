import PagePreview.Markup.Token

/-! Trees of markup under construction: nodes in a table, each with its parent and children. -/

namespace PagePreview.Markup

inductive Namespace
  | html
  | svg
  | math
  deriving DecidableEq

structure Name where
  space : Namespace
  label : String
  deriving DecidableEq

inductive Content
  | document
  | text (text : String)
  | element (name : Name) (attributes : List Attribute)
  | comment

structure Node where
  content : Content
  parent : Option Nat := none
  children : List Nat := []

structure Tree where
  nodes : Array Node := #[⟨.document, none, []⟩]

namespace Tree

def node (t : Tree) (id : Nat) : Node := t.nodes.getD id ⟨.comment, none, []⟩

def modify (t : Tree) (id : Nat) (f : Node → Node) : Tree := ⟨t.nodes.modify id f⟩

def add (t : Tree) (content : Content) : Nat × Tree := (t.nodes.size, ⟨t.nodes.push ⟨content, none, []⟩⟩)

def name? (t : Tree) (id : Nat) : Option Name :=
  match (t.node id).content with
  | .element name _ => some name
  | _ => none

def htmlName (t : Tree) (id : Nat) : String :=
  match t.name? id with
  | some ⟨.html, label⟩ => label
  | _ => ""

def attributes (t : Tree) (id : Nat) : List Attribute :=
  match (t.node id).content with
  | .element _ attributes => attributes
  | _ => []

def detach (t : Tree) (id : Nat) : Tree :=
  match (t.node id).parent with
  | none => t
  | some parent =>
    (t.modify parent fun n => { n with children := n.children.filter (· != id) }).modify id
      fun n => { n with parent := none }

def append (t : Tree) (parent id : Nat) : Tree :=
  let t := t.detach id
  (t.modify parent fun n => { n with children := n.children ++ [id] }).modify id
    fun n => { n with parent := some parent }

def insertBefore (t : Tree) (parent sibling id : Nat) : Tree :=
  let t := t.detach id
  (t.modify parent fun n =>
    { n with children := n.children.flatMap fun c => if c = sibling then [id, c] else [c] }).modify id
    fun n => { n with parent := some parent }

def moveChildren (t : Tree) (source target : Nat) : Tree :=
  (t.node source).children.foldl (fun t id => t.append target id) t

inductive Spot
  | lastChild (parent : Nat)
  | before (parent sibling : Nat)

def insert (t : Tree) (spot : Spot) (id : Nat) : Tree :=
  match spot with
  | .lastChild parent => t.append parent id
  | .before parent sibling => t.insertBefore parent sibling id

def appendText (n : Node) (more : String) : Node :=
  match n.content with
  | .text old => { n with content := .text (old ++ more) }
  | _ => n

def isText (t : Tree) (id : Nat) : Bool :=
  match (t.node id).content with
  | .text _ => true
  | _ => false

def childBefore : List Nat → Nat → Option Nat
  | a :: b :: rest, sibling => if b = sibling then some a else childBefore (b :: rest) sibling
  | _, _ => none

def insertText (t : Tree) (spot : Spot) (text : String) : Tree :=
  let previous := match spot with
    | .lastChild parent => (t.node parent).children.getLast?
    | .before parent sibling => childBefore (t.node parent).children sibling
  match previous.filter t.isText with
  | some id => t.modify id (appendText · text)
  | none => let (id, t) := t.add (.text text); t.insert spot id

end Tree
end PagePreview.Markup
