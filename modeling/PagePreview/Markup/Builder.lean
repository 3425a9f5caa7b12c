import PagePreview.Markup.Tree

/-! The state in which a tree of markup is built, and the operations that every rule shares: the
stack of open elements, the list of formatting elements, and the places where nodes go. -/

namespace PagePreview.Markup
open Text

inductive Phase
  | initial
  | beforeHtml
  | beforeHead
  | inHead
  | afterHead
  | inBody
  | text
  | inTable
  | inTableText
  | inCaption
  | inColumnGroup
  | inTableBody
  | inRow
  | inCell
  | inSelect
  | inSelectInTable
  | inTemplate
  | afterBody
  | inFrameset
  | afterFrameset
  | afterAfterBody
  | afterAfterFrameset
  deriving DecidableEq

inductive Formatting
  | marker
  | element (id : Nat) (tag : Tag)

def Formatting.id? : Formatting → Option Nat
  | .marker => none
  | .element id _ => some id

structure Builder where
  tree : Tree := {}
  lexer : Lexer
  phase : Phase := .initial
  returnPhase : Phase := .initial
  templatePhases : List Phase := []
  stack : List Nat := []
  formatting : List Formatting := []
  head : Option Nat := none
  form : Option Nat := none
  templateContents : List (Nat × Nat) := []
  framesetOk : Bool := true
  quirks : Bool := false
  fostering : Bool := false
  ignoreLineFeed : Bool := false
  tableText : List Char := []

abbrev Build := StateM Builder

/-- What to do after a rule: nothing, try the token again in the current phase, or apply the rules
of another phase. -/
inductive Step
  | done
  | again
  | through (phase : Phase)

namespace Build

def setPhase (phase : Phase) : Build Unit := modify fun b => { b with phase }

def again (phase : Phase) : Build Step := do setPhase phase; return .again

def onTree (f : Tree → Tree) : Build Unit := modify fun b => { b with tree := f b.tree }

def currentId : Build Nat := do return (← get).stack.headD 0

def nameOf (id : Nat) : Build String := do return (← get).tree.htmlName id

def currentName : Build String := do nameOf (← currentId)

def currentIn (names : List String) : Build Bool := do return names.contains (← currentName)

def push (id : Nat) : Build Unit := modify fun b => { b with stack := id :: b.stack }
def pop : Build Unit := modify fun b => { b with stack := b.stack.drop 1 }

def removeFromStack (id : Nat) : Build Unit :=
  modify fun b => { b with stack := b.stack.filter (· != id) }

def findOpen (name : String) : Build (Option Nat) := do
  let b ← get
  return b.stack.find? fun id => b.tree.htmlName id == name

def hasOpen (name : String) : Build Bool := do return (← findOpen name).isSome

def contentsOf (id : Nat) : Build Nat := do return ((← get).templateContents.lookup id).getD id

def spotIn (override : Option Nat) : Build Tree.Spot := do
  let b ← get
  let target := override.getD (b.stack.headD 0)
  let fosters := b.fostering &&
    ["table", "tbody", "tfoot", "thead", "tr"].contains (b.tree.htmlName target)
  if !fosters then return .lastChild (← contentsOf target)
  let isTable (id : Nat) : Bool := b.tree.htmlName id == "table"
  let isTemplate (id : Nat) : Bool := b.tree.htmlName id == "template"
  let above := b.stack.takeWhile fun id => !isTable id
  match above.find? isTemplate with
  | some template => return .lastChild (← contentsOf template)
  | none =>
    match b.stack.dropWhile fun id => !isTable id with
    | [] => return .lastChild (b.stack.getLast?.getD 0)
    | table :: rest =>
      match (b.tree.node table).parent with
      | some parent => return .before parent table
      | none => return .lastChild (rest.headD 0)

def spot : Build Tree.Spot := spotIn none

def insertText (s : String) : Build Unit := do
  let place ← spot
  onTree (·.insertText place s)

def insertComment : Build Unit := do
  let place ← spot
  let b ← get
  let (id, tree) := b.tree.add .comment
  set { b with tree := tree.insert place id }

def create (name : Name) (attributes : List Attribute) : Build Nat := do
  let b ← get
  let (id, tree) := b.tree.add (.element name attributes)
  if name = ⟨.html, "template"⟩ then
    let (inside, tree) := tree.add .document
    set { b with tree, templateContents := (id, inside) :: b.templateContents }
  else set { b with tree }
  return id

def insertNamed (name : Name) (attributes : List Attribute) : Build Nat := do
  let place ← spot
  let id ← create name attributes
  onTree (·.insert place id)
  push id
  return id

def insertElement (tag : Tag) : Build Nat := insertNamed ⟨.html, tag.name⟩ tag.attributes

def insertPlain (name : String) : Build Nat := insertNamed ⟨.html, name⟩ []

def insert (tag : Tag) : Build Unit := do let _ ← insertElement tag

def insertEmpty (tag : Tag) : Build Unit := do insert tag; pop

def mergeAttributes (id : Nat) (more : List Attribute) : Build Unit :=
  onTree fun t => t.modify id fun n =>
    match n.content with
    | .element name attributes =>
      let new := more.filter fun a => !attributes.any (·.name == a.name)
      { n with content := .element name (attributes ++ new) }
    | _ => n

def insertTextElement (tag : Tag) (mode : Mode) : Build Unit := do
  insert tag
  modify fun b => { b with
    lexer := { b.lexer with mode }, returnPhase := b.phase, phase := .text }

def baseScope : List Name :=
  (["applet", "caption", "html", "table", "td", "th", "marquee", "object", "template"].map
    (Name.mk .html)) ++
  (["mi", "mo", "mn", "ms", "mtext", "annotation-xml"].map (Name.mk .math)) ++
  (["foreignObject", "desc", "title"].map (Name.mk .svg))

def listScope : List Name := ⟨.html, "ol"⟩ :: ⟨.html, "ul"⟩ :: baseScope
def buttonScope : List Name := ⟨.html, "button"⟩ :: baseScope
def tableScope : List Name := ["html", "table", "template"].map (Name.mk .html)

def inScope (limits : List Name) (test : Nat → Name → Bool) : Build Bool := do
  let b ← get
  let rec go : List Nat → Bool
    | [] => false
    | id :: rest =>
      match b.tree.name? id with
      | none => go rest
      | some name => test id name || (!limits.contains name && go rest)
  return go b.stack

def nameInScope (limits : List Name) (names : List String) : Build Bool :=
  inScope limits fun _ name => name.space == .html && names.contains name.label

def inSelectScope (wanted : String) : Build Bool := do
  let b ← get
  let inner := b.stack.takeWhile fun id => ["option", "optgroup"].contains (b.tree.htmlName id)
  return (b.stack.drop inner.length).head?.any fun id => b.tree.htmlName id == wanted

def popUntil (names : List String) : Build Unit := modify fun b =>
  { b with stack := (b.stack.dropWhile fun id => !names.contains (b.tree.htmlName id)).drop 1 }

def popTo (names : List String) : Build Unit := modify fun b =>
  { b with stack := b.stack.dropWhile fun id => !names.contains (b.tree.htmlName id) }

def impliedEnd : List String :=
  ["dd", "dt", "li", "optgroup", "option", "p", "rb", "rp", "rt", "rtc"]

def thoroughlyImpliedEnd : List String :=
  impliedEnd ++ ["caption", "colgroup", "tbody", "td", "tfoot", "th", "thead", "tr"]

def closeImplied (names : List String) : Build Unit := modify fun b =>
  { b with stack := b.stack.dropWhile fun id => names.contains (b.tree.htmlName id) }

def closeImpliedExcept (name : String) : Build Unit := closeImplied (impliedEnd.filter (· != name))

def closeParagraph : Build Unit := do
  if ← nameInScope buttonScope ["p"] then
    closeImpliedExcept "p"
    popUntil ["p"]

def pushMarker : Build Unit := modify fun b => { b with formatting := .marker :: b.formatting }

def clearToMarker : Build Unit := modify fun b =>
  { b with formatting := (b.formatting.dropWhile fun f => f.id?.isSome).drop 1 }

def removeFormatting (id : Nat) : Build Unit := modify fun b =>
  { b with formatting := b.formatting.filter fun f => f.id? != some id }

def sameTag (s t : Tag) : Bool :=
  let within (a b : List Attribute) : Bool :=
    a.all fun x => b.any fun y => x.name == y.name && x.value == y.value
  s.name == t.name && within s.attributes t.attributes && within t.attributes s.attributes

/-- Adds a formatting element; of more than three alike since the last marker, the earliest goes. -/
def addFormatting (id : Nat) (tag : Tag) : Build Unit := do
  let b ← get
  let since := b.formatting.takeWhile fun f => f.id?.isSome
  let alike := since.filterMap fun
    | .element id other => if sameTag tag other then some id else none
    | .marker => none
  if 3 ≤ alike.length then
    match alike.getLast? with
    | some oldest => removeFormatting oldest
    | none => pure ()
  modify fun b => { b with formatting := .element id tag :: b.formatting }

/-- The formatting elements to open again, the earliest first: those since the last marker or open
element. -/
def closedFormatting : Build (List (Nat × Tag)) := do
  let b ← get
  let rec go : List Formatting → List (Nat × Tag)
    | .element id tag :: rest => if b.stack.contains id then [] else (id, tag) :: go rest
    | _ => []
  return (go b.formatting).reverse

def reopenFormatting : Build Unit := do
  for (lost, tag) in ← closedFormatting do
    let new ← insertElement tag
    let renew (f : Formatting) : Formatting :=
      if f.id? == some lost then .element new tag else f
    modify fun b => { b with formatting := b.formatting.map renew }

def special : List String := [
  "address", "applet", "area", "article", "aside", "base", "basefont", "bgsound", "blockquote",
  "body", "br", "button", "caption", "center", "col", "colgroup", "dd", "details", "dir", "div",
  "dl", "dt", "embed", "fieldset", "figcaption", "figure", "footer", "form", "frame", "frameset",
  "h1", "h2", "h3", "h4", "h5", "h6", "head", "header", "hgroup", "hr", "html", "iframe", "img",
  "input", "isindex", "li", "link", "listing", "main", "marquee", "menu", "meta", "nav", "noembed",
  "noframes", "noscript", "object", "ol", "p", "param", "plaintext", "pre", "script", "section",
  "select", "source", "style", "summary", "table", "tbody", "td", "template", "textarea", "tfoot",
  "th", "thead", "title", "tr", "track", "ul", "wbr", "xmp"]

def isSpecial (name : Name) : Bool :=
  match name.space with
  | .html => special.contains name.label
  | .math => ["mi", "mo", "mn", "ms", "mtext", "annotation-xml"].contains name.label
  | .svg => ["foreignObject", "desc", "title"].contains name.label

def isSpecialId (id : Nat) : Build Bool := do return ((← get).tree.name? id).any isSpecial

def pushInside (outer new : Nat) : Build Unit := modify fun b =>
  { b with stack := b.stack.flatMap fun id => if id = outer then [new, id] else [id] }

/-- One step outwards from `node`, through the formatting elements between the furthest block and
the formatting element. Those that are no formatting elements any more are dropped, the others are
replaced by copies that take over what lies inside. `bookmark` is the entry after which the copy of
the formatting element goes; none stands for the place of the formatting element itself. -/
def adoptInner (formattingId furthest : Nat) :
    Nat → Nat → Nat → Nat → Option Nat → Build (Nat × Option Nat)
  | 0, _, _, last, bookmark => return (last, bookmark)
  | fuel + 1, count, node, last, bookmark => do
    let stack := (← get).stack
    match (stack.dropWhile (· != node)).drop 1 with
    | [] => return (last, bookmark)
    | above :: _ =>
      if above == formattingId then return (last, bookmark)
      let listed := (← get).formatting.any fun f => f.id? == some above
      if 3 < count + 1 && listed then removeFormatting above
      let entry := (← get).formatting.findSome? fun
        | .element id tag => if id = above then some tag else none
        | .marker => none
      match entry with
      | none =>
        -- Its neighbour outwards is what the next step must find.
        let outer := (((← get).stack.dropWhile (· != above)).drop 1).head?
        removeFromStack above
        match outer with
        | none => return (last, bookmark)
        | some _ => adoptInner formattingId furthest fuel (count + 1) node last bookmark
      | some tag =>
        let new ← create ⟨.html, tag.name⟩ tag.attributes
        modify fun b => { b with
          stack := b.stack.map fun id => if id = above then new else id
          formatting := b.formatting.map fun f =>
            if f.id? == some above then .element new tag else f }
        let bookmark := if last = furthest then some new else bookmark
        onTree (·.append new last)
        adoptInner formattingId furthest fuel (count + 1) new new bookmark

/-- Closes a formatting element around a block that it does not end in: the block moves out, and a
copy of the formatting element takes in what the block holds. -/
def adopt (formattingId : Nat) (tag : Tag) (furthest : Nat) : Build Unit := do
  let stack := (← get).stack
  let ancestor := (((stack.dropWhile (· != formattingId)).drop 1).headD 0)
  let (last, bookmark) ← adoptInner formattingId furthest (stack.length + 1) 0 furthest furthest none
  let place ← spotIn (some ancestor)
  onTree (·.insert place last)
  let new ← create ⟨.html, tag.name⟩ tag.attributes
  onTree (·.moveChildren furthest new)
  onTree (·.append furthest new)
  let copy := Formatting.element new tag
  modify fun b => { b with formatting :=
    match bookmark with
    | none => b.formatting.map fun f => if f.id? == some formattingId then copy else f
    | some after => (b.formatting.filter fun f => f.id? != some formattingId).flatMap fun f =>
        if f.id? == some after then [copy, f] else [f] }
  removeFromStack formattingId
  pushInside furthest new

/-- An end tag without rules of its own: closes the innermost element with its name, unless a
special element is in the way. -/
def closeAny (name : String) : Build Unit := do
  let b ← get
  let rec go : List Nat → Option Nat
    | [] => none
    | id :: rest =>
      if b.tree.htmlName id == name then some id
      else if (b.tree.name? id).any isSpecial then none else go rest
  match go b.stack with
  | none => pure ()
  | some id =>
    closeImpliedExcept name
    modify fun b => { b with stack := (b.stack.dropWhile (· != id)).drop 1 }

def closeFormatting (name : String) : Nat → Build Unit
  | 0 => pure ()
  | rounds + 1 => do
    let b ← get
    let since := b.formatting.takeWhile fun f => f.id?.isSome
    let entry := since.findSome? fun
      | .element id tag => if tag.name == name then some (id, tag) else none
      | .marker => none
    match entry with
    | none => closeAny name
    | some (id, tag) =>
      if !b.stack.contains id then removeFormatting id
      else if !(← inScope baseScope fun other _ => other == id) then pure ()
      else
        let inner := b.stack.takeWhile (· != id)
        match inner.reverse.find? fun i => (b.tree.name? i).any isSpecial with
        | none =>
          modify fun b => { b with stack := (b.stack.dropWhile (· != id)).drop 1 }
          removeFormatting id
        | some furthest =>
          adopt id tag furthest
          closeFormatting name rounds

def adoptionAgency (name : String) : Build Unit := do
  let id ← currentId
  let listed := (← get).formatting.any fun f => f.id? == some id
  if (← currentName) == name && !listed then pop
  else closeFormatting name 8

def phaseFor (b : Builder) : List Nat → Phase
  | [] => .inBody
  | id :: rest =>
    let isLast := rest.isEmpty
    match b.tree.htmlName id with
    | "select" =>
      let outer := rest.takeWhile fun i => b.tree.htmlName i != "template"
      if outer.any fun i => b.tree.htmlName i == "table" then .inSelectInTable else .inSelect
    | "td" | "th" => if isLast then .inBody else .inCell
    | "tr" => .inRow
    | "tbody" | "thead" | "tfoot" => .inTableBody
    | "caption" => .inCaption
    | "colgroup" => .inColumnGroup
    | "table" => .inTable
    | "template" => b.templatePhases.headD .inBody
    | "head" => if isLast then .inBody else .inHead
    | "body" => .inBody
    | "frameset" => .inFrameset
    | "html" => if b.head.isNone then .beforeHead else .afterHead
    | _ => phaseFor b rest

def resetPhase : Build Unit := modify fun b => { b with phase := phaseFor b b.stack }

end Build
end PagePreview.Markup
