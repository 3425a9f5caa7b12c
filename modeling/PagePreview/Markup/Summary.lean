import PagePreview.Markup.Rules

/-! Summaries of markup: what a rendered page shows, as its reader would build it. -/

namespace PagePreview
open Text

structure MarkupSummary where
  text : String := ""
  elementCount : Nat := 0
  stubMarkers : List String := []
  iconMarkers : List String := []
  deriving DecidableEq

namespace MarkupSummary
open Markup

def isEmpty (s : MarkupSummary) : Bool := s.elementCount == 0 && s.text.isEmpty

structure Tally where
  texts : List String := []
  elements : Nat := 0
  stubs : List String := []
  icons : List String := []

def Tally.addAttribute (t : Tally) (a : Attribute) : Tally :=
  if a.name == "data-ai-stub" then { t with stubs := t.stubs ++ [a.value] }
  else if a.name == "data-ai-icon" then { t with icons := t.icons ++ [a.value] }
  else t

/-- Walks the nodes still to be visited; `fuel` bounds their number. The elements that every
document has do not count, and the inside of styles and scripts is not text. -/
def collect (tree : Tree) : Nat → List Nat → Tally → Tally
  | 0, _, tally => tally
  | _, [], tally => tally
  | fuel + 1, id :: rest, tally =>
    let node := tree.node id
    match node.content with
    | .text s => collect tree fuel rest { tally with texts := s :: tally.texts }
    | .element name attributes =>
      let tally := if ["html", "head", "body"].contains name.label then tally
        else { tally with elements := tally.elements + 1 }
      let tally := attributes.foldl Tally.addAttribute tally
      if ["style", "script"].contains name.label then collect tree fuel rest tally
      else collect tree fuel (node.children ++ rest) tally
    | .document => collect tree fuel (node.children ++ rest) tally
    | .comment => collect tree fuel rest tally

def spaced (texts : List String) : String :=
  let all := (texts.map (·.toList)).flatMap (· ++ [' '])
  " ".intercalate ((words all).map String.ofList)

def ofTree (tree : Tree) : MarkupSummary :=
  let tally := collect tree (tree.nodes.size + 1) [0] {}
  { text := spaced tally.texts.reverse
    elementCount := tally.elements
    stubMarkers := tally.stubs
    iconMarkers := tally.icons }

def ofMarkup (markup : String) : MarkupSummary :=
  if (trim markup.toList).isEmpty then {} else ofTree (Build.tree markup.toList)

end MarkupSummary
end PagePreview
