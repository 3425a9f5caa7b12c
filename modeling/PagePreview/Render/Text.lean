import PagePreview.Script.Str
import PagePreview.Text.Blank
import PagePreview.Text.LetterCase

/-! The texts of markup: how characters are escaped, and how the names of attributes and of style
properties are written. -/

namespace PagePreview.Render
open Script Text

def escapes : List (Char × String) :=
  [('&', "&amp;"), ('<', "&lt;"), ('>', "&gt;"), ('"', "&quot;"), ('\'', "&#x27;")]

def escapeChars (s : List Char) : List Char :=
  escapes.foldl (fun s (c, reference) => replaceAll [c] reference.toList s) s

def escape (s : Str) : Str := s.mapChars escapeChars

def isCapital (c : Char) : Bool := 'A' ≤ c && c ≤ 'Z'

def hyphenate (s : List Char) : List Char :=
  toLower (s.flatMap fun c => if isCapital c then ['-', c] else [c])

def voidElements : List String := [
  "area", "base", "br", "col", "embed", "hr", "img", "input", "link", "meta", "param", "source",
  "track", "wbr"]

def attributeAliases : List (String × String) := [
  ("className", "class"), ("htmlFor", "for"), ("acceptCharset", "accept-charset"),
  ("httpEquiv", "http-equiv"), ("xlinkHref", "xlink:href"), ("xmlLang", "xml:lang"),
  ("xmlSpace", "xml:space")]

def smallAttributes : List String := [
  "tabIndex", "readOnly", "maxLength", "minLength", "autoComplete", "autoFocus", "autoPlay",
  "crossOrigin", "srcSet", "colSpan", "rowSpan", "encType", "contentEditable", "spellCheck",
  "dateTime", "noValidate", "formAction", "formMethod", "playsInline", "referrerPolicy",
  "frameBorder", "allowFullScreen", "itemProp", "itemScope", "itemType", "inputMode",
  "enterKeyHint", "cellPadding", "cellSpacing", "useMap", "marginWidth", "marginHeight",
  "hrefLang", "accessKey", "charSet", "noModule", "fetchPriority"]

def drawingAttributes : List String := [
  "viewBox", "preserveAspectRatio", "gradientTransform", "gradientUnits", "patternUnits",
  "patternContentUnits", "patternTransform", "clipPathUnits", "markerHeight", "markerWidth",
  "markerUnits", "refX", "refY", "stdDeviation", "textLength", "lengthAdjust",
  "baseFrequency", "numOctaves", "pathLength", "spreadMethod", "startOffset", "tableValues",
  "attributeName", "attributeType", "keyTimes", "keySplines", "repeatCount", "repeatDur",
  "calcMode", "keyPoints", "filterUnits", "primitiveUnits", "maskUnits", "maskContentUnits",
  "edgeMode", "surfaceScale", "diffuseConstant", "specularExponent", "kernelMatrix"]

def skippedProperties : List String := [
  "children", "dangerouslySetInnerHTML", "key", "ref", "suppressHydrationWarning",
  "suppressContentEditableWarning", "defaultValue", "defaultChecked"]

def isDataName (name : List Char) : Bool :=
  startsWith "data-".toList name || startsWith "aria-".toList name

def isHandlerName : List Char → Bool
  | 'o' :: 'n' :: c :: _ => isCapital c
  | _ => false

def attributeChars (name : List Char) : List Char :=
  let text := String.ofList name
  match attributeAliases.lookup text with
  | some written => written.toList
  | none =>
    if drawingAttributes.contains text then name
    else if smallAttributes.contains text then toLower name
    else if isDataName name then name
    else if name.any isCapital then hyphenate name else name

def unitlessStyles : List String := [
  "animationIterationCount", "aspectRatio", "columnCount", "columns", "flex", "flexGrow",
  "flexShrink", "fontWeight", "gridArea", "gridColumn", "gridColumnEnd", "gridColumnStart",
  "gridRow", "gridRowEnd", "gridRowStart", "lineClamp", "lineHeight", "opacity", "order",
  "orphans", "scale", "tabSize", "widows", "zIndex", "zoom", "fillOpacity", "floodOpacity",
  "stopOpacity", "strokeDasharray", "strokeDashoffset", "strokeMiterlimit", "strokeOpacity",
  "strokeWidth"]

def isOwnStyle (name : List Char) : Bool := startsWith ['-', '-'] name

def hasVendor (vendor : String) (name : List Char) : Bool :=
  match after? vendor.toList name with
  | some (c :: _) => isCapital c
  | _ => false

def styleChars (name : List Char) : List Char :=
  if isOwnStyle name then name
  else if hasVendor "ms" name then '-' :: hyphenate name
  else if ["Webkit", "Moz", "O"].any (hasVendor · name) then
    '-' :: hyphenate (toLower (name.take 1) ++ name.drop 1)
  else hyphenate name

/-- Applies a rule for names. A name that is no Unicode text belongs to no list; it is shown to the
rule's test with its surrogates blanked out. -/
def named (rule : List Char → List Char) (changes : List Char → Bool) : Str → Str
  | .plain s => .plain (String.ofList (rule s.toList))
  | .units us =>
    let shown := us.toList.map fun u => Char.ofNat u.toNat
    if changes shown then (Str.units us).mapChars hyphenate else .units us

def attributeName : Str → Str :=
  named attributeChars fun s => !isDataName s && s.any isCapital

def styleName : Str → Str := named styleChars fun s => !isOwnStyle s

def holdsOf (test : List Char → Bool) : Str → Bool
  | .plain s => test s.toList
  | .units us => test (us.toList.map fun u => Char.ofNat u.toNat)

end PagePreview.Render
