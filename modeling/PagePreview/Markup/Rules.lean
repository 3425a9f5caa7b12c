import PagePreview.Markup.Builder

/-! The rules by which tokens become a tree, phase by phase. -/

namespace PagePreview.Markup.Build
open Text Lexer

def isSpaceToken : Token → Bool
  | .char c => isSpace c
  | _ => false

def quirkyStarts : List String := [
  "-//advasoft ltd//dtd html 3.0 aswedit + extensions//", "-//as//dtd html 3.0 aswedit + extensions//",
  "+//silmaril//dtd html pro v0r11 19970101//", "-//ietf//dtd html 2.0 level 1//",
  "-//ietf//dtd html 2.0 level 2//", "-//ietf//dtd html 2.0 strict level 1//",
  "-//ietf//dtd html 2.0 strict level 2//", "-//ietf//dtd html 2.0 strict//",
  "-//ietf//dtd html 2.0//", "-//ietf//dtd html 2.1e//", "-//ietf//dtd html 3.0//",
  "-//ietf//dtd html 3.2 final//", "-//ietf//dtd html 3.2//", "-//ietf//dtd html 3//",
  "-//ietf//dtd html level 0//", "-//ietf//dtd html level 1//", "-//ietf//dtd html level 2//",
  "-//ietf//dtd html level 3//", "-//ietf//dtd html strict level 0//",
  "-//ietf//dtd html strict level 1//", "-//ietf//dtd html strict level 2//",
  "-//ietf//dtd html strict level 3//", "-//ietf//dtd html strict//", "-//ietf//dtd html//",
  "-//metrius//dtd metrius presentational//", "-//microsoft//dtd internet explorer 2.0 html strict//",
  "-//microsoft//dtd internet explorer 2.0 html//", "-//microsoft//dtd internet explorer 2.0 tables//",
  "-//microsoft//dtd internet explorer 3.0 html strict//",
  "-//microsoft//dtd internet explorer 3.0 html//", "-//microsoft//dtd internet explorer 3.0 tables//",
  "-//netscape comm. corp.//dtd html//", "-//netscape comm. corp.//dtd strict html//",
  "-//o'reilly and associates//dtd html 2.0//", "-//o'reilly and associates//dtd html extended 1.0//",
  "-//o'reilly and associates//dtd html extended relaxed 1.0//",
  "-//softquad software//dtd hotmetal pro 6.0::19990601::extensions to html 4.0//",
  "-//softquad//dtd hotmetal pro 4.0::19971010::extensions to html 4.0//",
  "-//spyglass//dtd html 2.0 extended//", "-//sq//dtd html 2.0 hotmetal + extensions//",
  "-//sun microsystems corp.//dtd hotjava html//", "-//sun microsystems corp.//dtd hotjava strict html//",
  "-//w3c//dtd html 3 1995-03-24//", "-//w3c//dtd html 3.2 draft//", "-//w3c//dtd html 3.2 final//",
  "-//w3c//dtd html 3.2//", "-//w3c//dtd html 3.2s draft//", "-//w3c//dtd html 4.0 frameset//",
  "-//w3c//dtd html 4.0 transitional//", "-//w3c//dtd html experimental 19960712//",
  "-//w3c//dtd html experimental 970421//", "-//w3c//dtd w3 html//", "-//w3o//dtd w3 html 3.0//",
  "-//webtechs//dtd mozilla html 2.0//", "-//webtechs//dtd mozilla html//"]

def lower (s : String) : String := s.map Lexer.toLower

def Doctype.isQuirky (d : Doctype) : Bool :=
  let publicId := d.publicId.map lower
  let systemId := d.systemId.map lower
  let starts (prefixes : List String) : Bool :=
    publicId.any fun id => prefixes.any fun p => startsWith p.toList id.toList
  d.forceQuirks || d.name != some "html" ||
    publicId.any (["-//w3o//dtd w3 html strict 3.0//en//", "-/w3c/dtd html 4.0 transitional/en",
      "html"].contains ·) ||
    systemId == some "http://www.ibm.com/data/dtd/v11/ibmxhtml1-transitional.dtd" ||
    starts quirkyStarts ||
    (systemId.isNone &&
      starts ["-//w3c//dtd html 4.01 frameset//", "-//w3c//dtd html 4.01 transitional//"])

def initial : Token → Build Step
  | .char c =>
    if isSpace c then return .done
    else do modify fun b => { b with quirks := true }; again .beforeHtml
  | .comment => return .done
  | .doctype d => do
    modify fun b => { b with quirks := Doctype.isQuirky d, phase := .beforeHtml }
    return .done
  | _ => do modify fun b => { b with quirks := true }; again .beforeHtml

def insertRoot (attributes : List Attribute) : Build Unit := do
  let id ← create ⟨.html, "html"⟩ attributes
  onTree (·.append 0 id)
  push id

def beforeHtml (token : Token) : Build Step := do
  match token with
  | .comment | .doctype _ => return .done
  | .startTag ⟨"html", attributes, _⟩ => do
    insertRoot attributes
    setPhase .beforeHead
    return .done
  | .endTag name =>
    if ["head", "body", "html", "br"].contains name then do insertRoot []; again .beforeHead
    else return .done
  | token =>
    if isSpaceToken token then return .done
    insertRoot []
    again .beforeHead

def insertHead (attributes : List Attribute) : Build Unit := do
  let id ← insertNamed ⟨.html, "head"⟩ attributes
  modify fun b => { b with head := some id, phase := .inHead }

def beforeHead (token : Token) : Build Step := do
  match token with
  | .comment => do insertComment; return .done
  | .doctype _ => return .done
  | .startTag ⟨"html", _, _⟩ => return .through .inBody
  | .startTag ⟨"head", attributes, _⟩ => do insertHead attributes; return .done
  | .endTag name =>
    if ["head", "body", "html", "br"].contains name then do insertHead []; return .again
    else return .done
  | token =>
    if isSpaceToken token then return .done
    insertHead []
    return .again

def closeTemplate : Build Unit := do
  if ← hasOpen "template" then
    closeImplied thoroughlyImpliedEnd
    popUntil ["template"]
    clearToMarker
    modify fun b => { b with templatePhases := b.templatePhases.drop 1 }
    resetPhase

/-- The rules of the head for tokens that other phases share with it; false for other tokens. -/
def headContent (token : Token) : Build Bool := do
  match token with
  | .startTag tag =>
    if ["base", "basefont", "bgsound", "link", "meta"].contains tag.name then insertEmpty tag
    else if tag.name == "title" then insertTextElement tag .escapable
    else if ["noframes", "style", "noscript"].contains tag.name then insertTextElement tag .raw
    else if tag.name == "script" then insertTextElement tag .script
    else if tag.name == "template" then do
      insert tag
      pushMarker
      modify fun b => { b with
        framesetOk := false, phase := .inTemplate
        templatePhases := .inTemplate :: b.templatePhases }
    else return false
    return true
  | .endTag "template" => do closeTemplate; return true
  | _ => return false

def inHead (token : Token) : Build Step := do
  match token with
  | .comment => do insertComment; return .done
  | .doctype _ => return .done
  | .startTag ⟨"html", _, _⟩ => return .through .inBody
  | .startTag ⟨"head", _, _⟩ => return .done
  | .endTag "head" => do pop; setPhase .afterHead; return .done
  | .char c =>
    if isSpace c then do insertText (String.singleton c); return .done
    else do pop; again .afterHead
  | token =>
    if ← headContent token then return .done
    match token with
    | .endTag name =>
      if ["body", "html", "br"].contains name then do pop; again .afterHead
      else return .done
    | _ => do pop; again .afterHead

def afterHead (token : Token) : Build Step := do
  let openBody : Build Step := do
    let _ ← insertPlain "body"
    again .inBody
  match token with
  | .comment => do insertComment; return .done
  | .doctype _ => return .done
  | .char c =>
    if isSpace c then do insertText (String.singleton c); return .done else openBody
  | .startTag tag =>
    match tag.name with
    | "html" => return .through .inBody
    | "body" => do
      insert tag
      modify fun b => { b with framesetOk := false, phase := .inBody }
      return .done
    | "frameset" => do insert tag; setPhase .inFrameset; return .done
    | "head" => return .done
    | name =>
      if ["base", "basefont", "bgsound", "link", "meta", "noframes", "script", "style", "template",
          "title"].contains name then do
        let head := ((← get).head).getD 0
        push head
        let _ ← headContent token
        removeFromStack head
        return .done
      else openBody
  | .endTag name =>
    if name == "template" then do closeTemplate; return .done
    else if ["body", "html", "br"].contains name then openBody
    else return .done
  | .eof => openBody

def notFramesetOk : Build Unit := modify fun b => { b with framesetOk := false }

def closeItems (names : List String) : Build Unit := do
  let b ← get
  let rec go : List Nat → Option String
    | [] => none
    | id :: rest =>
      let name := b.tree.htmlName id
      if names.contains name then some name
      else if (b.tree.name? id).any isSpecial && !(["address", "div", "p"].contains name) then none
      else go rest
  match go b.stack with
  | some name => do closeImpliedExcept name; popUntil [name]
  | none => pure ()
  closeParagraph

def insertForeign (space : Namespace) (tag : Tag) : Build Unit := do
  let _ ← insertNamed ⟨space, tag.name⟩ tag.attributes
  if tag.selfClosing then pop

def blockNames : List String := [
  "address", "article", "aside", "blockquote", "center", "details", "dialog", "dir", "div", "dl",
  "fieldset", "figcaption", "figure", "footer", "header", "hgroup", "main", "menu", "nav", "ol",
  "p", "search", "section", "summary", "ul"]

def headings : List String := ["h1", "h2", "h3", "h4", "h5", "h6"]

def formattingNames : List String := [
  "b", "big", "code", "em", "font", "i", "s", "small", "strike", "strong", "tt", "u"]

def insertFormatting (tag : Tag) : Build Unit := do
  reopenFormatting
  let id ← insertElement tag
  addFormatting id tag

def isHiddenInput (tag : Tag) : Bool :=
  tag.attributes.any fun a => a.name == "type" && lower a.value == "hidden"

def bodyStart (tag : Tag) : Build Step := do
  let name := tag.name
  if name == "html" then
    if !(← hasOpen "template") then
      match (← get).stack.getLast? with
      | some root => mergeAttributes root tag.attributes
      | none => pure ()
  else if ["base", "basefont", "bgsound", "link", "meta", "noframes", "script", "style", "template",
      "title"].contains name then
    let _ ← headContent (.startTag tag)
  else if name == "body" then
    let stack := (← get).stack
    match stack.reverse.drop 1 with
    | id :: _ =>
      if (← nameOf id) == "body" && stack.length != 1 && !(← hasOpen "template") then
        notFramesetOk
        mergeAttributes id tag.attributes
    | [] => pure ()
  else if name == "frameset" then
    let b ← get
    match b.stack.reverse.drop 1 with
    | id :: _ =>
      if b.framesetOk && b.tree.htmlName id == "body" then
        onTree (·.detach id)
        modify fun b => { b with stack := b.stack.drop (b.stack.length - 1) }
        insert tag
        setPhase .inFrameset
    | [] => pure ()
  else if blockNames.contains name then
    closeParagraph
    insert tag
  else if headings.contains name then
    closeParagraph
    if ← currentIn headings then pop
    insert tag
  else if name == "pre" || name == "listing" then
    closeParagraph
    insert tag
    modify fun b => { b with ignoreLineFeed := true, framesetOk := false }
  else if name == "form" then
    let nested ← hasOpen "template"
    if (← get).form.isNone || nested then
      closeParagraph
      let id ← insertElement tag
      if !nested then modify fun b => { b with form := some id }
  else if name == "li" then
    notFramesetOk
    closeItems ["li"]
    insert tag
  else if name == "dd" || name == "dt" then
    notFramesetOk
    closeItems ["dd", "dt"]
    insert tag
  else if name == "plaintext" then
    closeParagraph
    insert tag
    modify fun b => { b with lexer := { b.lexer with mode := .plain } }
  else if name == "button" then
    if ← nameInScope baseScope ["button"] then
      closeImplied impliedEnd
      popUntil ["button"]
    reopenFormatting
    insert tag
    notFramesetOk
  else if name == "a" then
    let since := (← get).formatting.takeWhile fun f => f.id?.isSome
    let earlier := since.findSome? fun
      | .element id t => if t.name == "a" then some id else none
      | .marker => none
    match earlier with
    | some id => do
      adoptionAgency "a"
      removeFormatting id
      removeFromStack id
    | none => pure ()
    insertFormatting tag
  else if formattingNames.contains name then insertFormatting tag
  else if name == "nobr" then
    reopenFormatting
    if ← nameInScope baseScope ["nobr"] then
      adoptionAgency "nobr"
      reopenFormatting
    let id ← insertElement tag
    addFormatting id tag
  else if ["applet", "marquee", "object"].contains name then
    reopenFormatting
    insert tag
    pushMarker
    notFramesetOk
  else if name == "table" then
    if !(← get).quirks then closeParagraph
    insert tag
    notFramesetOk
    setPhase .inTable
  else if ["area", "br", "embed", "img", "keygen", "wbr"].contains name then
    reopenFormatting
    insertEmpty tag
    notFramesetOk
  else if name == "input" then
    reopenFormatting
    insertEmpty tag
    if !isHiddenInput tag then notFramesetOk
  else if ["param", "source", "track"].contains name then insertEmpty tag
  else if name == "hr" then
    closeParagraph
    insertEmpty tag
    notFramesetOk
  else if name == "image" then
    reopenFormatting
    insertEmpty { tag with name := "img" }
    notFramesetOk
  else if name == "textarea" then
    insertTextElement tag .escapable
    modify fun b => { b with ignoreLineFeed := true, framesetOk := false }
  else if name == "xmp" then
    closeParagraph
    reopenFormatting
    notFramesetOk
    insertTextElement tag .raw
  else if name == "iframe" then
    notFramesetOk
    insertTextElement tag .raw
  else if name == "noembed" || name == "noscript" then insertTextElement tag .raw
  else if name == "select" then
    reopenFormatting
    insert tag
    notFramesetOk
    modify fun b => { b with phase :=
      if [Phase.inTable, .inCaption, .inTableBody, .inRow, .inCell].contains b.phase
      then .inSelectInTable else .inSelect }
  else if name == "optgroup" || name == "option" then
    if ← currentIn ["option"] then pop
    reopenFormatting
    insert tag
  else if name == "rb" || name == "rtc" then
    if ← nameInScope baseScope ["ruby"] then closeImplied impliedEnd
    insert tag
  else if name == "rp" || name == "rt" then
    if ← nameInScope baseScope ["ruby"] then closeImpliedExcept "rtc"
    insert tag
  else if name == "math" then
    reopenFormatting
    insertForeign .math tag
  else if name == "svg" then
    reopenFormatting
    insertForeign .svg tag
  else if ["caption", "col", "colgroup", "frame", "head", "tbody", "td", "tfoot", "th", "thead",
      "tr"].contains name then pure ()
  else
    reopenFormatting
    insert tag
  return .done

def bodyEnd (name : String) : Build Step := do
  if name == "template" then closeTemplate
  else if name == "body" then
    if ← nameInScope baseScope ["body"] then setPhase .afterBody
  else if name == "html" then
    if ← nameInScope baseScope ["body"] then return ← again .afterBody
  else if ["address", "article", "aside", "blockquote", "button", "center", "details", "dialog",
      "dir", "div", "dl", "fieldset", "figcaption", "figure", "footer", "header", "hgroup",
      "listing", "main", "menu", "nav", "ol", "pre", "search", "section", "summary",
      "ul"].contains name then
    if ← nameInScope baseScope [name] then
      closeImplied impliedEnd
      popUntil [name]
  else if name == "form" then
    if ← hasOpen "template" then
      if ← nameInScope baseScope ["form"] then
        closeImplied impliedEnd
        popUntil ["form"]
    else
      let form := (← get).form
      modify fun b => { b with form := none }
      match form with
      | some id =>
        if ← inScope baseScope fun other _ => other == id then
          closeImplied impliedEnd
          removeFromStack id
      | none => pure ()
  else if name == "p" then
    if !(← nameInScope buttonScope ["p"]) then
      let _ ← insertPlain "p"
    closeParagraph
  else if name == "li" then
    if ← nameInScope listScope ["li"] then
      closeImpliedExcept "li"
      popUntil ["li"]
  else if name == "dd" || name == "dt" then
    if ← nameInScope baseScope [name] then
      closeImpliedExcept name
      popUntil [name]
  else if headings.contains name then
    if ← nameInScope baseScope headings then
      closeImplied impliedEnd
      popUntil headings
  else if ("a" :: "nobr" :: formattingNames).contains name then adoptionAgency name
  else if ["applet", "marquee", "object"].contains name then
    if ← nameInScope baseScope [name] then
      closeImplied impliedEnd
      popUntil [name]
      clearToMarker
  else if name == "br" then
    reopenFormatting
    insertEmpty { name := "br" }
    notFramesetOk
  else closeAny name
  return .done

def inBody : Token → Build Step
  | .comment => do insertComment; return .done
  | .doctype _ => return .done
  | .char c =>
    if c == '\x00' then return .done
    else do
      reopenFormatting
      insertText (String.singleton c)
      if !isSpace c then notFramesetOk
      return .done
  | .startTag tag => bodyStart tag
  | .endTag name => bodyEnd name
  | .eof => do
    if (← get).templatePhases.isEmpty then return .done else return .through .inTemplate

def leaveText : Build Unit := do
  pop
  modify fun b => { b with phase := b.returnPhase }

def inText : Token → Build Step
  | .char c => do insertText (String.singleton c); return .done
  | .eof => do leaveText; return .again
  | .endTag _ => do leaveText; return .done
  | _ => return .done

def fostered (token : Token) : Build Step := do
  modify fun b => { b with fostering := true }
  let step ← inBody token
  modify fun b => { b with fostering := false }
  return step

def tableContext : List String := ["table", "template", "html"]
def tableBodyContext : List String := ["tbody", "tfoot", "thead", "template", "html"]
def rowContext : List String := ["tr", "template", "html"]

def inTable (token : Token) : Build Step := do
  match token with
  | .comment => do insertComment; return .done
  | .doctype _ => return .done
  | .char _ =>
    if ← currentIn ["table", "tbody", "tfoot", "thead", "tr"] then
      modify fun b => { b with returnPhase := b.phase, phase := .inTableText, tableText := [] }
      return .again
    else fostered token
  | .startTag tag =>
    match tag.name with
    | "caption" => do
      popTo tableContext
      pushMarker
      insert tag
      setPhase .inCaption
      return .done
    | "colgroup" => do popTo tableContext; insert tag; setPhase .inColumnGroup; return .done
    | "col" => do
      popTo tableContext
      let _ ← insertPlain "colgroup"
      again .inColumnGroup
    | "tbody" | "tfoot" | "thead" => do
      popTo tableContext
      insert tag
      setPhase .inTableBody
      return .done
    | "td" | "th" | "tr" => do
      popTo tableContext
      let _ ← insertPlain "tbody"
      again .inTableBody
    | "table" => do
      if ← nameInScope tableScope ["table"] then
        popUntil ["table"]
        resetPhase
        return .again
      else return .done
    | "style" | "script" | "template" => do let _ ← headContent token; return .done
    | "input" =>
      if isHiddenInput tag then do insertEmpty tag; return .done else fostered token
    | "form" => do
      let b ← get
      if b.form.isNone && !(← hasOpen "template") then
        let id ← insertElement tag
        modify fun b => { b with form := some id }
        pop
      return .done
    | _ => fostered token
  | .endTag name =>
    if name == "table" then do
      if ← nameInScope tableScope ["table"] then
        popUntil ["table"]
        resetPhase
      return .done
    else if ["body", "caption", "col", "colgroup", "html", "tbody", "td", "tfoot", "th", "thead",
        "tr"].contains name then return .done
    else if name == "template" then do closeTemplate; return .done
    else fostered token
  | .eof => inBody .eof

def inTableText (token : Token) : Build Step := do
  match token with
  | .char c => do
    if c != '\x00' then modify fun b => { b with tableText := c :: b.tableText }
    return .done
  | _ => do
    let text := (← get).tableText.reverse
    if text.all isSpace then insertText (String.ofList text)
    else
      for c in text do
        let _ ← fostered (.char c)
    modify fun b => { b with phase := b.returnPhase, tableText := [] }
    return .again

def closeCaption : Build Bool := do
  if ← nameInScope tableScope ["caption"] then
    closeImplied impliedEnd
    popUntil ["caption"]
    clearToMarker
    setPhase .inTable
    return true
  else return false

def inCaption (token : Token) : Build Step := do
  match token with
  | .startTag tag =>
    if ["caption", "col", "colgroup", "tbody", "td", "tfoot", "th", "thead", "tr"].contains tag.name
    then do if ← closeCaption then return .again else return .done
    else return .through .inBody
  | .endTag name =>
    if name == "caption" then do let _ ← closeCaption; return .done
    else if name == "table" then do if ← closeCaption then return .again else return .done
    else if ["body", "col", "colgroup", "html", "tbody", "td", "tfoot", "th", "thead", "tr"].contains
        name then return .done
    else return .through .inBody
  | _ => return .through .inBody

def inColumnGroup (token : Token) : Build Step := do
  let leave : Build Step := do
    if ← currentIn ["colgroup"] then do pop; again .inTable
    else return .done
  match token with
  | .comment => do insertComment; return .done
  | .doctype _ => return .done
  | .char c =>
    if isSpace c then do insertText (String.singleton c); return .done else leave
  | .startTag tag =>
    match tag.name with
    | "html" => return .through .inBody
    | "col" => do insertEmpty tag; return .done
    | "template" => do let _ ← headContent token; return .done
    | _ => leave
  | .endTag name =>
    match name with
    | "colgroup" => do
      if ← currentIn ["colgroup"] then
        pop
        setPhase .inTable
      return .done
    | "col" => return .done
    | "template" => do closeTemplate; return .done
    | _ => leave
  | .eof => return .through .inBody

def inTableBody (token : Token) : Build Step := do
  let leave : Build Step := do
    if ← nameInScope tableScope ["tbody", "thead", "tfoot"] then
      popTo tableBodyContext
      pop
      again .inTable
    else return .done
  match token with
  | .startTag tag =>
    match tag.name with
    | "tr" => do popTo tableBodyContext; insert tag; setPhase .inRow; return .done
    | "th" | "td" => do
      popTo tableBodyContext
      let _ ← insertPlain "tr"
      again .inRow
    | name =>
      if ["caption", "col", "colgroup", "tbody", "tfoot", "thead"].contains name then leave
      else return .through .inTable
  | .endTag name =>
    if ["tbody", "tfoot", "thead"].contains name then do
      if ← nameInScope tableScope [name] then
        popTo tableBodyContext
        pop
        setPhase .inTable
      return .done
    else if name == "table" then leave
    else if ["body", "caption", "col", "colgroup", "html", "td", "th", "tr"].contains name then
      return .done
    else return .through .inTable
  | _ => return .through .inTable

def inRow (token : Token) : Build Step := do
  let close : Build Bool := do
    if ← nameInScope tableScope ["tr"] then
      popTo rowContext
      pop
      setPhase .inTableBody
      return true
    else return false
  match token with
  | .startTag tag =>
    match tag.name with
    | "th" | "td" => do
      popTo rowContext
      insert tag
      setPhase .inCell
      pushMarker
      return .done
    | name =>
      if ["caption", "col", "colgroup", "tbody", "tfoot", "thead", "tr"].contains name then do
        if ← close then return .again else return .done
      else return .through .inTable
  | .endTag name =>
    match name with
    | "tr" => do let _ ← close; return .done
    | "table" => do if ← close then return .again else return .done
    | "tbody" | "tfoot" | "thead" => do
      if ← nameInScope tableScope [name] then
        if ← close then return .again
      return .done
    | _ =>
      if ["body", "caption", "col", "colgroup", "html", "td", "th"].contains name then return .done
      else return .through .inTable
  | _ => return .through .inTable

def closeCell : Build Unit := do
  closeImplied impliedEnd
  popUntil ["td", "th"]
  clearToMarker
  setPhase .inRow

def inCell (token : Token) : Build Step := do
  match token with
  | .startTag tag =>
    if ["caption", "col", "colgroup", "tbody", "td", "tfoot", "th", "thead", "tr"].contains tag.name
    then do
      if ← nameInScope tableScope ["td", "th"] then
        closeCell
        return .again
      else return .done
    else return .through .inBody
  | .endTag name =>
    if name == "td" || name == "th" then do
      if ← nameInScope tableScope [name] then
        closeImplied impliedEnd
        popUntil [name]
        clearToMarker
        setPhase .inRow
      return .done
    else if ["body", "caption", "col", "colgroup", "html"].contains name then return .done
    else if ["table", "tbody", "tfoot", "thead", "tr"].contains name then do
      if ← nameInScope tableScope [name] then
        closeCell
        return .again
      else return .done
    else return .through .inBody
  | _ => return .through .inBody

def inSelect (token : Token) : Build Step := do
  match token with
  | .comment => do insertComment; return .done
  | .doctype _ => return .done
  | .char c =>
    if c == '\x00' then return .done
    insertText (String.singleton c)
    return .done
  | .startTag tag =>
    match tag.name with
    | "html" => return .through .inBody
    | "option" => do
      if ← currentIn ["option"] then pop
      insert tag
      return .done
    | "optgroup" => do
      if ← currentIn ["option"] then pop
      if ← currentIn ["optgroup"] then pop
      insert tag
      return .done
    | "hr" => do
      if ← currentIn ["option"] then pop
      if ← currentIn ["optgroup"] then pop
      insertEmpty tag
      return .done
    | "select" => do
      if ← inSelectScope "select" then
        popUntil ["select"]
        resetPhase
      return .done
    | "input" | "keygen" | "textarea" => do
      if ← inSelectScope "select" then
        popUntil ["select"]
        resetPhase
        return .again
      else return .done
    | "script" | "template" => do let _ ← headContent token; return .done
    | _ => return .done
  | .endTag name =>
    match name with
    | "optgroup" => do
      if ← currentIn ["option"] then
        match (← get).stack.drop 1 with
        | id :: _ => if (← nameOf id) == "optgroup" then pop
        | [] => pure ()
      if ← currentIn ["optgroup"] then pop
      return .done
    | "option" => do
      if ← currentIn ["option"] then pop
      return .done
    | "select" => do
      if ← inSelectScope "select" then
        popUntil ["select"]
        resetPhase
      return .done
    | "template" => do closeTemplate; return .done
    | _ => return .done
  | .eof => return .through .inBody

def inSelectInTable (token : Token) : Build Step := do
  let names := ["caption", "table", "tbody", "tfoot", "thead", "tr", "td", "th"]
  match token with
  | .startTag tag =>
    if names.contains tag.name then do
      popUntil ["select"]
      resetPhase
      return .again
    else return .through .inSelect
  | .endTag name =>
    if names.contains name then do
      if ← nameInScope tableScope [name] then
        popUntil ["select"]
        resetPhase
        return .again
      else return .done
    else return .through .inSelect
  | _ => return .through .inSelect

def inTemplate (token : Token) : Build Step := do
  let swap (phase : Phase) : Build Step := do
    modify fun b => { b with templatePhases := phase :: b.templatePhases.drop 1 }
    again phase
  match token with
  | .startTag tag =>
    let name := tag.name
    if ["base", "basefont", "bgsound", "link", "meta", "noframes", "script", "style", "template",
        "title"].contains name then do let _ ← headContent token; return .done
    else if ["caption", "colgroup", "tbody", "tfoot", "thead"].contains name then swap .inTable
    else if name == "col" then swap .inColumnGroup
    else if name == "tr" then swap .inTableBody
    else if name == "td" || name == "th" then swap .inRow
    else swap .inBody
  | .endTag name =>
    if name == "template" then do closeTemplate; return .done else return .done
  | .eof => do
    if ← hasOpen "template" then
      popUntil ["template"]
      clearToMarker
      modify fun b => { b with templatePhases := b.templatePhases.drop 1 }
      resetPhase
      return .again
    else return .done
  | _ => return .through .inBody

def afterBody (token : Token) : Build Step := do
  match token with
  | .comment | .doctype _ => return .done
  | .startTag ⟨"html", _, _⟩ => return .through .inBody
  | .endTag "html" => do setPhase .afterAfterBody; return .done
  | .eof => return .done
  | token => if isSpaceToken token then return .through .inBody else again .inBody

def inFrameset (token : Token) : Build Step := do
  match token with
  | .char c => do
    if isSpace c then insertText (String.singleton c)
    return .done
  | .startTag tag =>
    match tag.name with
    | "html" => return .through .inBody
    | "frameset" => do insert tag; return .done
    | "frame" => do insertEmpty tag; return .done
    | "noframes" => do let _ ← headContent token; return .done
    | _ => return .done
  | .endTag "frameset" => do
    if (← get).stack.length != 1 then
      pop
      if !(← currentIn ["frameset"]) then setPhase .afterFrameset
    return .done
  | _ => return .done

def afterFrameset (token : Token) : Build Step := do
  match token with
  | .char c => do
    if isSpace c then insertText (String.singleton c)
    return .done
  | .startTag ⟨"html", _, _⟩ => return .through .inBody
  | .startTag ⟨"noframes", _, _⟩ => do let _ ← headContent token; return .done
  | .endTag "html" => do setPhase .afterAfterFrameset; return .done
  | _ => return .done

def afterAfterBody (token : Token) : Build Step := do
  match token with
  | .comment | .eof => return .done
  | .doctype _ => return .through .inBody
  | .startTag ⟨"html", _, _⟩ => return .through .inBody
  | token => if isSpaceToken token then return .through .inBody else again .inBody

def afterAfterFrameset (token : Token) : Build Step := do
  match token with
  | .startTag ⟨"html", _, _⟩ => return .through .inBody
  | .startTag ⟨"noframes", _, _⟩ => do let _ ← headContent token; return .done
  | token => if isSpaceToken token then return .through .inBody else return .done

def rules : Phase → Token → Build Step
  | .initial => initial
  | .beforeHtml => beforeHtml
  | .beforeHead => beforeHead
  | .inHead => inHead
  | .afterHead => afterHead
  | .inBody => inBody
  | .text => inText
  | .inTable => inTable
  | .inTableText => inTableText
  | .inCaption => inCaption
  | .inColumnGroup => inColumnGroup
  | .inTableBody => inTableBody
  | .inRow => inRow
  | .inCell => inCell
  | .inSelect => inSelect
  | .inSelectInTable => inSelectInTable
  | .inTemplate => inTemplate
  | .afterBody => afterBody
  | .inFrameset => inFrameset
  | .afterFrameset => afterFrameset
  | .afterAfterBody => afterAfterBody
  | .afterAfterFrameset => afterAfterFrameset

def breakoutNames : List String := [
  "b", "big", "blockquote", "body", "br", "center", "code", "dd", "div", "dl", "dt", "em", "embed",
  "h1", "h2", "h3", "h4", "h5", "h6", "head", "hr", "i", "img", "li", "listing", "menu", "meta",
  "nobr", "ol", "p", "pre", "ruby", "s", "small", "span", "strong", "strike", "sub", "sup", "table",
  "tt", "u", "ul", "var"]

def isMathText (name : Name) : Bool :=
  name.space == .math && ["mi", "mo", "mn", "ms", "mtext"].contains name.label

def isHtmlPoint (t : Tree) (id : Nat) : Bool :=
  match t.name? id with
  | some ⟨.svg, label⟩ => ["foreignObject", "desc", "title"].contains label
  | some ⟨.math, "annotation-xml"⟩ =>
    (t.attributes id).any fun a => a.name == "encoding" &&
      ["text/html", "application/xhtml+xml"].contains (lower a.value)
  | _ => false

def isForeign (token : Token) : Build Bool := do
  let b ← get
  match token, b.stack with
  | .eof, _ | _, [] => return false
  | token, id :: _ =>
    match b.tree.name? id with
    | none => return false
    | some name =>
      if name.space == .html then return false
      let fits := match token with
        | .char _ => isMathText name || isHtmlPoint b.tree id
        | .startTag tag =>
          (isMathText name && tag.name != "mglyph" && tag.name != "malignmark") ||
            isHtmlPoint b.tree id ||
            (name == ⟨.math, "annotation-xml"⟩ && tag.name == "svg")
        | _ => false
      return !fits

def svgNames : List String := [
  "altGlyph", "altGlyphDef", "altGlyphItem", "animateColor", "animateMotion", "animateTransform",
  "clipPath", "feBlend", "feColorMatrix", "feComponentTransfer", "feComposite",
  "feConvolveMatrix", "feDiffuseLighting", "feDisplacementMap", "feDistantLight", "feDropShadow",
  "feFlood", "feFuncA", "feFuncB", "feFuncG", "feFuncR", "feGaussianBlur", "feImage", "feMerge",
  "feMergeNode", "feMorphology", "feOffset", "fePointLight", "feSpecularLighting", "feSpotLight",
  "feTile", "feTurbulence", "foreignObject", "glyphRef", "linearGradient", "radialGradient",
  "textPath"]

def svgName (name : String) : String := (svgNames.find? fun n => lower n == name).getD name

def leaveForeign : Build Unit := modify fun b =>
  { b with stack := b.stack.dropWhile fun id =>
      match b.tree.name? id with
      | some name => name.space != .html && !isMathText name && !isHtmlPoint b.tree id
      | none => false }

def closeForeign (name : String) : Build Step := do
  let b ← get
  let rec go (isFirst : Bool) : List Nat → Option (List Nat) ⊕ Unit
    | [] => .inl none
    | id :: rest =>
      match b.tree.name? id with
      | none => .inl none
      | some n =>
        if !isFirst && n.space == .html then .inr ()
        else if lower n.label == name then .inl (some rest)
        else go false rest
  match go true b.stack with
  | .inl none => return .done
  | .inl (some stack) =>
    -- The root is never closed.
    if !stack.isEmpty then modify fun b => { b with stack }
    return .done
  | .inr () => rules b.phase (.endTag name)

def foreign (token : Token) : Build Step := do
  match token with
  | .char c => do
    if c == '\x00' then insertText "\uFFFD"
    else
      insertText (String.singleton c)
      if !isSpace c then notFramesetOk
    return .done
  | .startTag tag =>
    let breaksOut := breakoutNames.contains tag.name || (tag.name == "font" &&
      tag.attributes.any fun a => ["color", "face", "size"].contains a.name)
    if breaksOut then do
      leaveForeign
      rules (← get).phase token
    else do
      let space := (((← get).tree.name? (← currentId)).map (·.space)).getD .svg
      let tag := if space == .svg then { tag with name := svgName tag.name } else tag
      insertForeign space tag
      return .done
  | .endTag name =>
    if name == "br" || name == "p" then do
      leaveForeign
      rules (← get).phase token
    else closeForeign name
  | .comment => do insertComment; return .done
  | _ => return .done

def settle : Nat → Option Phase → Token → Build Unit
  | 0, _, _ => pure ()
  | fuel + 1, via, token => do
    let step ← match via with
      | some phase => rules phase token
      | none => do
        if ← isForeign token then foreign token else rules (← get).phase token
    match step with
    | .done => pure ()
    | .again => settle fuel none token
    | .through phase => settle fuel (some phase) token

def take (token : Token) : Build Unit := do
  let ignores := (← get).ignoreLineFeed
  modify fun b => { b with ignoreLineFeed := false }
  match ignores, token with
  | true, .char '\n' => pure ()
  | _, _ => settle (64 + 4 * (← get).stack.length) none token

def inForeign (b : Builder) : Bool :=
  match b.stack with
  | id :: _ => (b.tree.name? id).any (·.space != .html)
  | [] => false

def feed : List Token → Build Bool
  | [] => return false
  | token :: rest => do
    match token with
    | .startTag tag => modify fun b => { b with lexer := { b.lexer with lastStart := tag.name } }
    | .endTag _ => modify fun b => { b with lexer := { b.lexer with mode := .data } }
    | _ => pure ()
    take token
    return (← feed rest) || token matches .eof

def run : Nat → Build Unit
  | 0 => pure ()
  | fuel + 1 => do
    let b ← get
    let (tokens, lexer) := b.lexer.next (inForeign b)
    set { b with lexer }
    if ← feed tokens then pure () else run fuel

def tree (text : List Char) : Tree :=
  let lexer := Lexer.ofText text
  (run (text.length + 2) { lexer }).2.tree

end PagePreview.Markup.Build
