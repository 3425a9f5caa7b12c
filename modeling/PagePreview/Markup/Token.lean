import PagePreview.Markup.CharRef

/-! Tokens of markup, and reading the next one. The mode of the reader is set by whoever builds the
tree, since the inside of some elements is plain text. -/

namespace PagePreview.Markup
open Text

structure Attribute where
  name : String
  value : String

structure Tag where
  name : String
  attributes : List Attribute := []
  selfClosing : Bool := false

structure Doctype where
  name : Option String := none
  publicId : Option String := none
  systemId : Option String := none
  forceQuirks : Bool := false

inductive Token
  | char (c : Char)
  | startTag (tag : Tag)
  | endTag (name : String)
  | comment
  | doctype (d : Doctype)
  | eof

inductive Mode
  | data
  | escapable
  | raw
  | script
  | plain

structure Lexer where
  ahead : List Char
  mode : Mode := .data
  lastStart : String := ""

namespace Lexer

def isSpace (c : Char) : Bool :=
  c == '\t' || c == '\n' || c == '\x0c' || c == ' ' || c == '\r'

def toLower (c : Char) : Char := if isAsciiUpper c then Char.ofNat (c.toNat + 32) else c

def nameChar (c : Char) : Char := if c = '\x00' then '\uFFFD' else toLower c

def plainChar (c : Char) : Char := if c = '\x00' then '\uFFFD' else c

def ofText (text : List Char) : Lexer :=
  { ahead := JsxText.unifyBreaks (match text with | '\uFEFF' :: s => s | s => s) }

def quotedValue (quote : Char) : Nat → List Char → Option (List Char × List Char)
  | 0, _ => none
  | _, [] => none
  | fuel + 1, c :: s =>
    if c = quote then some ([], s)
    else if c = '&' then
      let (value, rest) := CharRef.read true s
      (quotedValue quote fuel rest).map fun (v, r) => (value ++ v, r)
    else (quotedValue quote fuel s).map fun (v, r) => (plainChar c :: v, r)

def bareValue : Nat → List Char → Option (List Char × List Char)
  | 0, _ => none
  | _, [] => none
  | fuel + 1, c :: s =>
    if isSpace c || c = '>' then some ([], c :: s)
    else if c = '&' then
      let (value, rest) := CharRef.read true s
      (bareValue fuel rest).map fun (v, r) => (value ++ v, r)
    else (bareValue fuel s).map fun (v, r) => (plainChar c :: v, r)

def isNameEnd (c : Char) : Bool := isSpace c || c = '/' || c = '>' || c = '='

def attributeValue (s : List Char) : Option (List Char × List Char) :=
  match s.dropWhile isSpace with
  | '=' :: rest =>
    match rest.dropWhile isSpace with
    | '"' :: v => quotedValue '"' (v.length + 1) v
    | '\'' :: v => quotedValue '\'' (v.length + 1) v
    | '>' :: v => some ([], '>' :: v)
    | v => bareValue (v.length + 1) v
  | rest => some ([], rest)

def addAttribute (attributes : List Attribute) (name value : List Char) : List Attribute :=
  let name := String.ofList name
  if attributes.any (·.name == name) then attributes
  else attributes ++ [⟨name, String.ofList value⟩]

/-- Attributes up to the end of a tag, whether it closes itself, and what follows; nothing when the
text ends before the tag does. -/
def attributes : Nat → List Attribute → List Char → Option (List Attribute × Bool × List Char)
  | 0, _, _ => none
  | fuel + 1, found, s =>
    match s.dropWhile isSpace with
    | [] => none
    | '>' :: rest => some (found, false, rest)
    | '/' :: '>' :: rest => some (found, true, rest)
    | '/' :: rest => attributes fuel found rest
    | c :: rest =>
      -- A leading `=` is part of the name.
      let name := c :: rest.takeWhile fun d => !isNameEnd d
      match attributeValue (rest.dropWhile fun d => !isNameEnd d) with
      | none => none
      | some (value, rest) => attributes fuel (addAttribute found (name.map nameChar) value) rest

def isTagNameEnd (c : Char) : Bool := isSpace c || c = '/' || c = '>'

def tag? (s : List Char) : Option (Tag × List Char) :=
  let name := String.ofList ((s.takeWhile fun c => !isTagNameEnd c).map nameChar)
  (attributes (s.length + 1) [] (s.dropWhile fun c => !isTagNameEnd c)).map
    fun (attributes, selfClosing, rest) => (⟨name, attributes, selfClosing⟩, rest)

def afterComment : List Char → List Char
  | [] => []
  | '-' :: '-' :: '>' :: rest => rest
  | '-' :: '-' :: '!' :: '>' :: rest => rest
  | _ :: rest => afterComment rest

def skipComment : List Char → List Char
  | '>' :: rest => rest
  | '-' :: '>' :: rest => rest
  | s => afterComment s

def skipBogus (s : List Char) : List Char := (s.dropWhile (· != '>')).drop 1

def afterAnyCase? : List Char → List Char → Option (List Char)
  | [], s => some s
  | _ :: _, [] => none
  | w :: word, c :: s => if w = toLower c then afterAnyCase? word s else none

def doctypeId (s : List Char) : Option (String × Bool × List Char) :=
  match s with
  | q :: rest =>
    if q = '"' || q = '\'' then
      let id := rest.takeWhile fun c => c != q && c != '>'
      let after := rest.dropWhile fun c => c != q && c != '>'
      let text := String.ofList (id.map plainChar)
      match after with
      | c :: after => if c = q then some (text, true, after) else some (text, false, c :: after)
      | [] => some (text, false, [])
    else none
  | [] => none

def doctypeOf (s : List Char) : Doctype :=
  match s.dropWhile isSpace with
  | [] => { forceQuirks := true }
  | '>' :: _ => { forceQuirks := true }
  | s =>
    let name := String.ofList ((s.takeWhile fun c => !isSpace c && c != '>').map nameChar)
    let base : Doctype := { name := some name }
    let rest := (s.dropWhile fun c => !isSpace c && c != '>').dropWhile isSpace
    match rest with
    | [] => { base with forceQuirks := true }
    | '>' :: _ => base
    | rest =>
      match afterAnyCase? "public".toList rest with
      | some rest =>
        match doctypeId (rest.dropWhile isSpace) with
        | none => { base with forceQuirks := true }
        | some (publicId, closed, rest) =>
          let base := { base with publicId := some publicId, forceQuirks := !closed }
          match doctypeId (rest.dropWhile isSpace) with
          | none => base
          | some (systemId, closed, _) =>
            { base with systemId := some systemId, forceQuirks := base.forceQuirks || !closed }
      | none =>
        match afterAnyCase? "system".toList rest with
        | some rest =>
          match doctypeId (rest.dropWhile isSpace) with
          | none => { base with forceQuirks := true }
          | some (systemId, closed, _) =>
            { base with systemId := some systemId, forceQuirks := !closed }
        | none => { base with forceQuirks := true }

def literalSection : List Char → List Char × List Char
  | [] => ([], [])
  | ']' :: ']' :: '>' :: rest => ([], rest)
  | c :: rest => let (text, after) := literalSection rest; (c :: text, after)

def declaration (inForeign : Bool) (s : List Char) : List Token × List Char :=
  match s with
  | '-' :: '-' :: rest => ([.comment], skipComment rest)
  | _ =>
    match afterAnyCase? "doctype".toList s with
    | some rest => ([.doctype (doctypeOf rest)], skipBogus rest)
    | none =>
      match if inForeign then after? "[CDATA[".toList s else none with
      | some rest => let (text, after) := literalSection rest; (text.map .char, after)
      | none => ([.comment], skipBogus s)

def markup (inForeign : Bool) (s : List Char) : List Token × List Char :=
  match s with
  | '!' :: rest => declaration inForeign rest
  | '/' :: c :: rest =>
    if isAsciiLetter c then
      match tag? (c :: rest) with
      | some (tag, rest) => ([.endTag tag.name], rest)
      | none => ([], [])
    else if c = '>' then ([], rest)
    else ([.comment], skipBogus (c :: rest))
  | ['/'] => ([.char '<', .char '/'], [])
  | '?' :: rest => ([.comment], skipBogus rest)
  | c :: rest =>
    if isAsciiLetter c then
      match tag? (c :: rest) with
      | some (tag, rest) => ([.startTag tag], rest)
      | none => ([], [])
    else ([.char '<'], c :: rest)
  | [] => ([.char '<'], [])

def endTagRest? (name : String) (s : List Char) : Option (List Char) :=
  (after? ['<', '/'] s).bind fun rest =>
    (afterAnyCase? name.toList rest).filter fun rest => rest.head?.any isTagNameEnd

def closingTag? (name : String) (s : List Char) : Option (List Token × List Char) :=
  (endTagRest? name s).map fun _ =>
    match tag? (s.drop 2) with
    | some (tag, rest) => ([.endTag tag.name], rest)
    | none => ([], [])

inductive Cover
  | none
  | comment (dashes : Nat)
  | nested (dashes : Nat)

def hasScriptName (s : List Char) : Bool :=
  (afterAnyCase? "script".toList s).any fun rest => rest.head?.any isTagNameEnd

def scriptText : Nat → Cover → List Char → List Char × List Char
  | 0, _, s => ([], s)
  | _, _, [] => ([], [])
  | fuel + 1, cover, c :: s =>
    let keep (next : Cover) :=
      let (text, rest) := scriptText fuel next s
      (plainChar c :: text, rest)
    match cover with
    | .none =>
      if (endTagRest? "script" (c :: s)).isSome then ([], c :: s)
      else if startsWith "<!--".toList (c :: s) then
        let (text, rest) := scriptText fuel (.comment 2) (s.drop 3)
        ("<!--".toList ++ text, rest)
      else keep .none
    | .comment dashes =>
      if (endTagRest? "script" (c :: s)).isSome then ([], c :: s)
      else if c = '-' then keep (.comment (dashes + 1))
      else if c = '>' && 2 ≤ dashes then keep .none
      else if c = '<' && hasScriptName s then keep (.nested 0)
      else keep (.comment 0)
    | .nested dashes =>
      if c = '-' then keep (.nested (dashes + 1))
      else if c = '>' && 2 ≤ dashes then keep .none
      else if c = '<' && startsWith ['/'] s && hasScriptName (s.drop 1) then keep (.comment 0)
      else keep (.nested 0)

def next (l : Lexer) (inForeign : Bool) : List Token × Lexer :=
  let go (found : List Token × List Char) : List Token × Lexer := (found.1, { l with ahead := found.2 })
  match l.ahead with
  | [] => ([.eof], l)
  | c :: s =>
    match l.mode with
    | .data =>
      if c = '&' then let (text, rest) := CharRef.read false s; go (text.map .char, rest)
      else if c = '<' then go (markup inForeign s)
      else go ([.char c], s)
    | .plain => go ([.char (plainChar c)], s)
    | .script =>
      match scriptText (s.length + 2) .none (c :: s) with
      | ([], rest) => go ((closingTag? l.lastStart rest).getD ([], []))
      | (text, rest) => go (text.map .char, rest)
    | .escapable | .raw =>
      match closingTag? l.lastStart (c :: s) with
      | some found => go found
      | none =>
        match l.mode, c with
        | .escapable, '&' => let (text, rest) := CharRef.read false s; go (text.map .char, rest)
        | _, _ => go ([.char (plainChar c)], s)

end Lexer
end PagePreview.Markup
