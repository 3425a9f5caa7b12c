import PagePreview.Machine.Builtin.Collections
import PagePreview.Machine.Builtin.Matches

/-! Pattern objects, and what replacing, splitting and searching make of their matches. Any object
that finds matches can take the place of a pattern. -/

namespace PagePreview.Machine.Builtin
open Script Run

def patternMethods : List (String × Nat) := [
  ("exec", 1), ("test", 1), ("toString", 0), ("[Symbol.replace]", 2), ("[Symbol.match]", 1),
  ("[Symbol.matchAll]", 1), ("[Symbol.search]", 1), ("[Symbol.split]", 2)]

def flagNames : List (Char × String) := [
  ('d', "hasIndices"), ('g', "global"), ('i', "ignoreCase"), ('m', "multiline"), ('s', "dotAll"),
  ('u', "unicode"), ('v', "unicodeSets"), ('y', "sticky")]

def patternGetters : List String := ["flags", "source"] ++ flagNames.map Prod.snd

structure Hit where
  matched : Str
  position : Nat
  captures : Array Value
  named : Value

def Hit.ofFound (m : Found) : Run Hit := do
  let (a, b) := m.span
  return {
    matched := m.text.slice a b, position := a
    captures := ((List.range (m.groups.size - 1)).map fun i => m.group (i + 1)).toArray
    named := ← namedGroups m fun i => return m.group i }

def Hit.ofObject (id : Nat) (text : Str) : Run Hit := do
  let n ← lengthOf id
  let matched ← toText (← getAt id 0)
  let x ← toWhole (← getOf id (.named "index"))
  let mut captures := #[]
  for i in [1:n] do
    let v ← getAt id i
    captures := captures.push (← if v.isUndefined then pure v else Value.string <$> toText v)
  let named ← getOf id (.named "groups")
  return { matched, position := if x < 0 then 0 else clampIndex x text.length, captures, named }

def substitute (text : Str) (h : Hit) (template : Str) : Run Str :=
  match template with
  | .units _ => return template
  | .plain s => if s.contains '$' then go (s.length + 1) s.toList .empty else return template
where
  capture (i : Nat) : Str := match h.captures.getD i .undefined with
    | .string s => s
    | _ => .empty
  go : Nat → List Char → Str → Run Str
    | 0, _, done => return done
    | _, [], done => return done
    | fuel + 1, '$' :: '$' :: rest, done => go fuel rest (done ++ "$")
    | fuel + 1, '$' :: '&' :: rest, done => go fuel rest (done ++ h.matched)
    | fuel + 1, '$' :: '\x60' :: rest, done => go fuel rest (done ++ text.slice 0 h.position)
    | fuel + 1, '$' :: '\'' :: rest, done =>
      let stop := h.position + h.matched.length
      go fuel rest (if text.length ≤ stop then done else done ++ text.slice stop text.length)
    | fuel + 1, '$' :: '<' :: rest, done => do
      let name := rest.takeWhile (· != '>')
      if h.named.isUndefined || name.length == rest.length then go fuel rest (done ++ "$<")
      else
        let v ← getValue h.named (.named (String.ofList name))
        let found ← if v.isUndefined then pure Str.empty else toText v
        go fuel (rest.drop (name.length + 1)) (done ++ found)
    | fuel + 1, '$' :: c :: rest, done =>
      if !(isDecimal c) then go fuel (c :: rest) (done ++ "$")
      else
        let one := c.toNat - 48
        let count := h.captures.size
        let two? := match rest with
          | d :: _ =>
            let two := 10 * one + (d.toNat - 48)
            if isDecimal d && 0 < two && two ≤ count then some two else none
          | [] => none
        match two? with
        | some two => go fuel (rest.drop 1) (done ++ capture (two - 1))
        | none =>
          if 0 < one && one ≤ count then go fuel rest (done ++ capture (one - 1))
          else go fuel (c :: rest) (done ++ "$")
    | fuel + 1, c :: rest, done => go fuel rest (done ++ Str.ofChar c)

def replacementOf (text : Str) (replacement : Value) (h : Hit) : Run Str := do
  match replacement with
  | .string template =>
    if !h.named.isUndefined then let _ ← toObject h.named
    substitute text h template
  | f =>
    let args := #[Value.string h.matched] ++ h.captures ++ #[.ofNat h.position, .string text]
    toText (← call f .undefined (if h.named.isUndefined then args else args.push h.named))

def replacer (v : Value) : Run Value := do
  if (← get).isCallable v then return v else return .string (← toText v)

def replaceHits (text : Str) (replacement : Value) (hits : List Hit) : Run Str := do
  let mut out := Str.empty
  let mut done := 0
  for h in hits do
    let new ← replacementOf text replacement h
    if done ≤ h.position then
      out := out ++ text.slice done h.position ++ new
      done := h.position + h.matched.length
  if text.length ≤ done then return out
  return out ++ text.slice done text.length

def eachMatch (id : Nat) (text : Str) (isUnicode : Bool) : Nat → List Nat → Run (List Nat)
  | 0, found => return found.reverse
  | fuel + 1, found => do
    match ← execOn id text with
    | .object m =>
      if (← toText (← getAt m 0)).isEmpty then stepAhead id text isUnicode
      eachMatch id text isUnicode fuel (m :: found)
    | _ => return found.reverse

def flagsOf (id : Nat) : Run (List Char) := do
  return (← toText (← getOf id (.named "flags"))).display.toList

def usesCharacters (flags : List Char) : Bool := flags.contains 'u' || flags.contains 'v'

def replacePattern (id : Nat) (text : Str) (replacement : Value) : Run Value := do
  let replacement ← replacer replacement
  let flags ← flagsOf id
  let plain ← plainPattern? id
  match flags.contains 'g', plain with
  | true, some p =>
    setValue true (.object id) lastIndexKey (.number 0)
    let s := Sought.of p text
    let mut hits := #[]
    for m in allMatches p s (s.size + 2) 0 do
      hits := hits.push (← Hit.ofFound m)
    return .string (← replaceHits text replacement hits.toList)
  | true, none =>
    setValue true (.object id) lastIndexKey (.number 0)
    let found ← eachMatch id text (usesCharacters flags) drainLimit []
    let mut hits := #[]
    for m in found do
      hits := hits.push (← Hit.ofObject m text)
    return .string (← replaceHits text replacement hits.toList)
  | false, _ =>
    match ← execOn id text with
    | .object m => return .string (← replaceHits text replacement [← Hit.ofObject m text])
    | _ => return .string text

def matchPattern (id : Nat) (text : Str) : Run Value := do
  let flags ← flagsOf id
  if !flags.contains 'g' then return ← execOn id text
  let plain ← plainPattern? id
  setValue true (.object id) lastIndexKey (.number 0)
  let mut texts := #[]
  match plain with
  | some p =>
    let s := Sought.of p text
    for m in allMatches p s (s.size + 2) 0 do
      texts := texts.push (m.group 0)
  | none =>
    for m in ← eachMatch id text (usesCharacters flags) drainLimit [] do
      texts := texts.push (.string (← toText (← getAt m 0)))
  if texts.isEmpty then return .null else newListValue texts

def matchesOf (id : Nat) (text : Str) : Run Value := do
  let maker ← makerOf id Intrinsic.patternConstructor.id
  let flags ← toText (← getOf id (.named "flags"))
  let .object matcher ← construct maker #[.object id, .string flags] maker | return .undefined
  let i ← toLength (← getOf id lastIndexKey)
  setValue true (.object matcher) lastIndexKey (.ofNat i)
  let flags := flags.display.toList
  newIteration .patternIteratorPrototype
    (.matches matcher text (flags.contains 'g') (usesCharacters flags))

def searchPattern (id : Nat) (text : Str) : Run Value := do
  let before ← getOf id lastIndexKey
  if !before.identical (.number 0) then setValue true (.object id) lastIndexKey (.number 0)
  let found ← execOn id text
  if !(← getOf id lastIndexKey).identical before then setValue true (.object id) lastIndexKey before
  match found with
  | .object m => getOf m (.named "index")
  | _ => return .number (-1)

def splitMatches (text : Str) (limit : Nat) (ms : List Found) : Array Value :=
  let n := text.length
  let (out, done) := ms.foldl (fun (out, done) m =>
    let (a, b) := m.span
    if (a == b && n ≤ a) || b == done then (out, done)
    else
      let out := out.push (.string (text.slice done a))
      ((List.range (m.groups.size - 1)).foldl (fun out i => out.push (m.group (i + 1))) out, b))
    ((#[] : Array Value), 0)
  (out.push (.string (text.slice done n))).extract 0 limit

/-- The pieces of a text between the matches that an object finds at one place after another. -/
def splitBy (splitter : Nat) (text : Str) (limit : Nat) (isUnicode : Bool) :
    Nat → Nat → Nat → Array Value → Run (Array Value)
  | 0, _, _, out => return out
  | fuel + 1, p, q, out => do
    let n := text.length
    if n ≤ q then return out.push (.string (text.slice p n))
    setValue true (.object splitter) lastIndexKey (.ofNat q)
    let ahead := placeBehind text q isUnicode
    match ← execOn splitter text with
    | .object m =>
      let e := min (← toLength (← getOf splitter lastIndexKey)) n
      if e == p then splitBy splitter text limit isUnicode fuel p ahead out
      else
        let mut out := out.push (.string (text.slice p q))
        if out.size == limit then return out
        for i in [1:← lengthOf m] do
          out := out.push (← getAt m i)
          if out.size == limit then return out
        splitBy splitter text limit isUnicode fuel e e out
    | _ => splitBy splitter text limit isUnicode fuel p ahead out

def splitPattern (id : Nat) (text : Str) (limit : Value) : Run Value := do
  let maker ← makerOf id Intrinsic.patternConstructor.id
  let flags ← toText (← getOf id (.named "flags"))
  let chars := flags.display.toList
  let splitterFlags := if chars.contains 'y' then flags else flags ++ "y"
  let .object splitter ← construct maker #[.object id, .string splitterFlags] maker | return .undefined
  let limit ← if limit.isUndefined then pure 4294967295 else pure (Number.toWord (← toNumber limit))
  if limit == 0 then return ← newListValue #[]
  if text.isEmpty then
    match ← execOn splitter text with
    | .object _ => return ← newListValue #[]
    | _ => return ← newListValue #[.string text]
  let plain ← if maker == Intrinsic.patternConstructor.id then plainPattern? splitter else pure none
  match plain with
  | some p =>
    let p := { p with isSticky := false }
    let s := Sought.of p text
    newListValue (splitMatches text limit (allMatches p s (s.size + 2) 0))
  | none =>
    newListValue (← splitBy splitter text limit (usesCharacters chars) (2 * text.length + 2) 0 0 #[])

def methodTitle : String → String
  | "[Symbol.match]" => "RegExp.prototype.match"
  | "[Symbol.matchAll]" => "RegExp.prototype.match_all"
  | "[Symbol.split]" => "RegExp.prototype.split"
  | "test" => "RegExp.prototype.test"
  | "toString" => "RegExp.prototype.toString"
  | name => "RegExp.prototype" ++ name

def patternMethod (name : String) (this : Value) (args : Array Value) : Run Value := do
  if name == "exec" then
    let complaint := "RegExp.prototype.exec called with invalid value"
    let .object id := this | throwType complaint
    let some (source, flags) ← patternParts? id | throwType complaint
    execPlain id source flags (← toText (argument args 0))
  else
    let .object id := this | throwType (methodTitle name ++ " method called on incompatible value")
    if name == "toString" then
      let source ← toText (← getOf id (.named "source"))
      return .string ("/" ++ source ++ "/" ++ (← toText (← getOf id (.named "flags"))))
    let text ← toText (argument args 0)
    match name with
    | "test" => return .bool (← execOn id text).isObject
    | "[Symbol.replace]" => replacePattern id text (argument args 1)
    | "[Symbol.match]" => matchPattern id text
    | "[Symbol.matchAll]" => matchesOf id text
    | "[Symbol.search]" => searchPattern id text
    | _ => splitPattern id text (argument args 1)

def shownSource (source : String) : String :=
  if source.isEmpty then "(?:)"
  else String.ofList (source.toList.flatMap fun c =>
    if c == '/' then ['\\', '/']
    else if c == '\n' then "\\n".toList
    else if c == '\r' then "\\r".toList
    else [c])

def patternGetter (name : String) (this : Value) : Run Value := do
  let id? : Option Nat := match this with
    | .object id => some id
    | _ => none
  if name == "flags" then
    let some id := id? | throwType "RegExp.prototype.flags getter called on non-object"
    let mut flags := ""
    for (flag, property) in flagNames do
      if (← getOf id (.named property)).isTrue then flags := flags.push flag
    return .text flags
  let parts ← match id? with
    | some id => patternParts? id
    | none => pure none
  let isPrototype := id? == some Intrinsic.patternPrototype.id
  match parts, name with
  | some (source, _), "source" => return .text (shownSource source)
  | some (_, flags), _ =>
    return .bool ((flagNames.find? (·.2 == name)).any fun (flag, _) => flags.contains flag)
  | none, "source" =>
    if isPrototype then return .text "(?:)"
    throwType "RegExp.prototype.source method called on incompatible value"
  | none, _ =>
    if isPrototype then return .undefined
    throwType ("RegExp.prototype." ++ name ++ " getter called on non-RegExp object")

def isPattern (v : Value) : Run Bool := do
  let .object id := v | return false
  let flag ← getOf id .matchKey
  if !flag.isUndefined then return flag.isTrue
  return (← patternParts? id).isSome

def makePattern (args : Array Value) (newTarget : Option Nat) : Run Value := do
  let pattern := argument args 0
  let flagsArg := argument args 1
  let seemsPattern ← isPattern pattern
  if newTarget.isNone && seemsPattern && flagsArg.isUndefined then
    if (← getValue pattern .constructor).same Intrinsic.patternConstructor.value then return pattern
  let parts ← match pattern with
    | .object id => patternParts? id
    | _ => pure none
  let (source, flags) ← match parts with
    | some (source, flags) =>
      pure (Value.text source, if flagsArg.isUndefined then Value.text flags else flagsArg)
    | none =>
      if seemsPattern then do
        let source ← getValue pattern (.named "source")
        let flags ← if flagsArg.isUndefined then getValue pattern (.named "flags") else pure flagsArg
        pure (source, flags)
      else pure (pattern, flagsArg)
  let proto ← madeFor newTarget .patternPrototype
  let shown (v : Value) : Run String := do if v.isUndefined then return "" else return (← toText v).display
  let source ← shown source
  let flags ← shown flags
  let _ ← readPattern source flags
  newPattern proto source flags

end PagePreview.Machine.Builtin
