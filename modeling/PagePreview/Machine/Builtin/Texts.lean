import PagePreview.Machine.Builtin.Patterns
import PagePreview.Text.Normal

/-! The methods of texts. -/

namespace PagePreview.Machine.Builtin
open Script Run

def textMethods : List (String × Nat) := [
  ("at", 1), ("charAt", 1), ("charCodeAt", 1), ("codePointAt", 1), ("concat", 1), ("endsWith", 1),
  ("includes", 1), ("indexOf", 1), ("isWellFormed", 0), ("lastIndexOf", 1), ("localeCompare", 1),
  ("match", 1), ("matchAll", 1), ("normalize", 0), ("padEnd", 1), ("padStart", 1), ("repeat", 1),
  ("replace", 2), ("replaceAll", 2), ("search", 1), ("slice", 2), ("split", 2), ("startsWith", 1),
  ("substring", 2), ("toLocaleLowerCase", 0), ("toLocaleUpperCase", 0),
  ("toLowerCase", 0), ("toString", 0), ("toUpperCase", 0), ("toWellFormed", 0), ("trim", 0),
  ("trimEnd", 0), ("trimStart", 0), ("valueOf", 0)]

def textFunctions : List (String × Nat) := [("fromCharCode", 1), ("fromCodePoint", 1), ("raw", 1)]

def textOf (this : Value) : Run Str := do
  if this.isNullish then throwType objectComplaint
  toText this

def unitsAt (us part : Array UInt16) (i : Nat) : Bool :=
  i + part.size ≤ us.size && (List.range part.size).all fun j => us[i + j]? == part[j]?

/-- The first place at or behind another where units stand; the list holds the places to try. -/
def findUnits? (us part : Array UInt16) (start : Nat) : Option Nat :=
  if us.size < part.size then none
  else (List.range' start (us.size - part.size + 1 - start)).find? (unitsAt us part)

def allUnits (us part : Array UInt16) : Nat → Nat → List Nat
  | 0, _ => []
  | fuel + 1, start =>
    match findUnits? us part start with
    | none => []
    | some i => i :: allUnits us part fuel (i + max part.size 1)

def filler (count : Nat) (by_ : Str) : Str :=
  let us := by_.toUnits
  if us.isEmpty then .empty
  else .ofUnits ((Array.range count).map fun i => us.getD (i % us.size) 0)

def unitLimit : Nat := Nat.pow 2 28

def checkUnits (n : Nat) : Run Unit := do
  if unitLimit < n then throw (.limit "out of memory")

def padded (atStart : Bool) (s : Str) (args : Array Value) : Run Value := do
  let n ← toLength (argument args 0)
  let by_ ← match argument args 1 with
    | .undefined => pure (Str.plain " ")
    | v => toText v
  let missing := n - s.length
  if missing == 0 || by_.isEmpty then return .string s
  checkUnits n
  let fill := filler missing by_
  return .string (if atStart then fill ++ s else s ++ fill)

def plainPart (v : Value) (name : String) : Run Str := do
  if ← isPattern v then
    throwType ("First argument to String.prototype." ++ name ++ " must not be a regular expression")
  toText v

def patternWork? (pattern : Value) (k : Key) (args : Array Value) : Run (Option Value) := do
  if pattern.isNullish then return none
  match ← methodOf? pattern k with
  | some f => return some (← call f pattern args)
  | none => return none

def replaceText (everywhere : Bool) (s : Str) (pattern replacement : Value) : Run Value := do
  let part ← toText pattern
  let replacement ← replacer replacement
  let us := s.toUnits
  let ps := part.toUnits
  let places := if everywhere then allUnits us ps (us.size + 2) 0 else (findUnits? us ps 0).toList
  let hits : List Hit := places.map fun position =>
    { matched := part, position, captures := #[], named := .undefined }
  return .string (← replaceHits s replacement hits)

def splitText (s separator : Str) (limit : Nat) : List Str :=
  let us := s.toUnits
  let ps := separator.toUnits
  if ps.isEmpty then ((List.range (min us.size limit)).map fun i => s.slice i (i + 1))
  else
    let (out, done) := (allUnits us ps (us.size + 2) 0).foldl
      (fun (out, done) i => (out ++ [s.slice done i], i + ps.size)) (([] : List Str), 0)
    (out ++ [s.slice done us.size]).take limit

def demandGlobal (pattern : Value) (complaint : String) : Run Unit := do
  if ← isPattern pattern then
    let flags ← getValue pattern (.named "flags")
    demandObject flags
    if !(← toText flags).display.contains 'g' then throwType complaint

def textPatternMethod (name : String) (this : Value) (args : Array Value) : Run Value := do
  demandObject this
  let pattern := argument args 0
  let asPattern (flags : String) (k : Key) : Run Value := do
    let s ← toText this
    let source ← if pattern.isUndefined then pure "" else Str.display <$> toText pattern
    let _ ← readPattern source flags
    let p ← newPattern Intrinsic.patternPrototype.id source flags
    call (← getValue p k) p #[.string s]
  let work (k : Key) (args : Array Value) (otherwise : Run Value) : Run Value := do
    match ← patternWork? pattern k args with
    | some v => return v
    | none => otherwise
  match name with
  | "replace" => work .replace #[this, argument args 1] do
      replaceText false (← toText this) pattern (argument args 1)
  | "replaceAll" => do
    demandGlobal pattern "String.prototype.replaceAll called with a non-global RegExp argument"
    work .replace #[this, argument args 1] do
      replaceText true (← toText this) pattern (argument args 1)
  | "match" => work .matchKey #[this] (asPattern "" .matchKey)
  | "matchAll" => do
    demandGlobal pattern "String.prototype.matchAll called with a non-global regular expression"
    work .matchAll #[this] (asPattern "g" .matchAll)
  | "search" => work .search #[this] (asPattern "" .search)
  | _ => work .split #[this, argument args 1] do
      let s ← toText this
      let limit := argument args 1
      let limit ← if limit.isUndefined then pure 4294967295 else pure (Number.toWord (← toNumber limit))
      let separator ← toText pattern
      if limit == 0 then newListValue #[]
      else if pattern.isUndefined then newListValue #[.string s]
      else newListValue ((splitText s separator limit).map Value.string).toArray

def compareTexts (a b : Str) : Int := if a.less b then -1 else if b.less a then 1 else 0

def textMethod (name : String) (this : Value) (args : Array Value) : Run Value := do
  match name with
  | "replace" | "replaceAll" | "match" | "matchAll" | "search" | "split" =>
    textPatternMethod name this args
  | "toString" | "valueOf" =>
    match this with
    | .string s => return .string s
    | .object id =>
      match (← objectAt id).kind with
      | .string s => return .string s
      | _ => throwType "'this' is not a string"
    | _ => throwType "'this' is not a string"
  | _ => do
    let s ← textOf this
    let n := s.length
    let first := argument args 0
    let unitAt (x : Float) : Option UInt16 :=
      if x < 0 || Float.ofNat n ≤ x then none else s.unit? x.toUInt64.toNat
    match name with
    | "at" => do
      let x ← toWhole first
      match unitAt (if x < 0 then x + Float.ofNat n else x) with
      | some u => return .string (.ofUnits #[u])
      | none => return .undefined
    | "charAt" => return .string (((unitAt (← toWhole first)).map fun u => Str.ofUnits #[u]).getD .empty)
    | "charCodeAt" =>
      return ((unitAt (← toWhole first)).map fun u => Value.ofNat u.toNat).getD .nan
    | "codePointAt" => do
      let x ← toWhole first
      match unitAt x with
      | none => return .undefined
      | some u =>
        match s.unit? (x.toUInt64.toNat + 1) with
        | some v =>
          if Str.isHigh u && Str.isLow v then return .ofNat (Str.pairChar u v).toNat
          else return .ofNat u.toNat
        | none => return .ofNat u.toNat
    | "concat" => do
      let mut out := s
      for v in args do out := out ++ (← toText v)
      return .string out
    | "includes" | "startsWith" | "endsWith" => do
      let part ← plainPart first name
      let us := s.toUnits
      let ps := part.toUnits
      let place := argument args 1
      if name == "endsWith" then
        let stop ← indexArgument place n n
        return .bool (ps.size ≤ stop && unitsAt us ps (stop - ps.size))
      else
        let x ← toWhole place
        let start := if x < 0 then 0 else clampIndex x n
        if name == "includes" then return .bool (findUnits? us ps start).isSome
        else return .bool (unitsAt us ps start)
    | "indexOf" => do
      let part ← toText first
      let x ← toWhole (argument args 1)
      let start := if x < 0 then 0 else clampIndex x n
      return ((findUnits? s.toUnits part.toUnits start).map Value.ofNat).getD (.number (-1))
    | "lastIndexOf" => do
      let part ← toText first
      let x ← toNumber (argument args 1)
      let last := if x.isNaN then n else if x < 0 then 0 else clampIndex (wholePart x) n
      let us := s.toUnits
      let ps := part.toUnits
      let places := (List.range (last + 1)).reverse
      return ((places.find? (unitsAt us ps)).map Value.ofNat).getD (.number (-1))
    | "localeCompare" => return .ofInt (compareTexts s (← toText first))
    | "normalize" => do
      let form ← if first.isUndefined then pure "NFC" else Str.display <$> toText first
      match Text.NormalForm.ofName? form with
      | some f => return .string (s.mapChars f.apply)
      | none => raise .range "The normalization form should be one of NFC, NFD, NFKC, NFKD."
    | "isWellFormed" =>
      return .bool (match s with
        | .plain _ => true
        | .units _ => false)
    | "toWellFormed" =>
      match s with
      | .plain _ => return .string s
      | .units us =>
        let points := codePoints us.toList
        return .string (.plain (String.ofList (points.map fun (c, _) =>
          if 0xD800 ≤ c && c < 0xE000 then Char.ofNat 0xFFFD else Char.ofNat c)))
    | "padEnd" => padded false s args
    | "padStart" => padded true s args
    | "repeat" => do
      let x ← toWhole first
      if x < 0 || x.isInf || (0 < n && 4294967295 < x * Float.ofNat n) then
        raise .range "repeat count must be a positive finite number that doesn't overflow the maximum string length (2^32 - 1)"
      let count := if n == 0 then 0 else x.toUInt64.toNat
      checkUnits (count * n)
      return .string (count.fold (fun _ _ out => out ++ s) .empty)
    | "slice" => do
      let start ← indexArgument first n 0
      let stop ← indexArgument (argument args 1) n n
      return .string (if start < stop then s.slice start stop else .empty)
    | "substring" => do
      let within (x : Float) : Nat := if x < 0 then 0 else clampIndex x n
      let a := within (← toWhole first)
      let b ← match argument args 1 with
        | .undefined => pure n
        | v => pure (within (← toWhole v))
      return .string (s.slice (min a b) (max a b))
    | "toLowerCase" | "toLocaleLowerCase" => return .string (s.mapChars Text.toLower)
    | "toUpperCase" | "toLocaleUpperCase" => return .string (s.mapChars Text.toUpper)
    | "trim" => return .string s.trim
    | "trimStart" => return .string s.trimStart
    | "trimEnd" => return .string s.trimEnd
    | "[Symbol.iterator]" => do
      let id ← allocate {
        proto := some Intrinsic.stringIteratorPrototype.id, kind := .iterator (.text s.toUnits 0) }
      return .object id
    | _ => return .undefined

def textFunction (name : String) (args : Array Value) (newTarget : Option Nat) : Run Value := do
  match name with
  | "fromCharCode" => do
    let mut us := #[]
    for v in args do
      us := us.push (Number.toWord (← toNumber v)).toUInt16
    return .string (.ofUnits us)
  | "fromCodePoint" => do
    let mut out := Str.empty
    for v in args do
      let x ← toNumber v
      if x.isNaN || x.isInf || x != x.floor then
        let shown := if x.isInf then (if x < 0 then "-inf" else "inf") else numberText x
        raise .range ("codepoint \x60" ++ shown ++ "\x60 is not an integer")
      if x < 0 || 0x10FFFF < x then
        raise .range ("codepoint \x60" ++ numberText x ++ "\x60 outside of Unicode range")
      let n := x.toUInt64.toNat
      if 0xD800 ≤ n && n < 0xE000 then out := out ++ .ofUnits #[n.toUInt16]
      else out := out ++ .ofChar (Char.ofNat n)
    return .string out
  | "raw" => do
    let raw ← toObject (← getValue (argument args 0) (.named "raw"))
    let n ← lengthOf raw
    let mut out := Str.empty
    for i in [0:n] do
      out := out ++ (← toText (← getAt raw i))
      if i + 1 < n && i + 1 < args.size then out := out ++ (← toText (argument args (i + 1)))
    return .string out
  | _ =>
    let text ← match args.toList, newTarget with
      | [], _ => pure Str.empty
      | .symbol id :: _, none => do
        let d := ((← get).symbols[id]?).bind (·.description)
        pure ("Symbol(" ++ d.getD .empty ++ ")")
      | v :: _, _ => toText v
    match newTarget with
    | none => return .string text
    | some t =>
      let proto ← match ← getOf t .prototype with
        | .object p => pure p
        | _ => pure Intrinsic.stringPrototype.id
      let id ← allocate { proto := some proto, kind := .string text }
      return .object id

end PagePreview.Machine.Builtin
