import PagePreview.Json.Reader
import PagePreview.Machine.Builtin.Objects

/-! Values as JSON text, and JSON text as values. -/

namespace PagePreview.Machine.Builtin
open Script Run

def quoteUnit (u : UInt16) (next : Option UInt16) (previous : Option UInt16) : List Char :=
  let n := u.toNat
  let escape : List Char := '\\' :: 'u' :: ((Str.escapeUnit u).drop 2).map Char.toLower
  if n == 8 then ['\\', 'b']
  else if n == 9 then ['\\', 't']
  else if n == 10 then ['\\', 'n']
  else if n == 12 then ['\\', 'f']
  else if n == 13 then ['\\', 'r']
  else if n == 34 then ['\\', '"']
  else if n == 92 then ['\\', '\\']
  else if n < 32 then escape
  else if Str.isHigh u then
    match next with
    | some v => if Str.isLow v then [Str.pairChar u v] else escape
    | none => escape
  else if Str.isLow u then
    match previous with
    | some v => if Str.isHigh v then [] else escape
    | none => escape
  else [Char.ofNat n]

def jsonText (s : Str) : String :=
  let us := s.toUnits
  let body := (List.range us.size).flatMap fun i =>
    quoteUnit (us.getD i 0) us[i + 1]? (if i == 0 then none else us[i - 1]?)
  String.ofList ('"' :: body ++ ['"'])

structure Writer where
  gap : String
  replacer : Option Value
  names : Option (List Key)

def jsonNumber (x : Float) : String := if x.isNaN || x.isInf then "null" else numberText x

def enclose (w : Writer) (indent : String) (opening closing : String) (parts : List String) : String :=
  if parts.isEmpty then opening ++ closing
  else if w.gap.isEmpty then opening ++ ",".intercalate parts ++ closing
  else
    let inner := indent ++ w.gap
    opening ++ "\n" ++ inner ++ (",\n" ++ inner).intercalate parts ++ "\n" ++ indent ++ closing

def writeJson (fuel : Nat) (w : Writer) (stack : List Nat) (indent : String) (holder : Value) (k : Key)
    (v : Value) : Run (Option String) :=
  match fuel with
  | 0 => throw (.limit heldLimitComplaint)
  | fuel + 1 => do
    let v ← match v with
      | .object _ | .bigint _ =>
        let f ← getValue v (.named "toJSON")
        if (← get).isCallable f then call f v #[keyValue k] else pure v
      | v => pure v
    let v ← match w.replacer with
      | some f => call f holder #[keyValue k, v]
      | none => pure v
    let v ← match v with
      | .object id =>
        match (← objectAt id).kind with
        | .number _ => Value.number <$> toNumber v
        | .string _ => Value.string <$> toText v
        | .bool b => pure (.bool b)
        | .bigint n => pure (.bigint n)
        | _ => pure v
      | v => pure v
    match v with
    | .null => return some "null"
    | .bool b => return some (if b then "true" else "false")
    | .string s => return some (jsonText s)
    | .number x => return some (jsonNumber x)
    | .bigint _ => throwType "cannot serialize bigint to JSON"
    | .undefined | .symbol _ => return none
    | .object id =>
      if (← get).isCallable v then return none
      if stack.contains id then throwType "cyclic object value"
      let inner := indent ++ w.gap
      if ← isList v then
        let n ← lengthOf id
        let mut parts := #[]
        for i in [0:n] do
          let part ← writeJson fuel w (id :: stack) inner v (.ofIndex i) (← getAt id i)
          parts := parts.push (part.getD "null")
        return some (enclose w indent "[" "]" parts.toList)
      else
        let names ← match w.names with
          | some names => pure names.toArray
          | none => listedNames id
        let mut parts := #[]
        for k in names do
          match ← writeJson fuel w (id :: stack) inner v k (← getOf id k) with
          | some text =>
            let separator := if w.gap.isEmpty then ":" else ": "
            parts := parts.push (jsonText (keyText k) ++ separator ++ text)
          | none => pure ()
        return some (enclose w indent "\x7b" "\x7d" parts.toList)

def nameList (id : Nat) : Run (List Key) := do
  let mut names : List Key := []
  for v in ← listValues id do
    let name ← match v with
      | .string s => pure (some s)
      | .number x => pure (some (Str.plain (numberText x)))
      | .object id =>
        match (← objectAt id).kind with
        | .number _ | .string _ => some <$> toText v
        | _ => pure none
      | _ => pure none
    if let some s := name then
      if !names.contains (.text s) then names := names ++ [.text s]
  return names

def stringify (args : Array Value) : Run Value := do
  let replacer := argument args 1
  let names ← match replacer with
    | .object id => if ← isList replacer then some <$> nameList id else pure none
    | _ => pure none
  let space ← match argument args 2 with
    | .object id =>
      match (← objectAt id).kind with
      | .number _ => Value.number <$> toNumber (.object id)
      | .string _ => Value.string <$> toText (.object id)
      | _ => pure .undefined
    | v => pure v
  let gap := match space with
    | .number x =>
      let n := if x < 1 then 0 else if 10 ≤ x then 10 else x.toUInt64.toNat
      String.ofList (List.replicate n ' ')
    | .string s => (s.slice 0 (min 10 s.length)).display
    | _ => ""
  let replacer := if (← get).isCallable replacer then some replacer else none
  let holder ← newRecord [("", argument args 0)]
  match ← writeJson 2000 { gap, replacer, names } [] "" holder (.named "") (argument args 0) with
  | some text => return .text text
  | none => return .undefined

def valueOfJson (fuel : Nat) (v : Json.Value) : Run Value :=
  match fuel with
  | 0 => return .undefined
  | fuel + 1 => do
    match v with
    | .null => return .null
    | .bool b => return .bool b
    | .number x => return .number x
    | .string s => return .text s
    | .list vs =>
      let mut out := #[]
      for v in vs do
        out := out.push (← valueOfJson fuel v)
      newListValue out
    | .record entries =>
      let id ← newPlain
      for (k, v) in entries do
        let v ← valueOfJson fuel v
        createProperty id (.named k) v
      return .object id

def revive (fuel : Nat) (f : Value) (holder : Nat) (k : Key) : Run Value :=
  match fuel with
  | 0 => return .undefined
  | fuel + 1 => do
    let v ← getOf holder k
    if let .object id := v then
      let keys ← if ← isList v then
          pure ((List.range (← lengthOf id)).map Key.ofIndex)
        else pure (← listedNames id).toList
      for k in keys do
        match ← revive fuel f id k with
        | .undefined => let _ ← deleteProperty id k
        | v => let _ ← defineProperty id k (.ofProperty (.plain v))
    call f (.object holder) #[keyValue k, v]

def parseJson (args : Array Value) : Run Value := do
  let .plain text ← toText (argument args 0)
    | raise .malformed "invalid utf-16: lone surrogate found"
  match Json.Value.ofText text with
  | .error message => raise .malformed message
  | .ok v =>
    let v ← valueOfJson (Json.depthLimit + 2) v
    let f := argument args 1
    if (← get).isCallable f then
      let .object holder ← newRecord [("", v)] | return v
      revive 2000 f holder (.named "")
    else return v

def jsonFunction (name : String) (args : Array Value) : Run Value :=
  if name == "stringify" then stringify args else parseJson args

end PagePreview.Machine.Builtin
