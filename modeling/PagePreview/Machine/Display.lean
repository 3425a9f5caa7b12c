import PagePreview.Machine.List

/-! How values are shown to people, and what is reported of a thrown value. -/

namespace PagePreview.Machine
open Script

namespace Display

def numberShown (x : Float) : String :=
  if x == 0 && x.toBits != 0 then "-0" else numberText x

def symbolShown (s : State) (id : Nat) : String :=
  "Symbol(" ++ (((s.symbols[id]?).bind (·.description)).getD .empty).display ++ ")"

def keyShown (s : State) : Key → String
  | .text name => name.display
  | .symbol id | .hidden id => symbolShown s id

def padded (width : Nat) (text : String) : String :=
  String.ofList (List.replicate (width - text.length) ' ') ++ text

def quietly (s : State) (id : Nat) (k : Key) : Option Value :=
  match s.find k s.objects.size id with
  | .property (.data v ..) => some v
  | _ => none

/-- The properties of an object, one to a line, each name at the end of a field of `width`. -/
def properties (s : State) : Nat → List Nat → Nat → Value → String
  | 0, _, _, _ => "[Cycle]"
  | fuel + 1, above, width, v =>
    match v with
    | .object id =>
      if above.contains id then "[Cycle]"
      else
        let o := s.object id
        let keys := o.keys
        let keys := keys.filter (·.index?.isSome) ++ keys.filter (·.index?.isNone)
        let lines := keys.filterMap fun k => (o.ownProperty? k).map fun p =>
          padded width (keyShown s k) ++ ": " ++ match p with
            | .data x .. => properties s fuel (id :: above) (width + 4) x
            | .accessor g t .. =>
              if g.isUndefined then (if t.isUndefined then "No Getter/Setter" else "Setter")
              else if t.isUndefined then "Getter" else "Getter & Setter"
        "\x7b\n" ++ ",\n".intercalate lines ++ "\n" ++ padded (width - 4) "" ++ "\x7d"
    | .undefined => "undefined"
    | .null => "null"
    | .bool b => toString b
    | .number x => numberShown x
    | .bigint n => toString n ++ "n"
    | .string text => "\"" ++ text.display ++ "\""
    | .symbol i => symbolShown s i

def nameOf (s : State) (id : Nat) : Option String :=
  match quietly s id .name with
  | some (.string name) => some name.display
  | _ => none

def errorShown (s : State) (id : Nat) (shown : Value → String) : String :=
  let part (k : Key) (missing : String) : String := match quietly s id k with
    | some (.string text) => text.display
    | some v => shown v
    | none => missing
  let name := part .name "<error>"
  let message := part .message ""
  if name.isEmpty then message else if message.isEmpty then name else name ++ ": " ++ message

def value (s : State) : Nat → Bool → Value → String
  | 0, _, _ => "[Cycle]"
  | fuel + 1, isOuter, v =>
    let sized (name : String) (entries : Entries) (shown : Value × Value → String) : String :=
      if entries.size == 0 || !isOuter then name ++ "(" ++ toString entries.size ++ ")"
      else name ++ " \x7b " ++ ", ".intercalate (entries.toList.map shown) ++ " \x7d"
    let wrapped (name text : String) : String := name ++ " \x7b " ++ text ++ " \x7d"
    let inner := value s fuel false
    match v with
    | .object id =>
      let o := s.object id
      match o.kind with
      | .array elements length _ =>
        if !isOuter then "Array(" ++ toString length ++ ")"
        else if length == 0 then "[]"
        else
          let shown := (List.range length).map fun i => match elements[i]?.join with
            | some x => inner x
            | none => "<empty>"
          "[ " ++ ", ".intercalate shown ++ " ]"
      | .bool b => wrapped "Boolean" (toString b)
      | .number x => wrapped "Number" (numberShown x)
      | .string text => wrapped "String" ("\"" ++ text.display ++ "\"")
      | .map entries => sized "Map" entries fun (k, x) => inner k ++ " → " ++ inner x
      | .set entries => sized "Set" entries fun (k, _) => inner k
      | .error => errorShown s id (value s fuel true)
      | .promise .pending => wrapped "Promise" "<pending>"
      | .promise (.fulfilled x) => wrapped "Promise" (value s fuel true x)
      | .promise (.rejected x) => wrapped "Promise" ("<rejected> " ++ value s fuel true x)
      | _ =>
        if s.isConstructor v then "[class " ++ (nameOf s id).getD "(anonymous)" ++ "]"
        else if s.isCallable v then
          match nameOf s id with
          | some name => if name.isEmpty then "[Function (anonymous)]" else "[Function: " ++ name ++ "]"
          | none => "[Function (anonymous)]"
        else properties s (s.objects.size + 1) [] 4 v
    | v => properties s 1 [] 4 v

end Display

def State.display (s : State) (v : Value) : String := Display.value s 100 true v

def errorClass (s : State) (id : Nat) : String :=
  let rec go : Nat → Nat → String
    | 0, _ => "Error"
    | fuel + 1, id =>
      let known : List (Intrinsic × String) := [
        (.typeErrorPrototype, "TypeError"), (.rangeErrorPrototype, "RangeError"),
        (.referenceErrorPrototype, "ReferenceError"), (.syntaxErrorPrototype, "SyntaxError"),
        (.evalErrorPrototype, "EvalError"), (.uriErrorPrototype, "UriError"),
        (.aggregateErrorPrototype, "AggregateError")]
      match known.find? (·.1.id == id), (s.object id).proto with
      | some (_, name), _ => name
      | none, some p => go fuel p
      | none, none => "Error"
  go s.objects.size id

/-- The message of an error, if it has one that is Unicode text; a message that is missing is
empty. -/
def messageOf? (id : Nat) : Run (Option String) := do
  let read : Run (Option String) := do
    let message ← if ← hasProperty id .message then getOf id .message else pure (.text "")
    let _ ← getOf id (.named "cause")
    let made ← getOf id .constructor
    match message, (← get).isConstructor made with
    | .string (.plain text), true => return some text
    | _, _ => return none
  tryCatch read fun
    | .thrown _ => return none
    | e => throw e

/-- What is reported of a thrown value: an error's message, or its class if that is empty; anything
else as it is shown. -/
def report (v : Value) : Run String := do
  match v with
  | .object id =>
    match (← objectAt id).kind with
    | .error =>
      match ← messageOf? id with
      | some "" => return errorClass (← get) id
      | some message => return message
      | none => return (← get).display v
    | _ => return (← get).display v
  | v => return (← get).display v

end PagePreview.Machine
