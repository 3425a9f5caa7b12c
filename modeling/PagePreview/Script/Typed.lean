import PagePreview.Script.Tree

/-! What is wrong with declarations that say more than plain scripts can: parameters, members of
classes, enumerations and names of types. Each rule tells its complaint, if there is one. -/

namespace PagePreview.Script.Typed

def bare : Nat → Expr → Expr
  | fuel + 1, .commented _ e => bare fuel e
  | _, e => e

def lateParam : String := "A required parameter cannot follow an optional parameter."

def strayProperty : String := "A parameter property is only allowed in a constructor implementation."

def isPropertyParam (m : Modifiers) : Bool := m.accessibility.isSome || m.isReadonly || m.isOverride

def paramComplaint? (inConstructor : Bool) : Bool → List Expr → Option String
  | _, [] => none
  | afterOptional, p :: rest =>
    match bare 4 p with
    | .param _ m _ _ fallback =>
      if afterOptional && !m.isOptional && fallback.isNone then some lateParam
      else if !inConstructor && isPropertyParam m then some strayProperty
      else paramComplaint? inConstructor (afterOptional || m.isOptional) rest
    | _ => paramComplaint? inConstructor afterOptional rest

def keyName? (isComputed : Bool) (key : Expr) : Option String :=
  match key with
  | .identifier n => if isComputed then none else some n
  | .string s _ => some s.display
  | .number _ raw => some raw
  | .privateName n => some ("#" ++ n)
  | _ => none

def hasBody : Expr → Bool
  | .function _ _ _ _ _ _ _ body => body.isSome
  | _ => false

def memberComplaint? (isAmbient : Bool) (member : Expr) : Option String :=
  let cannotHave (what name part : String) : Option String :=
    some (what ++ " '" ++ name ++ "' cannot have an " ++ part ++ " because it is marked abstract.")
  match bare 4 member with
  | .methodMember _ m kind key isComputed f =>
    let name := (keyName? isComputed key).getD ""
    let isAccessor := kind == .getter || kind == .setter
    if m.isAbstract && hasBody f then
      cannotHave (if isAccessor then "Accessor" else "Method") name "implementation"
    else if kind == .constructor && !hasBody f && (params f).any isProperty then some strayProperty
    else if isAccessor && !hasBody f && !m.isAbstract && !isAmbient then
      some "Getters and setters must have an implementation."
    else none
  | .fieldMember _ m key isComputed _ value =>
    if m.isAbstract && value.isSome then
      cannotHave "Property" ((keyName? isComputed key).getD "") "initializer"
    else none
  | _ => none
where
  params : Expr → List Expr
    | .function _ _ _ _ _ params _ _ => params
    | _ => []
  isProperty (p : Expr) : Bool := match bare 4 p with
    | .param _ m .. => m.accessibility.isSome
    | _ => false

def abstractComplaint? (members : List Expr) : Option String :=
  members.findSome? fun member => match bare 4 member with
    | .methodMember _ m .. =>
      if m.isAbstract then some "Abstract methods can only appear within an abstract class." else none
    | .fieldMember _ m .. =>
      if m.isAbstract then some "Abstract properties can only appear within an abstract class." else none
    | _ => none

def isMethodOf (name : Option String) (member : Expr) : Bool :=
  match bare 4 member with
  | .methodMember _ _ _ key isComputed _ => keyName? isComputed key == name
  | .fieldMember _ _ key isComputed _ _ => keyName? isComputed key == name
  | _ => false

def missingBody? : List Expr → Option String
  | [] => none
  | member :: rest =>
    match bare 4 member with
    | .methodMember _ m kind key isComputed f =>
      let name := keyName? isComputed key
      if hasBody f || m.isAbstract || m.isOptional || rest.head?.any (isMethodOf name) then
        missingBody? rest
      else if kind == .constructor then some "Constructor implementation is missing."
      else some "Function implementation is missing or not immediately following the declaration."
    | _ => missingBody? rest

def classComplaint? (isAbstract isAmbient : Bool) (members : List Expr) : Option String :=
  (if isAbstract then none else abstractComplaint? members).or
    (if isAmbient then none else missingBody? members)

def countsOn (value : Expr) : Bool :=
  match value with
  | .number .. | .identifier _ | .member .. | .privateMember .. | .index .. | .binary .. | .unary .. => true
  | _ => false

def enumComplaint? : Bool → List Expr → Option String
  | _, [] => none
  | needsValue, member :: rest =>
    match bare 4 member with
    | .enumMember _ _ (some value) => enumComplaint? (!countsOn value) rest
    | .enumMember _ _ none =>
      if needsValue then some "Enum member must have initializer." else enumComplaint? needsValue rest
    | _ => enumComplaint? needsValue rest

def builtInTypes : List String := [
  "any", "unknown", "never", "number", "bigint", "boolean", "string", "symbol", "void", "object",
  "undefined"]

def nameComplaint? (what name : String) : Option String :=
  if builtInTypes.contains name then some (what ++ " name cannot be '" ++ name ++ "'") else none

end PagePreview.Script.Typed
