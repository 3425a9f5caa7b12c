import PagePreview.Machine.Function

/-! Patterns: a value is taken apart, and its parts start variables or are assigned. -/

namespace PagePreview.Machine
open Script

inductive Use
  | start (scope : Nat)
  | assign

def isNameless : Expr → Bool
  | .function none .. | .arrow .. => true
  | .class _ _ _ none .. => true
  | _ => false

def evaluateNamed (c : Context) (name : Str) (e : Expr) : Run Value := do
  match e with
  | .function none .. | .arrow .. => newFunction c e name
  | .class _ _ _ none .. =>
    let v ← Run.evaluate c e
    if let .object id := v then
      if ((← ownProperty id .name).isNone) then
        let _ ← defineProperty id .name (.ofProperty (.data (.string name) false false true))
    return v
  | e => Run.evaluate c e

def keyOf (c : Context) (isComputed : Bool) (k : Expr) : Run Key := do
  if isComputed then toKey (← Run.evaluate c k)
  else match k with
    | .identifier name => return .named name
    | .string s _ => return .text s
    | .number x _ => return .named (numberText x)
    | .bigint n => return .named (toString n)
    | k => toKey (← Run.evaluate c k)

def privateKey (c : Context) (name : String) : Run Key := do
  match ← lookUp ("#" ++ name) c.scope with
  | .symbol id => return .hidden id
  | _ => throwType "Private field must be declared in an enclosing class"

def setPrivate (base : Value) (k : Key) (v : Value) : Run Unit := do
  let .object id := base | throwType nullishComplaint
  match (← objectAt id).properties.get? k with
  | some (.data _ true ..) => updateObject id (·.store k (.data v true false false))
  | some (.accessor _ setter ..) =>
    if setter.isUndefined then throwType "private property was defined without a setter"
    let _ ← Run.call setter base #[v]
  | some _ => throwType "private method is not writable"
  | none => throwType "Object does not contain private property"

def getPrivate (base : Value) (k : Key) : Run Value := do
  let .object id := base | throwType "cannot read private property from non-object"
  match (← objectAt id).properties.get? k with
  | some (.data v ..) => return v
  | some (.accessor getter ..) =>
    if getter.isUndefined then throwType "private property was defined without a getter"
    Run.call getter base #[]
  | none => throwType "Object does not contain private property"

def superHolder (c : Context) : Run Nat := do
  match (← frameOf c).home with
  | some home =>
    match ← prototypeOf home with
    | some p => return p
    | none => throwType nullishComplaint
  | none => raise .malformed "invalid super usage"

inductive Target
  | place (name : String) (p : Place)
  | member (base : Value) (key : Key)
  | hidden (base : Value) (key : Key)
  | superMember (holder : Nat) (this : Value) (key : Key)
  | pattern (e : Expr)
  | none

def targetOf (c : Context) (e : Expr) : Run Target := do
  match e with
  | .identifier name => return .place name (← locate name c.scope)
  | .member .super _ name => return .superMember (← superHolder c) (← thisValue c) (.named name)
  | .index .super _ k => do
    let k ← toKey (← Run.evaluate c k)
    return .superMember (← superHolder c) (← thisValue c) k
  | .member base _ name => return .member (← Run.evaluate c base) (.named name)
  | .index base _ k => do
    let base ← Run.evaluate c base
    let k ← Run.holding 1 (Run.evaluate c k)
    if base.isNullish then throwType nullishComplaint
    return .member base (← toKey k)
  | .privateMember base _ name => return .hidden (← Run.evaluate c base) (← privateKey c name)
  | .objectPattern _ | .arrayPattern _ => return .pattern e
  | _ => return .none

def Target.set (c : Context) (v : Value) : Target → Run Unit
  | .place name p => assignAt c.isStrict name p v
  | .member base k => setValue c.isStrict base k v
  | .hidden base k => setPrivate base k v
  | .superMember holder this k => do let _ ← setWithin standInDepth holder k v this
  | .pattern _ | .none => raise .reference "Invalid left-hand side in assignment"

def Target.get (c : Context) : Target → Run Value
  | .place name p => do
    match ← valueAt? name p with
    | some v => return v
    | Option.none => notDefined name
  | .member base k => getValue base k
  | .hidden base k => getPrivate base k
  | .superMember holder this k => getFrom holder k this
  | .pattern _ | .none => let _ := c; return .undefined

def copyProperties (target : Nat) (v : Value) (excluded : List Key) : Run Unit := do
  if v.isNullish then return
  let id ← toObject v
  for k in ← ownKeys id do
    if !excluded.contains k then
      match ← ownProperty id k with
      | some p => if p.isEnumerable then createProperty target k (← getOf id k)
      | none => pure ()

def requireParts : Value → Run Unit
  | .undefined => throwType "Cannot destructure 'undefined' value"
  | .null => throwType "Cannot destructure 'null' value"
  | _ => return

/-- Takes a value apart by a pattern; the first argument bounds how deep patterns are nested. -/
def bindWithin (fuel : Nat) (c : Context) (use : Use) (pattern : Expr) (v : Value) : Run Unit :=
  match fuel with
  | 0 => throw (.limit heldLimitComplaint)
  | fuel + 1 => do
    /- A part with its default: the target comes first if it is assigned. -/
    let part (e : Expr) (value : Run Value) : Run Unit := do
      let (target, fallback) := match e with
        | .defaultPattern target value => (target, some value)
        | e => (e, none)
      let place ← match use with
        | .assign => targetOf c target
        | .start _ => pure .none
      let v ← value
      let v ← match fallback with
        | some d =>
          if v.isUndefined then
            match target with
            | .identifier name => evaluateNamed c (.plain name) d
            | _ => Run.evaluate c d
          else pure v
        | none => pure v
      match use, place with
      | .start _, _ => bindWithin fuel c use target v
      | .assign, .pattern p => bindWithin fuel c use p v
      | .assign, place => place.set c v
    match pattern with
    | .identifier name =>
      match use with
      | .start scope => start scope name v
      | .assign => assign c name v
    | .typed inner .. => bindWithin fuel c use inner v
    | .defaultPattern .. => part pattern (pure v)
    | .objectPattern properties => do
      requireParts v
      let mut seen : List Key := []
      for p in properties do
        match p with
        | .property k isComputed _ target =>
          let k ← keyOf c isComputed k
          seen := k :: seen
          part target (getValue v k)
        | .restPattern target | .spread target =>
          let taken := seen
          part target do
            let rest ← newPlain
            copyProperties rest v taken
            return .object rest
        | _ => pure ()
    | .arrayPattern elements => do
      requireParts v
      let mut source ← openSource v
      let mut isOpen := true
      for e in elements do
        match e with
        | .restPattern target | .spread target =>
          let vs ← if isOpen then drain drainLimit source #[] else pure #[]
          isOpen := false
          part target (newListValue vs)
        | e =>
          let next ← if isOpen then source.next? else pure none
          let (v, rest) := next.getD (.undefined, source)
          isOpen := next.isSome
          source := rest
          match e with
          | .hole => pure ()
          | e => source.guard (part e (pure v))
      if isOpen then source.close
    | e => part e (pure v)

def destructure (c : Context) (use : Use) (pattern : Expr) (v : Value) : Run Unit :=
  bindWithin 1000 c use pattern v

end PagePreview.Machine
