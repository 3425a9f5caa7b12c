import PagePreview.Machine.Expression

/-! Statements: one rule for each kind, and what ends them. -/

namespace PagePreview.Machine
open Script Run

def hoistFunctions (c : Context) (body : List Stmt) : Run Unit := do
  for (name, e) in Declared.functions body do
    let f ← newDeclared c e
    declare c.scope name { value := some f }

def runList (c : Context) : List Stmt → Option Value → Run Completion
  | [], last => return .normal last
  | s :: rest, last => do
    match ← execute c s with
    | .normal v => runList c rest (v <|> last)
    | completion => return completion

def isScoped (body : List Stmt) : Bool :=
  body.any fun
    | .vars _ kind _ => kind != .var
    | .declaration _ => true
    | .labeled .. => true
    | _ => false

def runBlock (c : Context) (body : List Stmt) : Run Completion := do
  if !isScoped body then runList c body none
  else inScope { outer := some c.scope } fun scope => do
    let c := { c with scope }
    declareLexical scope (Declared.lexical body)
    hoistFunctions c body
    runList c body none

inductive Turn (α : Type)
  | again (a : α)
  | ended (completion : Completion)

def afterBody (labels : List String) (last : Option Value) : Completion → Turn (Option Value)
  | .normal v => .again (v <|> last)
  | .continue none => .again last
  | .continue (some l) => if labels.contains l then .again last else .ended (.continue (some l))
  | .break none => .ended (.normal last)
  | .break (some l) => if labels.contains l then .ended (.normal last) else .ended (.break (some l))
  | .return v => .ended (.return v)

/-- Repeats a turn until it ends the loop; the limit on loops is met before `fuel` runs out. -/
def repeatTurns (turn : Option Value → Run (Turn (Option Value))) :
    Nat → Option Value → Run Completion
  | 0, last => return .normal last
  | fuel + 1, last => do
    match ← turn last with
    | .again last => repeatTurns turn fuel last
    | .ended completion => return completion

def loopFuel : Run Nat := return (← get).limits.loops + 3

def holds (c : Context) (test : Option Expr) : Run Bool := do
  match test with
  | some e => return (← evaluate c e).isTrue
  | none => return true

def whileLoop (c : Context) (labels : List String) (test : Expr) (body : Stmt) : Run Completion := do
  repeatTurns (fun last => do
    countLoop
    if !(← evaluate c test).isTrue then return .ended (.normal last)
    return afterBody labels last (← execute c body)) (← loopFuel) none

def doLoop (c : Context) (labels : List String) (body : Stmt) (test : Expr) : Run Completion := do
  repeatTurns (fun last => do
    match afterBody labels last (← execute c body) with
    | .ended completion => return .ended completion
    | .again last =>
      countLoop
      if (← evaluate c test).isTrue then return .again last else return .ended (.normal last))
    (← loopFuel) none

def copyScope (id : Nat) : Run Machine.Scope := return ((← get).scopes[id]?).getD default

/-- The turns of a counting loop; each has variables of its own, taken over from the turn before. -/
def forTurns (c : Context) (labels : List String) (test update : Option Expr) (body : Stmt) :
    Nat → Bool → Machine.Scope → Option Value → Run Completion
  | 0, _, _, last => return .normal last
  | fuel + 1, isFirst, scope, last => do
    let step : Turn (Option Value × Machine.Scope) ← inScope scope fun id => do
      let c := { c with scope := id }
      if !isFirst then
        countLoop
        if let some e := update then
          let _ ← evaluate c e
      if !(← holds c test) then return .ended (.normal last)
      match afterBody labels last (← execute c body) with
      | .ended completion => return .ended completion
      | .again last => return .again (last, ← copyScope id)
    match step with
    | .ended completion => return completion
    | .again (last, scope) => forTurns c labels test update body fuel false scope last

def forLoop (c : Context) (labels : List String) (init : Option Stmt) (test update : Option Expr)
    (body : Stmt) : Run Completion := do
  let counted (c : Context) : Run Completion := do
    -- The first turn is entered without an update.
    let turn (isFirst : Bool) (last : Option Value) : Run (Turn (Option Value)) := do
      if !isFirst then
        countLoop
        if let some e := update then
          let _ ← evaluate c e
      if !(← holds c test) then return .ended (.normal last)
      return afterBody labels last (← execute c body)
    match ← turn true none with
    | .ended completion => return completion
    | .again last => repeatTurns (turn false) (← loopFuel) last
  match init with
  | none => counted c
  | some (.vars d kind ds) =>
    if kind == .var then
      let _ ← execute c (.vars d kind ds)
      counted c
    else
      let fuel ← loopFuel
      let first ← inScope { outer := some c.scope } fun id => do
        declareLexical id (Declared.lexical [.vars d kind ds])
        let _ ← execute { c with scope := id } (.vars d kind ds)
        copyScope id
      forTurns c labels test update body (fuel + 1) true first none
  | some s => do
    let _ ← execute c s
    counted c

def turnNames : Stmt → List (String × Bool)
  | .vars _ .var _ => []
  | .vars d kind ds => Declared.lexical [.vars d kind ds]
  | _ => []

def bindLeft (c : Context) (left : Stmt) (v : Value) : Run Unit := do
  match left with
  | .vars _ .var [.declarator target _] => destructure c .assign target v
  | .vars _ _ [.declarator target _] => destructure c (.start c.scope) target v
  | .expression target =>
    match ← targetOf c target with
    | .pattern p => destructure c .assign p v
    | t => t.set c v
  | _ => return

def runOver (c : Context) (left : Stmt) (v : Value) (body : Stmt) : Run Completion := do
  match turnNames left with
  | [] => do
    bindLeft c left v
    execute c body
  | names =>
    inScope { outer := some c.scope } fun scope => do
      let c := { c with scope }
      declareLexical scope names
      bindLeft c left v
      execute c body

def ofTurns (c : Context) (labels : List String) (left : Stmt) (body : Stmt) :
    Nat → Source → Option Value → Run Completion
  | 0, _, last => return .normal last
  | fuel + 1, source, last => do
    countLoop
    match ← source.next? with
    | none => return .normal last
    | some (v, source) =>
      match afterBody labels last (← source.guard (runOver c left v body)) with
      | .again last => ofTurns c labels left body fuel source last
      | .ended completion => do
        source.close
        return completion

/-- The next name of an object or of its prototypes that is to be listed, with the walk behind it.
Each object is asked for its keys when it is reached, and for a property when its key is. -/
def NameWalk.next? : Nat → NameWalk → Run (Option (Value × NameWalk))
  | 0, _ => return none
  | fuel + 1, w => do
    match w.keys, w.object with
    | some (k :: rest), some id =>
      let w := { w with keys := some rest }
      match k with
      | .text name =>
        if w.seen.contains name then NameWalk.next? fuel w
        else match ← ownProperty id k with
          | some p =>
            let w := { w with seen := w.seen.insert name }
            if p.isEnumerable then return some (.string name, w) else NameWalk.next? fuel w
          | none => NameWalk.next? fuel w
      | _ => NameWalk.next? fuel w
    | some [], some id => NameWalk.next? fuel { w with object := ← prototypeOf id, keys := none }
    | none, some id => NameWalk.next? fuel { w with keys := some (← ownKeys id) }
    | _, none => return none

def walkFuel : Nat := 1000000000

def inTurns (c : Context) (labels : List String) (left : Stmt) (body : Stmt) :
    Nat → NameWalk → Option Value → Run Completion
  | 0, _, last => return .normal last
  | fuel + 1, walk, last => do
    countLoop
    match ← walk.next? walkFuel with
    | none => return .normal last
    | some (v, walk) =>
      match afterBody labels last (← runOver c left v body) with
      | .again last => inTurns c labels left body fuel walk last
      | .ended completion => return completion

def awaitSource (v : Value) : Run Unit := do
  match ← methodOf? v .asyncIterator with
  | some f =>
    let it ← call f v #[]
    if !it.isObject then throwType "retrieved async iterator is not an object"
    let _ ← call (← getValue it (.named "next")) it #[]
  | none =>
    let source ← openSource v
    tryCatch (do let _ ← source.next?) fun
      | .thrown _ => return
      | e => throw e

def runLoop (c : Context) (labels : List String) (s : Stmt) : Run Completion := do
  match s with
  | .while test body => whileLoop c labels test body
  | .doWhile body test => doLoop c labels body test
  | .loop init test update body => forLoop c labels init test update body
  | .loopOf true _ right _ =>
    awaitSource (← evaluate c right)
    throw .suspended
  | .loopOf false left right body =>
    let source ← openSource (← evaluate c right)
    ofTurns c labels left body (← loopFuel) source none
  | .loopIn left right body =>
    let v ← evaluate c right
    if v.isNullish then return .normal none
    let id ← toObject v
    inTurns c labels left body (← loopFuel) (.ofObject id) none
  | s => execute c s

def caseBodies (c : Context) (v : Value) (cases : List Stmt) : Run (List Stmt) := do
  let bodyFrom (cs : List Stmt) : List Stmt := cs.flatMap fun
    | .case _ body => body
    | _ => []
  let rec search : List Stmt → Run (Option (List Stmt))
    | [] => return none
    | s :: rest => do
      match s with
      | .case (some test) _ =>
        if v.same (← evaluateHolding 1 c test) then return some (s :: rest) else search rest
      | _ => search rest
  match ← search cases with
  | some cs => return bodyFrom cs
  | none =>
    let fromDefault := cases.dropWhile fun
      | .case none _ => false
      | _ => true
    return bodyFrom fromDefault

def switchStatement (c : Context) (subject : Expr) (cases : List Stmt) : Run Completion := do
  let v ← evaluate c subject
  let bodies := cases.flatMap fun
    | .case _ body => body
    | _ => []
  inScope { outer := some c.scope } fun scope => do
    let c := { c with scope }
    declareLexical scope (Declared.lexical bodies)
    hoistFunctions c bodies
    match ← runList c (← caseBodies c v cases) none with
    | .break none => return .normal none
    | completion => return completion

def runHandler (c : Context) (param : Option Expr) (body : List Stmt) (v : Value) : Run Completion := do
  match param with
  | none => runBlock c body
  | some p =>
    inScope { outer := some c.scope } fun scope => do
      let c := { c with scope }
      declareLexical scope ((Declared.bound p).map (·, true))
      destructure c (.start scope) p v
      runBlock c body

def tryStatement (c : Context) (body : List Stmt) (param : Option Expr)
    (handler finalizer : Option (List Stmt)) : Run Completion := do
  let handled : Run Completion := match handler with
    | none => runBlock c body
    | some h => tryCatch (runBlock c body) fun
      | .thrown v => runHandler c param h v
      | e => throw e
  match finalizer with
  | none => handled
  | some f =>
    let outcome : Except Value Completion ← tryCatch (Except.ok <$> handled) fun
      | .thrown v => return .error v
      | e => throw e
    match ← runBlock c f with
    | .normal _ =>
      match outcome with
      | .ok completion => return completion
      | .error v => throwValue v
    | completion => return completion

def startVariables (c : Context) (kind : VariableKind) (ds : List Expr) : Run Unit := do
  for d in ds do
    match d with
    | .declarator target value =>
      match kind, value with
      | .var, none => pure ()
      | _, _ =>
        let v ← match target, value with
          | .identifier name, some e => evaluateNamed c name e
          | _, some e => evaluate c e
          | _, none => pure .undefined
        match kind, target with
        | .var, target => destructure c .assign target v
        | _, .identifier name => start c.scope name v
        | _, target => destructure c (.start c.scope) target v
    | _ => pure ()

def runLabeled (c : Context) (labels : List String) (s : Stmt) : Nat → Run Completion
  | 0 => execute c s
  | fuel + 1 => do
    match s with
    | .labeled l body => runLabeled c (l :: labels) body fuel
    | .while .. | .doWhile .. | .loop .. | .loopIn .. | .loopOf .. => runLoop c labels s
    | s =>
      match ← execute c s with
      | .break (some l) => if labels.contains l then return .normal none else return .break (some l)
      | completion => return completion

def valued : Completion → Completion
  | .normal none => .normal (some .undefined)
  | completion => completion

def statement (c : Context) (s : Stmt) : Run Completion := do
  match s with
  | .expression e => return .normal (some (← evaluate c e))
  | .vars _ kind ds =>
    startVariables c kind ds
    return .normal none
  | .return value =>
    match value with
    | some e => return .return (← evaluate c e)
    | none => return .return .undefined
  | .cond test yes no =>
    if (← evaluate c test).isTrue then return valued (← execute c yes)
    else match no with
      | some s => return valued (← execute c s)
      | none => return valued (.normal none)
  | .block body => runBlock c body
  | .declaration (.class _ _ _ (some name) _ parent _ _ members) =>
    let v ← newClass c (some name) parent members name
    start c.scope name v
    return .normal none
  | .while .. | .doWhile .. | .loop .. | .loopIn .. | .loopOf .. => return valued (← runLoop c [] s)
  | .continue label => return .continue label
  | .break label => return .break label
  | .throw e => throwValue (← evaluate c e)
  | .try body param handler finalizer => return valued (← tryStatement c body param handler finalizer)
  | .switch subject cases => return valued (← switchStatement c subject cases)
  | .labeled l body => runLabeled c [l] body 1000
  | .with object body =>
    let id ← toObject (← evaluate c object)
    inScope { outer := some c.scope, object := some id } fun scope =>
      return valued (← execute { c with scope } body)
  | .commented _ s => execute c s
  | .directive raw => return .normal (some (.text raw))
  | .empty | .debugger | .declaration _ => return .normal none
  | _ => raise .malformed "unexpected token"

end PagePreview.Machine
