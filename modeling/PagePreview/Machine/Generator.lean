import PagePreview.Machine.Statement

/-! Bodies that stop on the way: a body that hands out values is run move by move, and what it
still has to do is kept until it is asked for the next value. -/

namespace PagePreview.Machine
open Script Run

namespace Generator

/-- How a body goes on: as it is written, out of a statement that ended early, or with something
thrown. -/
inductive Mode
  | go
  | leave (completion : Completion)
  | raise (v : Value)

inductive Stop
  | handed (v : Value) (isResult : Bool) (rest : List Pending)
  | ended (v : Value)
  | failed (v : Value)

inductive Next
  | on (rest : List Pending) (mode : Mode)
  | stop (s : Stop)

def caught (rest : List Pending) (step : Run Next) : Run Next :=
  tryCatch step fun
    | .thrown v => return .on rest (.raise v)
    | e => throw e

def pushMoves (c : Context) (moves : List Move) (rest : List Pending) : List Pending :=
  if moves.isEmpty then rest else .moves c moves :: rest

def blockContext (c : Context) (source : List Stmt) : Run Context := do
  if !isScoped source then return c
  let scope ← openScope { outer := some c.scope }
  let c := { c with scope }
  declareLexical scope (Declared.lexical source)
  hoistFunctions c source
  return c

def pushBlock (c : Context) (part : List Stmt × List Move) (rest : List Pending) : Run (List Pending) := do
  return pushMoves (← blockContext c part.1) part.2 rest

def resultComplaint : String := "generator next method returned non-object"

def afterResult (c : Context) (name : String) (it next result : Value) (rest : List Pending)
    (finished : Value → Run Next) : Run Next := do
  if !result.isObject then throwType resultComplaint
  if (← getValue result (.named "done")).isTrue then finished (← getValue result (.named "value"))
  else return .stop (.handed result true (.delegate c name it next :: rest))

def keepValue (c : Context) (name : String) (rest : List Pending) (v : Value) : Run Next := do
  assign c name v
  return .on rest .go

def askNext (c : Context) (name : String) (it next v : Value) (rest : List Pending) : Run Next := do
  afterResult c name it next (← call next it #[v]) rest (keepValue c name rest)

def askThrow (c : Context) (name : String) (it next v : Value) (rest : List Pending) : Run Next := do
  match ← methodOf? it (.named "throw") with
  | some f => afterResult c name it next (← call f it #[v]) rest (keepValue c name rest)
  | none =>
    (Source.iterator it next).close
    throwType "iterator does not have a throw method"

def askReturn (c : Context) (name : String) (it next v : Value) (rest : List Pending) : Run Next := do
  match ← methodOf? it (.named "return") with
  | some f =>
    afterResult c name it next (← call f it #[v]) rest fun v => return .on rest (.leave (.return v))
  | none => return .on rest (.leave (.return v))

def move (c : Context) (m : Move) (rest : List Pending) : Run Next := do
  match m with
  | .run s =>
    match ← execute c s with
    | .normal _ => return .on rest .go
    | completion => return .on rest (.leave completion)
  | .hand isDelegate value name =>
    let v ← match value with
      | some e => evaluate c e
      | none => pure .undefined
    if !isDelegate then return .stop (.handed v false (.receive c name :: rest))
    let f ← getValue v .iterator
    if f.isNullish then throwType (notIterable ((← get).typeName v))
    let it ← call f v #[]
    if !it.isObject then throwType "the iterator is not an object"
    askNext c name it (← getValue it (.named "next")) .undefined rest
  | .block source moves => return .on (← pushBlock c (source, moves) rest) .go
  | .cond test yes no =>
    return .on (pushMoves c (if (← evaluate c test).isTrue then yes else no) rest) .go
  | .loop labels entrance declared init before test after body =>
    let cycle : Cycle := { labels, declared, before, test, after, body }
    let c ← if declared.isEmpty then pure c else do
      let scope ← openScope { outer := some c.scope }
      declareLexical scope declared
      pure { c with scope }
    let entered := match entrance with
      | .count => .turn c cycle :: rest
      | .test => pushMoves c before (.test c cycle :: rest)
      | .body => pushMoves c body (.turn c cycle :: rest)
    return .on (pushMoves c init entered) .go
  | .each labels isNames left right body =>
    let v ← evaluate c right
    if !isNames then return .on (.each c labels left body (← openSource v) :: rest) .go
    if v.isNullish then return .on rest .go
    let id ← toObject v
    return .on (.names c labels left body (.ofObject id) :: rest) .go
  | .switch subject source cases =>
    let v ← evaluate c subject
    let scope ← openScope { outer := some c.scope }
    let c := { c with scope }
    declareLexical scope (Declared.lexical source)
    hoistFunctions c source
    let rec search : List (Option Expr × List Move) → Run (Option (List (Option Expr × List Move)))
      | [] => return none
      | (test, body) :: others => do
        match test with
        | some e => if v.same (← evaluate c e) then return some ((test, body) :: others) else search others
        | none => search others
    let chosen ← match ← search cases with
      | some cs => pure cs
      | none => pure (cases.dropWhile (·.1.isSome))
    return .on (pushMoves c (chosen.flatMap Prod.snd) (.switched :: rest)) .go
  | .labeled labels moves => return .on (pushMoves c moves (.labeled labels :: rest)) .go
  | .guard source body param handler finalizer =>
    return .on (← pushBlock c (source, body) (.guarded c param handler finalizer :: rest)) .go

def enterTurn (c : Context) (left : Stmt) (v : Value) (body : List Move) (again : Pending)
    (rest : List Pending) (guard : Run Unit → Run Unit) : Run Next := do
  let c ← match turnNames left with
    | [] => pure c
    | names => do
      let scope ← openScope { outer := some c.scope }
      declareLexical scope names
      pure { c with scope }
  guard (bindLeft c left v)
  return .on (pushMoves c body (again :: rest)) .go

def afterEnding (ending : Ending) (rest : List Pending) : Next :=
  match ending with
  | .thrown v => .on rest (.raise v)
  | .completed (.normal _) => .on rest .go
  | .completed c => .on rest (.leave c)

def goOn (p : Pending) (rest : List Pending) : Run Next := do
  match p with
  | .moves _ [] => return .on rest .go
  | .moves c (m :: ms) => move c m (pushMoves c ms rest)
  | .test c cycle =>
    if ← holds c cycle.test then return .on (pushMoves c cycle.body (.turn c cycle :: rest)) .go
    return .on rest .go
  | .turn c cycle =>
    countLoop
    let c ← if cycle.declared.isEmpty then pure c else
      pure { c with scope := ← openScope (← copyScope c.scope) }
    return .on (pushMoves c cycle.after (pushMoves c cycle.before (.test c cycle :: rest))) .go
  | .each c labels left body source =>
    countLoop
    match ← source.next? with
    | none => return .on rest .go
    | some (v, source) =>
      enterTurn c left v body (.each c labels left body source) rest fun step => source.guard step
  | .names c labels left body walk =>
    countLoop
    match ← walk.next? walkFuel with
    | none => return .on rest .go
    | some (v, walk) =>
      enterTurn c left v body (.names c labels left body walk) rest fun step => step
  | .guarded c _ _ (some f) => return .on (← pushBlock c f (.finish (.completed (.normal none)) :: rest)) .go
  | .finish ending => return afterEnding ending rest
  | .receive .. | .delegate .. | .labeled _ | .switched | .guarded .. => return .on rest .go

def endsTurn (labels : List String) : Completion → Bool
  | .continue none => true
  | .continue (some l) => labels.contains l
  | _ => false

def endsLoop (labels : List String) : Completion → Bool
  | .break none => true
  | .break (some l) => labels.contains l
  | _ => false

def leave (p : Pending) (rest : List Pending) (completion : Completion) : Run Next := do
  let loop (labels : List String) (close : Run Unit) : Run Next := do
    if endsTurn labels completion then return .on (p :: rest) .go
    close
    if endsLoop labels completion then return .on rest .go
    return .on rest (.leave completion)
  match p with
  | .turn _ cycle => loop cycle.labels (pure ())
  | .each _ labels _ _ source => loop labels source.close
  | .names _ labels .. => loop labels (pure ())
  | .labeled labels =>
    match completion with
    | .break (some l) => if labels.contains l then return .on rest .go else return .on rest (.leave completion)
    | _ => return .on rest (.leave completion)
  | .switched =>
    match completion with
    | .break none => return .on rest .go
    | _ => return .on rest (.leave completion)
  | .guarded c _ _ (some f) => return .on (← pushBlock c f (.finish (.completed completion) :: rest)) .go
  | _ => return .on rest (.leave completion)

def raise (p : Pending) (rest : List Pending) (v : Value) : Run Next := do
  match p with
  | .guarded c param (some handler) finalizer =>
    let rest := if finalizer.isSome then .guarded c none none finalizer :: rest else rest
    caught rest do
      match param with
      | none => return .on (← pushBlock c handler rest) .go
      | some e =>
        let scope ← openScope { outer := some c.scope }
        let c := { c with scope }
        declareLexical scope ((Declared.bound e).map (·, true))
        destructure c (.start scope) e v
        return .on (← pushBlock c handler rest) .go
  | .guarded c _ none (some f) => return .on (← pushBlock c f (.finish (.thrown v) :: rest)) .go
  | .each _ _ _ _ source =>
    tryCatch source.close fun
      | .thrown _ => return
      | e => throw e
    return .on rest (.raise v)
  | _ => return .on rest (.raise v)

def step (pending : List Pending) (mode : Mode) : Run Next := do
  match pending, mode with
  | [], .go => return .stop (.ended .undefined)
  | [], .leave (.return v) => return .stop (.ended v)
  | [], .leave _ => return .stop (.ended .undefined)
  | [], .raise v => return .stop (.failed v)
  | p :: rest, .go => caught rest (goOn p rest)
  | p :: rest, .leave completion => caught rest (leave p rest completion)
  | p :: rest, .raise v => raise p rest v

def stepFuel : Nat := 1000000000

def proceed : Nat → List Pending → Mode → Run Stop
  | 0, _, _ => throw (.limit heldLimitComplaint)
  | fuel + 1, pending, mode => do
    match ← step pending mode with
    | .stop s => return s
    | .on pending mode => proceed fuel pending mode

inductive Signal
  | next (v : Value)
  | throw (v : Value)
  | return (v : Value)

def receive (pending : List Pending) (signal : Signal) : Run Next := do
  match pending, signal with
  | .receive c name :: rest, .next v => caught rest (keepValue c name rest v)
  | .delegate c name it next :: rest, .next v => caught rest (askNext c name it next v rest)
  | .delegate c name it next :: rest, .throw v => caught rest (askThrow c name it next v rest)
  | .delegate c name it next :: rest, .return v => caught rest (askReturn c name it next v rest)
  | .receive .. :: rest, .throw v => return .on rest (.raise v)
  | .receive .. :: rest, .return v => return .on rest (.leave (.return v))
  | pending, .next _ => return .on pending .go
  | pending, .throw v => return .on pending (.raise v)
  | pending, .return v => return .on pending (.leave (.return v))

def resumed (pending : List Pending) (loops : Nat) (signal : Signal) : Run (Stop × Nat) :=
  framed do
    modify fun s => { s with loops }
    let stop ← match ← receive pending signal with
      | .stop s => pure s
      | .on pending mode => proceed stepFuel pending mode
    pin
    return (stop, (← get).loops)

def resume (id : Nat) (signal : Signal) : Run Value := do
  match (← objectAt id).kind with
  | .generator .running _ => throwType "Generator should not be executing"
  | .generator .ended _ =>
    match signal with
    | .next _ => iterationResult .undefined true
    | .return v => iterationResult v true
    | .throw v => throwValue v
  | .generator (.paused pending loops) isAsync =>
    let put (p : Progress) : Run Unit := setKind id (.generator p isAsync)
    put .running
    match ← resumed pending loops signal with
    | (.handed v isResult rest, loops) =>
      put (.paused rest loops)
      if isResult then return v else iterationResult v false
    | (.ended v, _) =>
      put .ended
      iterationResult v true
    | (.failed v, _) =>
      put .ended
      throwValue v
  | _ => throwType "generator resumed on non generator object"

end Generator
end PagePreview.Machine
