import PagePreview.Machine.Operator

/-! Going through the values of something: a list by its places, anything else by the iterator that
it gives out. -/

namespace PagePreview.Machine
open Script

def notIterable (typeName : String) : String := "value with type \x60" ++ typeName ++ "\x60 is not iterable"

def openSource (v : Value) : Run Source := do
  let f ← getValue v .iterator
  match v, f with
  | .object id, .object g =>
    if g == Intrinsic.arrayValues.id then
      if let .array .. := (← objectAt id).kind then return .list id 0
  | _, _ => pure ()
  if f.isNullish then throwType (notIterable ((← get).typeName v))
  if !(← get).isCallable f then throwType "value returned for property of object is not a function"
  let it ← Run.call f v #[]
  if !it.isObject then throwType "the iterator is not an object"
  return .iterator it (← getValue it (.named "next"))

def Source.next? (s : Source) : Run (Option (Value × Source)) := do
  match s with
  | .list id i =>
    match (← objectAt id).kind with
    | .array es n _ =>
      if n ≤ i then return none
      match es[i]?.join with
      | some v => return some (v, .list id (i + 1))
      | none => return some (← getOf id (.ofIndex i), .list id (i + 1))
    | _ => return none
  | .iterator it next =>
    let r ← Run.call next it #[]
    if !r.isObject then throwType "next value should be an object"
    if (← getValue r (.named "done")).isTrue then return none
    return some (← getValue r (.named "value"), s)

def Source.close (s : Source) : Run Unit := do
  match s with
  | .list .. => return
  | .iterator it _ =>
    match ← methodOf? it (.named "return") with
    | some f =>
      if !(← Run.call f it #[]).isObject then throwType "inner result was not an object"
    | none => return

def drainLimit : Nat := 20000000

def drain (fuel : Nat) (s : Source) (out : Array Value) : Run (Array Value) :=
  match fuel with
  | 0 => throw (.limit "out of memory")
  | fuel + 1 => do
    match ← s.next? with
    | none => return out
    | some (v, s) => drain fuel s (out.push v)

def valuesOf (v : Value) : Run (Array Value) := do
  match ← openSource v with
  | s@(.list id _) =>
    match (← objectAt id).kind with
    | .array es n _ =>
      if es.size == n && es.all Option.isSome then return es.map (·.getD .undefined)
      else drain drainLimit s #[]
    | _ => drain drainLimit s #[]
  | s => drain drainLimit s #[]

def Source.guard {α : Type} (s : Source) (step : Run α) : Run α :=
  tryCatch step fun e => do
    match e with
    | .thrown v =>
      tryCatch s.close fun e => match e with
        | .thrown _ => pure ()
        | e => throw e
      throw (.thrown v)
    | e => throw e

def iterationResult (v : Value) (isDone : Bool) : Run Value :=
  newRecord [("value", v), ("done", .bool isDone)]

end PagePreview.Machine
