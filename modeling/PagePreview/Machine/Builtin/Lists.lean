import PagePreview.Machine.Builtin.Objects
import PagePreview.Machine.List

/-! The methods of lists. They work on any object with a length, and make new lists of the kind that
the list at hand makes. -/

namespace PagePreview.Machine.Builtin
open Script Run

def listMethods : List (String × Nat) := [
  ("at", 1), ("concat", 1), ("copyWithin", 2), ("entries", 0), ("every", 1), ("fill", 1),
  ("filter", 1), ("find", 1), ("findIndex", 1), ("findLast", 1), ("findLastIndex", 1), ("flat", 0),
  ("flatMap", 1), ("forEach", 1), ("includes", 1), ("indexOf", 1), ("join", 1), ("keys", 0),
  ("lastIndexOf", 1), ("map", 1), ("pop", 0), ("push", 1), ("reduce", 1), ("reduceRight", 1),
  ("reverse", 0), ("shift", 0), ("slice", 2), ("some", 1), ("sort", 1), ("splice", 2),
  ("toLocaleString", 0), ("toReversed", 0), ("toSorted", 1), ("toSpliced", 2), ("toString", 0),
  ("unshift", 1), ("values", 0), ("with", 2)]

def listFunctions : List (String × Nat) := [("from", 1), ("isArray", 1), ("of", 0)]

def unscopableNames : List String := [
  "at", "copyWithin", "entries", "fill", "find", "findIndex", "findLast", "findLastIndex", "flat",
  "flatMap", "includes", "keys", "toReversed", "toSorted", "toSpliced", "values"]

def callback (f : Value) (complaint : String) : Run Unit := do
  if !(← get).isCallable f then throwType complaint

def sortComplaint : String := "The comparison function must be either a function or undefined"

def callbackComplaint : String → String
  | "forEach" => "Array.prototype.forEach: invalid callback function"
  | "map" => "Array.prototype.map: Callbackfn is not callable"
  | "filter" => "Array.prototype.filter: \x60callback\x60 must be callable"
  | "every" => "Array.prototype.every: callback is not callable"
  | "some" => "Array.prototype.some: callback is not callable"
  | "flatMap" => "flatMap mapper function is not callable"
  | "reduce" => "Array.prototype.reduce: callback function is not callable"
  | "reduceRight" => "Array.prototype.reduceRight: callback function is not callable"
  | name => "Array.prototype." ++ name ++ ": predicate is not callable"

/-- Visits the places of a list from one of them on that hold something, until a visit tells to
stop. -/
def eachPresent (id : Nat) (n : Nat) (visit : Nat → Value → Run Bool) : Run Unit := do
  for i in [0:n] do
    if ← hasAt id i then
      if !(← visit i (← getAt id i)) then return

def lastPlace? (id : Nat) (test : Nat → Value → Run Bool) : Nat → Run (Option (Nat × Value))
  | 0 => return none
  | i + 1 => do
    let v ← getAt id i
    if ← test i v then return some (i, v) else lastPlace? id test i

def lastIndexOf? (id : Nat) (v : Value) : Nat → Run (Option Nat)
  | 0 => return none
  | i + 1 => do
    if ← hasAt id i then
      if (← getAt id i).same v then return some i
    lastIndexOf? id v i

def copyPlaces (id start stop new place : Nat) : Run Unit := do
  for i in [start:stop] do
    if ← hasAt id i then createAt new (place + (i - start)) (← getAt id i)

def movePlace (id source target : Nat) : Run Unit := do
  if ← hasAt id source then setAt id target (← getAt id source) else deleteAt id target

/-- Adds the elements of a list to a new one, lists among them opened up to a depth. A function may
change the outermost ones first. -/
def flatten (fuel : Nat) (depth : Float) (id new place : Nat) (change : Nat → Value → Run Value) :
    Run Nat :=
  match fuel with
  | 0 => return place
  | fuel + 1 => do
    let n ← lengthOf id
    let mut place := place
    for i in [0:n] do
      if ← hasAt id i then
        let v ← change i (← getAt id i)
        match v with
        | .object inner =>
          if depth ≥ 1 && (← isList v) then
            place ← flatten fuel (depth - 1) inner new place fun _ v => return v
          else
            createAt new place v
            place := place + 1
        | v =>
          createAt new place v
          place := place + 1
    return place

def isSpreadable (v : Value) : Run Bool := do
  let .object id := v | return false
  match ← getOf id .isConcatSpreadable with
  | .undefined => isList v
  | flag => return flag.isTrue

def newIteration (proto : Intrinsic) (state : Iteration) : Run Value := do
  let id ← allocate { proto := some proto.id, kind := .iterator state }
  return .object id

def searchStart (args : Array Value) (n : Nat) : Run Nat := indexArgument (argument args 1) n 0

def reduceFrom (f : Value) (id : Nat) : List Nat → Value → Run Value
  | [], acc => return acc
  | i :: rest, acc => do
    if ← hasAt id i then
      let acc ← call f .undefined #[acc, ← getAt id i, .ofNat i, .object id]
      reduceFrom f id rest acc
    else reduceFrom f id rest acc

def firstPresent (id : Nat) : List Nat → Run (Option (Value × List Nat))
  | [] => return none
  | i :: rest => do
    if ← hasAt id i then return some (← getAt id i, rest) else firstPresent id rest

def reduceList (name : String) (id : Nat) (args : Array Value) : Run Value := do
  let n ← lengthOf id
  let f := argument args 0
  callback f (callbackComplaint name)
  let places := if name == "reduce" then List.range n else (List.range n).reverse
  if 1 < args.size then reduceFrom f id places (argument args 1)
  else
    match ← firstPresent id places with
    | some (v, rest) => reduceFrom f id rest v
    | none =>
      throwType ("Array.prototype." ++ name ++ ": called on an empty array and with no initial value")

def listSearch (name : String) (id : Nat) (args : Array Value) : Run Value := do
  let n ← lengthOf id
  let f := argument args 0
  let thisArg := argument args 1
  callback f (callbackComplaint name)
  let ask (i : Nat) (v : Value) : Run Value := call f thisArg #[v, .ofNat i, .object id]
  match name with
  | "forEach" => do
    eachPresent id n fun i v => do
      let _ ← ask i v
      return true
    return .undefined
  | "map" => do
    let new ← newLike id n
    eachPresent id n fun i v => do
      createAt new i (← ask i v)
      return true
    return .object new
  | "filter" => do
    let new ← newLike id 0
    let mut place := 0
    for i in [0:n] do
      if ← hasAt id i then
        let v ← getAt id i
        if (← ask i v).isTrue then
          createAt new place v
          place := place + 1
    return .object new
  | "some" | "every" => do
    let stop := name == "some"
    for i in [0:n] do
      if ← hasAt id i then
        if (← ask i (← getAt id i)).isTrue == stop then return .bool stop
    return .bool (!stop)
  | "find" | "findIndex" => do
    for i in [0:n] do
      let v ← getAt id i
      if (← ask i v).isTrue then return if name == "find" then v else .ofNat i
    return if name == "find" then .undefined else .number (-1)
  | "findLast" | "findLastIndex" => do
    match ← lastPlace? id (fun i v => return (← ask i v).isTrue) n with
    | some (i, v) => return if name == "findLast" then v else .ofNat i
    | none => return if name == "findLast" then .undefined else .number (-1)
  | _ => do
    let new ← newLike id 0
    let _ ← flatten standInDepth 1 id new 0 ask
    return .object new

def splicePart (args : Array Value) (n : Nat) : Run (Nat × Nat) := do
  let start ← indexArgument (argument args 0) n 0
  let count ← if args.size == 0 then pure 0
    else if args.size == 1 then pure (n - start)
    else do
      let x ← toWhole (argument args 1)
      pure (min (lengthOfFloat x) (n - start))
  return (start, count)

def spliceList (id n : Nat) (args : Array Value) : Run Value := do
  let (start, count) ← splicePart args n
  let items := args.extract 2 args.size
  let new ← newLike id count
  copyPlaces id start (start + count) new 0
  setLengthOf new count
  match ← plainElements? id with
  | some es =>
    replaceElements id (es.extract 0 start ++ items.map some ++ es.extract (start + count) es.size)
  | none =>
    let m := n - count + items.size
    if items.size < count then
      for i in [start:n - count] do
        movePlace id (i + count) (i + items.size)
      for i in [0:n - m] do
        deleteAt id (n - 1 - i)
    else if count < items.size then
      for i in [0:n - count - start] do
        movePlace id (n - 1 - i) (m - 1 - i)
    for (v, i) in items.toList.zipIdx do
      setAt id (start + i) v
    setLengthOf id m
  return .object new

def reverseList (id n : Nat) : Run Unit := do
  match ← plainElements? id with
  | some es => replaceElements id es.reverse
  | none =>
    for i in [0:n / 2] do
      let j := n - 1 - i
      let isLower ← hasAt id i
      let lower ← if isLower then getAt id i else pure .undefined
      let isUpper ← hasAt id j
      let upper ← if isUpper then getAt id j else pure .undefined
      if isUpper then setAt id i upper
      else if isLower then deleteAt id i
      if isLower then setAt id j lower
      else if isUpper then deleteAt id j

def listChange (name : String) (id : Nat) (args : Array Value) : Run Value := do
  let n ← lengthOf id
  match name with
  | "push" => do
    let mut i := n
    for v in args do
      setAt id i v
      i := i + 1
    let isKnown := match (← objectAt id).kind with
      | .array .. => !args.isEmpty
      | _ => false
    if !isKnown then setLengthOf id i
    return .ofNat i
  | "pop" => do
    if n == 0 then
      setLengthOf id 0
      return .undefined
    let v ← getAt id (n - 1)
    match ← plainElements? id with
    | some es => replaceElements id es.pop
    | none =>
      deleteAt id (n - 1)
      setLengthOf id (n - 1)
    return v
  | "shift" => do
    if n == 0 then
      setLengthOf id 0
      return .undefined
    let v ← getAt id 0
    match ← plainElements? id with
    | some es => replaceElements id (es.extract 1 es.size)
    | none =>
      for i in [1:n] do
        movePlace id i (i - 1)
      deleteAt id (n - 1)
      setLengthOf id (n - 1)
    return v
  | "unshift" => do
    match ← plainElements? id with
    | some es => replaceElements id (args.map some ++ es)
    | none =>
      if !args.isEmpty then
        for i in [0:n] do
          movePlace id (n - 1 - i) (n - 1 - i + args.size)
        for (v, i) in args.toList.zipIdx do
          setAt id i v
      setLengthOf id (n + args.size)
    return .ofNat (n + args.size)
  | "splice" => spliceList id n args
  | "reverse" => do
    reverseList id n
    return .object id
  | "fill" => do
    let start ← indexArgument (argument args 1) n 0
    let stop ← indexArgument (argument args 2) n n
    for i in [start:stop] do
      setAt id i (argument args 0)
    return .object id
  | _ => do
    let target ← indexArgument (argument args 0) n 0
    let start ← indexArgument (argument args 1) n 0
    let stop ← indexArgument (argument args 2) n n
    let count := min (stop - start) (n - target)
    let isBackward := start < target && target < start + count
    for i in [0:count] do
      let j := if isBackward then count - 1 - i else i
      movePlace id (start + j) (target + j)
    return .object id

def sortList (id : Nat) (compare : Value) : Run Unit := do
  let n ← lengthOf id
  let mut present := #[]
  for i in [0:n] do
    if ← hasAt id i then present := present.push (← getAt id i)
  let ordered ← sorted compare present.toList
  for (v, i) in ordered.zipIdx do
    setAt id i v
  for i in [ordered.length:n] do
    deleteAt id i

def concatList (id : Nat) (args : Array Value) : Run Value := do
  let new ← newLike id 0
  let mut place := 0
  for v in #[Value.object id] ++ args do
    match v with
    | .object inner =>
      if ← isSpreadable v then
        let n ← lengthOf inner
        copyPlaces inner 0 n new place
        place := place + n
      else
        createAt new place v
        place := place + 1
    | v =>
      createAt new place v
      place := place + 1
  setLengthOf new place
  return .object new

def localText (id : Nat) : Run Value := do
  let n ← lengthOf id
  let mut texts := #[]
  for i in [0:n] do
    let v ← getAt id i
    if v.isNullish then texts := texts.push Str.empty
    else texts := texts.push (← toText (← invoke v "toLocaleString" #[]))
  return .string (joinTexts ", " texts.toList)

def listMethod (name : String) (this : Value) (args : Array Value) : Run Value := do
  let compare := argument args 0
  if (name == "sort" || name == "toSorted") && !compare.isUndefined then callback compare sortComplaint
  let id ← toObject this
  let iteration (listing : Listing) : Run Value :=
    newIteration .arrayIteratorPrototype (.array (some id) 0 listing)
  match name with
  | "forEach" | "map" | "filter" | "some" | "every" | "find" | "findIndex" | "findLast"
  | "findLastIndex" | "flatMap" => listSearch name id args
  | "push" | "pop" | "shift" | "unshift" | "splice" | "reverse" | "fill" | "copyWithin" =>
    listChange name id args
  | "sort" => do
    sortList id compare
    return .object id
  | "reduce" | "reduceRight" => reduceList name id args
  | "join" => do
    let n ← lengthOf id
    let separator := argument args 0
    let separator ← if separator.isUndefined then pure (Str.plain ",") else toText separator
    return .string (← joinList id n separator)
  | "toString" => do
    let f ← getOf id (.named "join")
    if (← get).isCallable f then call f (.object id) #[] else tagText (.object id)
  | "toLocaleString" => localText id
  | "at" => do
    let n ← lengthOf id
    let x ← toWhole (argument args 0)
    let i := if x < 0 then x + Float.ofNat n else x
    if i < 0 || Float.ofNat n ≤ i then return .undefined else getAt id i.toUInt64.toNat
  | "slice" => do
    let n ← lengthOf id
    let start ← indexArgument (argument args 0) n 0
    let stop ← indexArgument (argument args 1) n n
    let new ← newLike id (stop - start)
    copyPlaces id start stop new 0
    setLengthOf new (stop - start)
    return .object new
  | "concat" => concatList id args
  | "includes" => do
    let n ← lengthOf id
    for i in [← searchStart args n:n] do
      if Value.sameZero (← getAt id i) (argument args 0) then return .bool true
    return .bool false
  | "indexOf" => do
    let n ← lengthOf id
    for i in [← searchStart args n:n] do
      if ← hasAt id i then
        if (← getAt id i).same (argument args 0) then return .ofNat i
    return .number (-1)
  | "lastIndexOf" => do
    let n ← lengthOf id
    let stop ← if args.size < 2 then pure n
      else do
        let x ← toWhole (argument args 1)
        let x := if x < 0 then x + Float.ofNat n else x
        pure (if x < 0 then 0 else min n (lengthOfFloat x + 1))
    return ((← lastIndexOf? id (argument args 0) stop).map Value.ofNat).getD (.number (-1))
  | "flat" => do
    let _ ← lengthOf id
    let depth := argument args 0
    let depth ← if depth.isUndefined then pure 1 else toWhole depth
    let new ← newLike id 0
    let _ ← flatten 1000 depth id new 0 fun _ v => return v
    return .object new
  | "keys" => iteration .keys
  | "values" => iteration .values
  | "entries" => iteration .entries
  | "toReversed" => do newListValue (← listValues id).reverse
  | "toSorted" => do newListValue (← sorted compare (← listValues id).toList).toArray
  | "toSpliced" => do
    let n ← lengthOf id
    let (start, count) ← splicePart args n
    let vs ← listValues id
    newListValue (vs.extract 0 start ++ args.extract 2 args.size ++ vs.extract (start + count) n)
  | "with" => do
    let n ← lengthOf id
    let x ← toWhole (argument args 0)
    let i := if x < 0 then x + Float.ofNat n else x
    if i < 0 || Float.ofNat n ≤ i then raise .range "invalid index"
    newListValue ((← listValues id).set! i.toUInt64.toNat (argument args 1))
  | _ => return .undefined

def newOf (this : Value) (args : Array Value) (n : Nat) : Run Nat := do
  match this with
  | .object c =>
    if c == Intrinsic.arrayConstructor.id then newSized n
    else if (← get).isConstructor this then
      match ← construct c args c with
      | .object id => return id
      | _ => newSized n
    else newSized n
  | _ => newSized n

def listFrom (this : Value) (args : Array Value) : Run Value := do
  let items := argument args 0
  let f := argument args 1
  if !f.isUndefined then callback f ("\x60" ++ (← get).typeName f ++ "\x60 is not a function")
  let change (i : Nat) (v : Value) : Run Value := do
    if f.isUndefined then return v else call f (argument args 2) #[v, .ofNat i]
  match ← methodOf? items .iterator with
  | some _ =>
    let new ← newOf this #[] 0
    let n ← fill new change drainLimit (← openSource items) 0
    setLengthOf new n
    return .object new
  | none =>
    let id ← toObject items
    let n ← lengthOf id
    let new ← newOf this #[.ofNat n] n
    for i in [0:n] do
      createAt new i (← change i (← getAt id i))
    setLengthOf new n
    return .object new
where
  fill (new : Nat) (change : Nat → Value → Run Value) : Nat → Source → Nat → Run Nat
    | 0, _, i => return i
    | fuel + 1, source, i => do
      match ← source.next? with
      | none => return i
      | some (v, source) =>
        source.guard do createAt new i (← change i v)
        fill new change fuel source (i + 1)

def listFunction (name : String) (this : Value) (args : Array Value) (newTarget : Option Nat) : Run Value := do
  match name with
  | "isArray" => return .bool (← isList (argument args 0))
  | "of" => do
    let new ← newOf this #[.ofNat args.size] args.size
    for (v, i) in args.toList.zipIdx do
      createAt new i v
    setLengthOf new args.size
    return .object new
  | "from" => listFrom this args
  | _ => do
    let proto ← match newTarget with
      | some t => protoFor t .arrayPrototype
      | none => pure Intrinsic.arrayPrototype.id
    let kind ← match args.toList with
      | [.number x] =>
        match lengthOf? (.number x) with
        | some n => pure (Kind.array #[] n false)
        | none => raise .range "invalid array length"
      | vs => pure (Kind.array (vs.map some).toArray vs.length false)
    let id ← allocate { proto := some proto, kind }
    return .object id

end PagePreview.Machine.Builtin
