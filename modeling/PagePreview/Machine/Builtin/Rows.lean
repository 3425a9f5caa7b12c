import PagePreview.Machine.Builtin.Lists

/-! Buffers of bytes, and what is read from them: rows of numbers of one kind, windows that read
numbers of all kinds, and the operations that change one element as a whole. -/

namespace PagePreview.Machine.Builtin
open Script Run

def bufferFunctions : List (String × Nat) := [("isView", 1)]

def bufferGetters : List String := ["byteLength", "detached", "maxByteLength", "resizable"]
def bufferMethods : List (String × Nat) :=
  [("resize", 1), ("slice", 2), ("transfer", 0), ("transferToFixedLength", 0)]

def sharedGetters : List String := ["byteLength", "growable", "maxByteLength"]
def sharedMethods : List (String × Nat) := [("grow", 1), ("slice", 2)]

def bufferTitle (isShared : Bool) : String := if isShared then "SharedArrayBuffer" else "ArrayBuffer"

def newBuffer (proto : Nat) (b : Buffer) : Run Nat := allocate { proto := some proto, kind := .buffer b }

def bufferLimit : Nat := 4294967295

def makeBytes (n : Nat) : Run ByteArray := do
  if bufferLimit < n then
    raise .range "couldn't allocate the data block: memory allocation failed"
  return ByteRow.zeros n

def makeBuffer (isShared : Bool) (args : Array Value) (newTarget : Option Nat) : Run Value := do
  let title := bufferTitle isShared
  let some t := newTarget | throwType (title ++ ".constructor called with undefined new target")
  let n ← toIndex (argument args 0)
  let maximum ← match argument args 1 with
    | .object options =>
      match ← getOf options (.named "maxByteLength") with
      | .undefined => pure none
      | v => some <$> toIndex v
    | _ => pure none
  let proto ← protoFor t (if isShared then .sharedBufferPrototype else .bufferPrototype)
  if maximum.any (· < n) then raise .range "\x60length\x60 cannot be bigger than \x60maxByteLength\x60"
  return .object (← newBuffer proto { bytes := ← makeBytes n, maximum, isShared })

def bufferOf (isShared : Bool) (name : String) (this : Value) : Run (Nat × Buffer) := do
  let complaint := bufferTitle isShared ++ "." ++ name ++ " called with invalid value"
  let .object id := this | throwType complaint
  match (← get).buffer? id with
  | some b => if b.isShared == isShared then return (id, b) else throwType complaint
  | none => throwType complaint

def isBufferView (v : Value) : Run Value := do
  let .object id := v | return .bool false
  match (← objectAt id).kind with
  | .row _ | .window .. => return .bool true
  | _ => return .bool false

def detachedComplaint : String := "ArrayBuffer is detached"

def transferBytes (id : Nat) (b : Buffer) (length : Value) (keepsMaximum : Bool) : Run Value := do
  let n ← if length.isUndefined then pure b.bytes.size else toIndex length
  if b.isDetached then throwType "cannot transfer a detached buffer"
  let bytes ← makeBytes n
  let bytes := b.bytes.copySlice 0 bytes 0 (min n b.bytes.size)
  let new ← newBuffer Intrinsic.bufferPrototype.id
    { bytes, maximum := if keepsMaximum then b.maximum else none }
  setKind id (.buffer { b with bytes := .empty, isDetached := true })
  return .object new

def bufferMethod (isShared : Bool) (name : String) (this : Value) (args : Array Value) : Run Value := do
  let (id, b) ← bufferOf isShared name this
  match name with
  | "get byteLength" => return .ofNat b.bytes.size
  | "get maxByteLength" => return .ofNat (if b.isDetached then 0 else b.maximum.getD b.bytes.size)
  | "get resizable" | "get growable" => return .bool b.maximum.isSome
  | "get detached" => return .bool b.isDetached
  | "slice" => do
    if b.isDetached then throwType "ArrayBuffer.slice called with detached buffer"
    let n := b.bytes.size
    let start ← indexArgument (argument args 0) n 0
    let stop ← indexArgument (argument args 1) n n
    let proto : Intrinsic := if isShared then .sharedBufferPrototype else .bufferPrototype
    return .object (← newBuffer proto.id { bytes := b.bytes.extract start (max start stop), isShared })
  | "resize" | "grow" => do
    let some maximum := b.maximum
      | throwType (bufferTitle isShared ++ "." ++ name ++ " called with a fixed-length buffer")
    let n ← toIndex (argument args 0)
    if b.isDetached then throwType detachedComplaint
    if maximum < n || (isShared && n < b.bytes.size) then
      raise .range (bufferTitle isShared ++ "." ++ name ++ ": new byte length exceeds maximum")
    let bytes := b.bytes.extract 0 (min n b.bytes.size)
    updateObject id (·.mapBytes fun _ => bytes ++ ByteRow.zeros (n - bytes.size))
    return .undefined
  | "transfer" => transferBytes id b (argument args 0) true
  | _ => transferBytes id b (argument args 0) false

def rowFunctions : List (String × Nat) := [("from", 1), ("of", 0)]

def rowGetters : List String := ["buffer", "byteLength", "byteOffset", "length"]

def rowMethods : List (String × Nat) := [
  ("at", 1), ("copyWithin", 2), ("entries", 0), ("every", 1), ("fill", 1), ("filter", 1),
  ("find", 1), ("findIndex", 1), ("findLast", 1), ("findLastIndex", 1), ("forEach", 1),
  ("includes", 1), ("indexOf", 1), ("join", 1), ("keys", 0), ("lastIndexOf", 1), ("map", 1),
  ("reduce", 1), ("reduceRight", 1), ("reverse", 0), ("set", 1), ("slice", 2), ("some", 1),
  ("sort", 1), ("subarray", 2), ("toLocaleString", 0), ("toReversed", 0), ("toSorted", 1),
  ("values", 0), ("with", 2)]

def rowIntrinsics : Element → Intrinsic × Intrinsic
  | .int8 => (.int8Prototype, .int8Constructor)
  | .uint8 => (.uint8Prototype, .uint8Constructor)
  | .uint8Clamped => (.uint8ClampedPrototype, .uint8ClampedConstructor)
  | .int16 => (.int16Prototype, .int16Constructor)
  | .uint16 => (.uint16Prototype, .uint16Constructor)
  | .int32 => (.int32Prototype, .int32Constructor)
  | .uint32 => (.uint32Prototype, .uint32Constructor)
  | .float32 => (.float32Prototype, .float32Constructor)
  | .float64 => (.float64Prototype, .float64Constructor)
  | .bigInt64 => (.bigInt64Prototype, .bigInt64Constructor)
  | .bigUint64 => (.bigUint64Prototype, .bigUint64Constructor)

def newRow (proto : Nat) (e : Element) (n : Nat) : Run Nat := do
  let buffer ← newBuffer Intrinsic.bufferPrototype.id { bytes := ← makeBytes (n * e.size) }
  allocate { proto := some proto, kind := .row { element := e, buffer, offset := 0, length := some n } }

def rowComplaint : String := "Value is not a typed array object"
def rowLostComplaint : String := "typed array is outside the bounds of its inner buffer"

def rowOf (this : Value) : Run (Nat × View × Nat) := do
  let .object id := this | throwType rowComplaint
  let s ← get
  let .row view := (s.object id).kind | throwType rowComplaint
  let some n := s.rowLength? view | throwType rowLostComplaint
  return (id, view, n)

def fillRow (id : Nat) (vs : List Value) : Run Unit := do
  for (v, i) in vs.zipIdx do
    setAt id i v

def rowOnBuffer (proto : Nat) (e : Element) (buffer : Nat) (b : Buffer) (args : Array Value) : Run Value := do
  let offset ← toIndex (argument args 1)
  if offset % e.size != 0 then raise .range "Invalid offset for typed array"
  let length ← match argument args 2 with
    | .undefined => pure none
    | v => some <$> toIndex v
  if b.isDetached then throwType "Cannot construct typed array from detached buffer"
  let size := b.bytes.size
  let row (length : Option Nat) : Run Value := do
    return .object (← allocate { proto := some proto, kind := .row { element := e, buffer, offset, length } })
  match length with
  | some n =>
    if size < offset + n * e.size then raise .range "Invalid length for typed array"
    row (some n)
  | none =>
    if b.maximum.isSome then
      if size < offset then raise .range "Invalid length for typed array"
      row none
    else
      if size % e.size != 0 then raise .range "Invalid length for typed array"
      if size < offset then raise .range "Invalid length for typed array"
      row (some ((size - offset) / e.size))

def kindsComplaint : String := "Cannot initialize typed array from different content type"

def makeRow (e : Element) (args : Array Value) (newTarget : Option Nat) : Run Value := do
  let some t := newTarget
    | throwType ("new target was undefined when constructing an " ++ e.rowName)
  let fallback := (rowIntrinsics e).1
  match argument args 0 with
  | .object source =>
    let proto ← protoFor t fallback
    match (← objectAt source).kind with
    | .buffer b => rowOnBuffer proto e source b args
    | .row view =>
      let some n := (← get).rowLength? view | throwType "Cannot initialize typed array from detached buffer"
      if view.element.isBig != e.isBig then throwType kindsComplaint
      let id ← newRow proto e n
      fillRow id (← listValues source).toList
      return .object id
    | _ =>
      let values ← match ← methodOf? (argument args 0) .iterator with
        | some _ => valuesOf (argument args 0)
        | none => listValues source
      let id ← newRow proto e values.size
      fillRow id values.toList
      return .object id
  | v =>
    let n ← toIndex v
    return .object (← newRow (← protoFor t fallback) e n)

def constructRow (c : Nat) (args : Array Value) (room : Option Nat) : Run Nat := do
  let v ← construct c args c
  let (id, _, n) ← rowOf v
  if room.any (n < ·) then throwType "new typed array length is smaller than expected"
  return id

def newRowLike (id : Nat) (e : Element) (args : Array Value) (room : Option Nat) : Run Nat := do
  let fallback := (rowIntrinsics e).2.id
  let c ← makerOf id fallback
  let new ← constructRow c args room
  match (← objectAt new).kind with
  | .row view => if view.element.isBig != e.isBig then throwType "typed arrays of different content types"
  | _ => pure ()
  return new

def numericLess (a b : Value) : Run Bool := do
  match a, b with
  | .number x, .number y =>
    if x.isNaN then return false
    if y.isNaN then return true
    if x == 0 && y == 0 then return Number.isNegativeBits x && !Number.isNegativeBits y
    return x < y
  | .bigint m, .bigint n => return m < n
  | _, _ => return false

def sortedRow (compare : Value) (vs : List Value) : Run (List Value) :=
  if compare.isUndefined then sortedBy numericLess vs else sorted compare vs

def setRow (id : Nat) (view : View) (n : Nat) (args : Array Value) : Run Value := do
  let x ← toWhole (argument args 1)
  if x < 0 then raise .range "TypedArray.set called with negative offset"
  let source ← toObject (argument args 0)
  match (← objectAt source).kind with
  | .row other => if other.element.isBig != view.element.isBig then throwType kindsComplaint
  | _ => pure ()
  let vs ← listValues source
  let start := lengthOfFloat x
  if x.isInf || n < start + vs.size then
    raise .range "TypedArray.set called with out of bounds length"
  for (v, i) in vs.toList.zipIdx do
    setAt id (start + i) v
  return .undefined

def rowMethod (name : String) (this : Value) (args : Array Value) : Run Value := do
  let first := argument args 0
  if name == "get [Symbol.toStringTag]" then
    match this with
    | .object id =>
      match (← objectAt id).kind with
      | .row view => return .text view.element.rowName
      | _ => return .undefined
    | _ => return .undefined
  if name.startsWith "get " then
    let .object id := this | throwType "'this' is not a typed array object"
    let s ← get
    let .row view := (s.object id).kind | throwType "'this' is not a typed array object"
    return match name with
      | "get buffer" => .object view.buffer
      | "get byteLength" => .ofNat (s.rowLength view * view.element.size)
      | "get byteOffset" => if (s.rowLength? view).isSome then .ofNat view.offset else .number 0
      | _ => .ofNat (s.rowLength view)
  if (name == "sort" || name == "toSorted") && !first.isUndefined then
    callback first "TypedArray.sort called with non-callable comparefn"
  let (id, view, n) ← rowOf this
  let e := view.element
  let ofValues (vs : List Value) : Run Value := do
    let new ← newRow (rowIntrinsics e).1.id e vs.length
    fillRow new vs
    return .object new
  match name with
  | "map" => do
    callback first "TypedArray.prototype.map called with non-callable callback function"
    let new ← newRowLike id e #[.ofNat n] (some n)
    for i in [0:n] do
      setAt new i (← call first (argument args 1) #[← getAt id i, .ofNat i, this])
    return .object new
  | "filter" => do
    callback first "TypedArray.prototype.filter called with non-callable callback function"
    let mut kept := #[]
    for i in [0:n] do
      let v ← getAt id i
      if (← call first (argument args 1) #[v, .ofNat i, this]).isTrue then kept := kept.push v
    let new ← newRowLike id e #[.ofNat kept.size] (some kept.size)
    fillRow new kept.toList
    return .object new
  | "fill" => do
    let v ← toElement e first
    let start ← indexArgument (argument args 1) n 0
    let stop ← indexArgument (argument args 2) n n
    for i in [start:stop] do
      putElement view (some i) v
    return this
  | "set" => setRow id view n args
  | "slice" => do
    let start ← indexArgument first n 0
    let stop ← indexArgument (argument args 1) n n
    let new ← newRowLike id e #[.ofNat (stop - start)] (some (stop - start))
    fillRow new ((← listValues id).extract start stop).toList
    return .object new
  | "subarray" => do
    let start ← indexArgument first n 0
    let stop ← indexArgument (argument args 1) n n
    let new ← newRowLike id e
      #[.object view.buffer, .ofNat (view.offset + start * e.size), .ofNat (stop - start)] none
    return .object new
  | "sort" => do
    fillRow id (← sortedRow first (← listValues id).toList)
    return this
  | "toSorted" => do ofValues (← sortedRow first (← listValues id).toList)
  | "toReversed" => do ofValues (← listValues id).toList.reverse
  | "with" => do
    let x ← toWhole first
    let i := if x < 0 then x + Float.ofNat n else x
    let v ← toElement e (argument args 1)
    if i < 0 || Float.ofNat n ≤ i then
      raise .range "invalid integer index for TypedArray operation"
    ofValues ((← listValues id).set! i.toUInt64.toNat v).toList
  | name => listMethod name this args

def rowFunction (name : String) (this : Value) (args : Array Value) (newTarget : Option Nat) : Run Value := do
  match Element.ofRowName? name with
  | some e => makeRow e args newTarget
  | none =>
    if name == "constructor" then
      throwType "the TypedArray constructor should never be called directly"
    if !(← get).isConstructor this then throwType ("TypedArray." ++ name ++ " called on non-constructable value")
    let .object c := this | return .undefined
    if name == "of" then
      let new ← constructRow c #[.ofNat args.size] (some args.size)
      fillRow new args.toList
      return .object new
    let source := argument args 0
    let f := argument args 1
    if !f.isUndefined then callback f "TypedArray.from called with non-callable mapfn"
    let values ← match ← methodOf? source .iterator with
      | some _ => valuesOf source
      | none => listValues (← toObject source)
    let new ← constructRow c #[.ofNat values.size] (some values.size)
    for (v, i) in values.toList.zipIdx do
      setAt new i (← if f.isUndefined then pure v else call f (argument args 2) #[v, .ofNat i])
    return .object new

def windowElements : List Element := Element.all.filter (· != .uint8Clamped)

def windowMethods : List (String × Nat) :=
  windowElements.map (fun e => ("get" ++ e.name, 1)) ++ windowElements.map (fun e => ("set" ++ e.name, 2))

def windowGetters : List String := ["buffer", "byteLength", "byteOffset"]

def makeWindow (args : Array Value) (newTarget : Option Nat) : Run Value := do
  let some t := newTarget | throwType "new target is undefined"
  let .object buffer := argument args 0 | throwType "buffer must be an ArrayBuffer"
  let some b := (← get).buffer? buffer | throwType "buffer must be an ArrayBuffer"
  let offset ← toIndex (argument args 1)
  if b.isDetached then throwType detachedComplaint
  let size := b.bytes.size
  if size < offset then raise .range "Start offset is outside the bounds of the buffer"
  let length ← match argument args 2 with
    | .undefined => pure (if b.maximum.isSome then none else some (size - offset))
    | v => do
      let n ← toIndex v
      if size < offset + n then raise .range "Invalid data view length"
      pure (some n)
  let proto ← protoFor t .windowPrototype
  return .object (← allocate { proto := some proto, kind := .window buffer offset length })

/-- A method of windows: reads or writes a number, the highest byte first unless told otherwise. -/
def windowMethod (name : String) (this : Value) (args : Array Value) : Run Value := do
  let complaint := "\x60this\x60 is not a DataView"
  let .object id := this | throwType complaint
  let .window buffer offset length := (← objectAt id).kind | throwType complaint
  if name == "get buffer" then return .object buffer
  let access := if name.startsWith "get " then none
    else Element.ofName? (name.drop 3).toString
  let isSetting := name.startsWith "set"
  let place ← if access.isSome then toIndex (argument args 0) else pure 0
  let v ← match access with
    | some e => if isSetting then toElement e (argument args 1) else pure .undefined
    | none => pure .undefined
  let isLittle := (argument args (if isSetting then 2 else 1)).isTrue
  let size := (← get).byteCount buffer
  let isLost : Bool := match length with
    | some n => size < offset + n
    | none => size < offset
  if isLost then throwType "view out of bounds for its inner buffer"
  let n := length.getD (size - offset)
  match access with
  | none => return .ofNat (if name == "get byteLength" then n else offset)
  | some e =>
    if n < place + e.size then raise .range "Offset is outside the bounds of the DataView"
    let turned (bits : Nat) : Nat := if isLittle then bits else ByteRow.swapped bits e.size
    let place := offset + place
    if isSetting then
      updateObject buffer (·.mapBytes fun bytes => ByteRow.putBits bytes place (turned (e.bitsOf v)) e.size)
      return .undefined
    else
      match (← get).buffer? buffer with
      | some b => return e.valueOf (turned (ByteRow.bitsAt b.bytes place e.size))
      | none => return .undefined

def atomicFunctions : List (String × Nat) := [
  ("add", 3), ("and", 3), ("compareExchange", 4), ("exchange", 3), ("isLockFree", 1), ("load", 2),
  ("notify", 3), ("or", 3), ("store", 3), ("sub", 3), ("wait", 4), ("xor", 3)]

def atomicResult (name : String) (old operand : Int) : Int :=
  match name with
  | "add" => old + operand
  | "sub" => old - operand
  | "and" => bitsOf (· && ·) 64 old operand
  | "or" => bitsOf (· || ·) 64 old operand
  | "xor" => bitsOf (· != ·) 64 old operand
  | _ => operand

def wholeOfValue : Value → Int
  | .bigint n => n
  | .number x => (Number.truncated? x).getD 0
  | _ => 0

def atomicFunction (name : String) (args : Array Value) : Run Value := do
  if name == "isLockFree" then
    let n ← toWhole (argument args 0)
    return .bool (n == 1 || n == 2 || n == 4 || n == 8)
  let (id, view, n) ← rowOf (argument args 0)
  let e := view.element
  let isWhole := match e with
    | .float32 | .float64 | .uint8Clamped => false
    | _ => true
  if !isWhole then throwType "platform doesn't support Atomic operations on the provided \x60TypedArray\x60"
  let i ← toIndex (argument args 1)
  if n ≤ i then raise .range "index out of bounds for typed array"
  let operand (k : Nat) : Run Value := do
    if e.isBig then return .bigint (← toBigint (argument args k)) else return .number (← toWhole (argument args k))
  let valueOf (m : Int) : Value := if e.isBig then .bigint m else .ofInt m
  match name with
  | "load" => getAt id i
  | "notify" => return .number 0
  | "wait" => throwType "agent cannot be suspended"
  | "store" => do
    let v ← operand 2
    putElement view (some i) v
    return match v with
      | .number x => .number (x + 0.0)
      | v => v
  | "compareExchange" => do
    let expected ← operand 2
    let v ← operand 3
    let old ← getAt id i
    if (e.valueOf (e.bitsOf expected)).same old then putElement view (some i) v
    return old
  | name => do
    let v ← operand 2
    let old ← getAt id i
    putElement view (some i) (if name == "exchange" then v
      else valueOf (atomicResult name (wholeOfValue old) (wholeOfValue v)))
    return old

end PagePreview.Machine.Builtin
