import PagePreview.Machine.Builtin.Collections
import PagePreview.Number.Calendar

/-! Dates. The time of the place where scripts run is the universal time, and it stands still. -/

namespace PagePreview.Machine.Builtin
open Script Run Number

def dateFields : List String :=
  ["Date", "FullYear", "Hours", "Milliseconds", "Minutes", "Month", "Seconds"]

def settingLength : String → Nat
  | "Hours" => 4
  | "FullYear" | "Minutes" => 3
  | "Month" | "Seconds" => 2
  | _ => 1

def dateMethods : List (String × Nat) :=
  dateFields.map (fun f => ("get" ++ f, 0)) ++ dateFields.map (fun f => ("getUTC" ++ f, 0)) ++
  dateFields.map (fun f => ("set" ++ f, settingLength f)) ++
  dateFields.map (fun f => ("setUTC" ++ f, settingLength f)) ++
  [("getDay", 0), ("getUTCDay", 0), ("getTime", 0), ("getTimezoneOffset", 0), ("setTime", 1),
   ("toDateString", 0), ("toISOString", 0), ("toJSON", 1), ("toLocaleDateString", 0),
   ("toLocaleString", 0), ("toLocaleTimeString", 0), ("toString", 0), ("toTimeString", 0),
   ("toUTCString", 0), ("valueOf", 0)]

def dateFunctions : List (String × Nat) := [("UTC", 7), ("now", 0), ("parse", 1)]

def numbersOf (args : Array Value) : Run (List Float) := do
  let mut out := #[]
  for v in args do
    out := out.push (← toNumber v)
  return out.toList

def dateFunction (name : String) (args : Array Value) (newTarget : Option Nat) : Run Value := do
  match name with
  | "now" => return .number 0
  | "parse" => return .number (readTime (← toText (argument args 0)).display)
  | "UTC" => return .number (timeOfFields (← numbersOf (if args.isEmpty then #[.undefined] else args)))
  | _ =>
    match newTarget with
    | none => return .text (Moment.ofTime 0).fullText
    | some t =>
      let ofPrimitive (v : Value) : Run Float := do
        match v with
        | .string s => return readTime s.display
        | v => return timeOf (← toNumber v)
      let time ← match args.toList with
        | [] => pure 0
        | [.object id] =>
          match (← objectAt id).kind with
          | .date t => pure t
          | _ => ofPrimitive (← toPrimitive .none (.object id))
        | [v] => ofPrimitive v
        | _ => pure (timeOfFields (← numbersOf args))
      return .object (← allocate { proto := some (← protoFor t .datePrototype), kind := .date time })

def datePrimitive (this hint : Value) : Run Value := do
  let .object id := this | throwType "Date.prototype[@@toPrimitive] called on non object"
  let names ← match hint with
    | .string "number" => pure ["valueOf", "toString"]
    | .string "string" | .string "default" => pure ["toString", "valueOf"]
    | _ => throwType "Date.prototype[@@toPrimitive] called without a valid hint"
  for n in names do
    let f ← getOf id (.named n)
    if (← get).isCallable f then
      let v ← call f this #[]
      if !v.isObject then return v
  throwType primitiveComplaint

def fieldOf (m : Moment) : String → Int
  | "Date" => m.day
  | "FullYear" => m.year
  | "Hours" => m.hour
  | "Milliseconds" => m.milli
  | "Minutes" => m.minute
  | "Month" => m.month - 1
  | "Seconds" => m.second
  | "Day" => m.weekday
  | _ => 0

def fieldName (name : String) : String :=
  let rest := (name.drop 3).toString
  if rest.startsWith "UTC" then (rest.drop 3).toString else rest

def dateMethod (name : String) (this : Value) (args : Array Value) : Run Value := do
  match name with
  | "[Symbol.toPrimitive]" => datePrimitive this (argument args 0)
  | "toJSON" => do
    let o := Value.object (← toObject this)
    match ← toPrimitive .number o with
    | .number x => if x.isNaN || x.isInf then return .null else invoke o "toISOString" #[]
    | _ => invoke o "toISOString" #[]
  | "toLocaleDateString" | "toLocaleString" | "toLocaleTimeString" =>
    throwValue (.text "Function Unimplemented")
  | _ => do
    let .object id := this | throwType "'this' is not a Date"
    let .date time := (← objectAt id).kind | throwType "'this' is not a Date"
    if name.startsWith "set" then
      let xs ← numbersOf (if args.isEmpty then #[.undefined] else args)
      let new := if name == "setTime" then timeOf (xs.headD nan)
        else timeWith (fieldName name) time (xs.take (settingLength (fieldName name)))
      setKind id (.date new)
      return .number new
    if name == "getTime" || name == "valueOf" then return .number time
    match truncated? time with
    | none =>
      if name == "toISOString" then raise .range "Invalid time value"
      return if name.startsWith "to" then .text "Invalid Date" else .nan
    | some t =>
      let m := Moment.ofTime t
      match name with
      | "toISOString" => return .text m.iso
      | "toDateString" => return .text m.dateText
      | "toTimeString" => return .text m.timeText
      | "toUTCString" => return .text m.universalText
      | "toString" => return .text m.fullText
      | "getTimezoneOffset" => return .number 0
      | name => return .ofInt (fieldOf m (fieldName name))

end PagePreview.Machine.Builtin
