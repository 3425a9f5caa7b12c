import PagePreview.Number.Reading
import PagePreview.Number.Word

/-! Moments in time: milliseconds since the start of 1970, taken apart into the fields of a date and
put together again, and the texts that dates are written in. -/

namespace PagePreview.Number

def civil (days : Int) : Int × Nat × Nat :=
  let z := days + 719468
  let era := Int.fdiv z 146097
  let doe := (z - era * 146097).toNat
  let yoe := (doe - doe / 1460 + doe / 36524 - doe / 146096) / 365
  let doy := doe - (365 * yoe + yoe / 4 - yoe / 100)
  let mp := (5 * doy + 2) / 153
  let d := doy - (153 * mp + 2) / 5 + 1
  let m := if mp < 10 then mp + 3 else mp - 9
  let y : Int := yoe + era * 400
  (if m ≤ 2 then y + 1 else y, m, d)

def dayNumber (year month day : Int) : Int :=
  let y := year + Int.fdiv (month - 1) 12
  let m := (month - 1) % 12 + 1
  let y := if m ≤ 2 then y - 1 else y
  let era := Int.fdiv y 400
  let yoe := y - era * 400
  let doy := (153 * (m + (if 2 < m then -3 else 9)) + 2) / 5
  let doe := yoe * 365 + yoe / 4 - yoe / 100 + doy
  era * 146097 + doe - 719468 + (day - 1)

structure Moment where
  year : Int
  month : Int
  day : Int
  hour : Int
  minute : Int
  second : Int
  milli : Int

namespace Moment

def ofTime (t : Int) : Moment :=
  let days := Int.fdiv t 86400000
  let rest := t - days * 86400000
  let (year, month, day) := civil days
  { year, month, day, hour := rest / 3600000, minute := rest / 60000 % 60
    second := rest / 1000 % 60, milli := rest % 1000 }

def time (m : Moment) : Int :=
  dayNumber m.year m.month m.day * 86400000 + m.hour * 3600000 + m.minute * 60000 +
    m.second * 1000 + m.milli

def weekday (m : Moment) : Nat := ((dayNumber m.year m.month m.day + 4) % 7).toNat

end Moment

def timeBound : Int := 8640000000000000

def nan : Float := 0.0 / 0.0

def boundedTime (t : Int) : Float := if t.natAbs ≤ timeBound.natAbs then ofInt t else nan

def timeOf (x : Float) : Float := ((truncated? x).map boundedTime).getD nan

def fieldsOf? (xs : List Float) : Option (List Int) := xs.mapM truncated?

/-- The time that the fields of a date name, the month counted from zero; a year of two digits lies
in the last century. -/
def timeOfFields (xs : List Float) : Float :=
  match fieldsOf? xs with
  | none => nan
  | some fields =>
    let at_ (i : Nat) (fallback : Int) : Int := fields.getD i fallback
    let year := at_ 0 1970
    let year := if 0 ≤ year && year ≤ 99 then 1900 + year else year
    boundedTime (Moment.time {
      year, month := at_ 1 0 + 1, day := at_ 2 1, hour := at_ 3 0, minute := at_ 4 0
      second := at_ 5 0, milli := at_ 6 0 })

/-- A time with some of its fields set, from the named one on to smaller ones. A year can be given to
a date that is none. -/
def timeWith (field : String) (t : Float) (xs : List Float) : Float :=
  let start := if t.isNaN && field == "FullYear" then some 0 else truncated? t
  match start, fieldsOf? xs with
  | some t, some fields =>
    let m := Moment.ofTime t
    let at_ (i : Nat) (fallback : Int) : Int := fields.getD i fallback
    boundedTime (Moment.time (match field with
      | "Milliseconds" => { m with milli := at_ 0 0 }
      | "Seconds" => { m with second := at_ 0 0, milli := at_ 1 m.milli }
      | "Minutes" => { m with minute := at_ 0 0, second := at_ 1 m.second, milli := at_ 2 m.milli }
      | "Hours" =>
        { m with hour := at_ 0 0, minute := at_ 1 m.minute, second := at_ 2 m.second, milli := at_ 3 m.milli }
      | "Date" => { m with day := at_ 0 0 }
      | "Month" => { m with month := at_ 0 0 + 1, day := at_ 1 m.day }
      | _ => { m with year := at_ 0 0, month := at_ 1 (m.month - 1) + 1, day := at_ 2 m.day }))
  | _, _ => nan

def padNumber (width : Nat) (n : Int) : String :=
  let digits := toString n.natAbs
  String.ofList (List.replicate (width - digits.length) '0') ++ digits

def monthNames : List String :=
  ["Jan", "Feb", "Mar", "Apr", "May", "Jun", "Jul", "Aug", "Sep", "Oct", "Nov", "Dec"]

def dayNames : List String := ["Sun", "Mon", "Tue", "Wed", "Thu", "Fri", "Sat"]

namespace Moment

def monthName (m : Moment) : String := monthNames.getD (m.month - 1).toNat ""
def dayName (m : Moment) : String := dayNames.getD m.weekday ""

def yearText (m : Moment) : String := (if m.year < 0 then "-" else "") ++ padNumber 4 m.year

def iso (m : Moment) : String :=
  let year := if 0 ≤ m.year && m.year ≤ 9999 then padNumber 4 m.year
    else (if m.year < 0 then "-" else "+") ++ padNumber 6 m.year
  year ++ "-" ++ padNumber 2 m.month ++ "-" ++ padNumber 2 m.day ++ "T" ++
    padNumber 2 m.hour ++ ":" ++ padNumber 2 m.minute ++ ":" ++ padNumber 2 m.second ++ "." ++
    padNumber 3 m.milli ++ "Z"

def dateText (m : Moment) : String :=
  m.dayName ++ " " ++ m.monthName ++ " " ++ padNumber 2 m.day ++ " " ++ m.yearText

def clockText (m : Moment) : String :=
  padNumber 2 m.hour ++ ":" ++ padNumber 2 m.minute ++ ":" ++ padNumber 2 m.second

def timeText (m : Moment) : String := m.clockText ++ " GMT+0000"

def fullText (m : Moment) : String := m.dateText ++ " " ++ m.timeText

def universalText (m : Moment) : String :=
  m.dayName ++ ", " ++ padNumber 2 m.day ++ " " ++ m.monthName ++ " " ++ m.yearText ++ " " ++
    m.clockText ++ " GMT"

end Moment

abbrev DateReader := StateT (List Char) Option

namespace DateReader

def char (c : Char) : DateReader Unit := do
  match ← get with
  | d :: rest => if c == d then set rest else failure
  | [] => failure

def peek : DateReader (Option Char) := return (← get).head?

def digits : Nat → DateReader Int
  | 0 => return 0
  | n + 1 => do
    match ← get with
    | c :: rest =>
      if '0' ≤ c && c ≤ '9' then
        set rest
        return (c.toNat - 48 : Nat) * Nat.pow 10 n + (← digits n)
      else failure
    | [] => failure

def atMost (bound : Int) (n : Int) : DateReader Int := if n ≤ bound then return n else failure

def year : DateReader Int := do
  match ← peek with
  | some '+' => do
    char '+'
    digits 6
  | some '-' => do
    char '-'
    let n ← digits 6
    if n == 0 then failure
    return -n
  | _ => digits 4

def zone : DateReader Int := do
  match ← peek with
  | some 'Z' => do
    char 'Z'
    return 0
  | some c => do
    if c != '+' && c != '-' then failure
    char c
    let hours ← atMost 23 (← digits 2)
    let minutes ← if (← peek).isNone then pure 0 else do
      char ':'
      atMost 59 (← digits 2)
    let n := hours * 60 + minutes
    return if c == '-' then n else -n
  | none => failure

def clock (m : Moment) : DateReader Moment := do
  char 'T'
  let hour ← atMost 24 (← digits 2)
  char ':'
  let minute ← atMost 59 (← digits 2)
  let m := { m with hour, minute }
  let zoned (m : Moment) : DateReader Moment := do
    if (← peek).isNone then return m
    return { m with minute := m.minute + (← zone) }
  if (← peek) != some ':' then return ← zoned m
  char ':'
  let m := { m with second := ← atMost 59 (← digits 2) }
  if (← peek) != some '.' then return ← zoned m
  char '.'
  zoned { m with milli := ← digits 3 }

def international : DateReader Moment := do
  let m : Moment := { year := ← year, month := 1, day := 1, hour := 0, minute := 0, second := 0, milli := 0 }
  let field (bound : Int) : DateReader Int := do
    char '-'
    let n ← atMost bound (← digits 2)
    if n < 1 then failure
    return n
  let next ← peek
  if next == some 'T' then return ← clock m
  if next.isNone then return m
  let m := { m with month := ← field 12 }
  let next ← peek
  if next == some 'T' then return ← clock m
  if next.isNone then return m
  let m := { m with day := ← field 31 }
  if (← peek) == some 'T' then clock m else return m

def name (names : List String) : DateReader Nat := do
  let s ← get
  let word := String.ofList (s.take 3)
  match names.findIdx? (· == word) with
  | some i =>
    set (s.drop 3)
    return i
  | none => failure

def clockFields (m : Moment) : DateReader Moment := do
  let hour ← atMost 23 (← digits 2)
  char ':'
  let minute ← atMost 59 (← digits 2)
  char ':'
  let second ← atMost 59 (← digits 2)
  char ' '
  for c in ['G', 'M', 'T'] do char c
  return { m with hour, minute, second }

def blank (year month day : Int) : Moment :=
  { year, month, day, hour := 0, minute := 0, second := 0, milli := 0 }

def demandDate (m : Moment) (weekday : Nat) : DateReader Unit := do
  let real := Moment.ofTime m.time
  if real.day != m.day || real.month != m.month || m.weekday != weekday then failure

def full : DateReader Moment := do
  let weekday ← name dayNames
  char ' '
  let month ← name monthNames
  char ' '
  let day ← digits 2
  char ' '
  let m := blank (← digits 4) (month + 1) day
  demandDate m weekday
  char ' '
  let m ← clockFields m
  let sign ← peek
  if sign == some '+' then char '+' else char '-'
  let hours ← atMost 25 (← digits 2)
  let n := hours * 60 + (← atMost 59 (← digits 2))
  return { m with minute := if sign == some '+' then m.minute - n else m.minute + n }

def universal : DateReader Moment := do
  let weekday ← name dayNames
  for c in [',', ' '] do char c
  let day ← digits 2
  char ' '
  let month ← name monthNames
  char ' '
  let m := blank (← digits 4) (month + 1) day
  demandDate m weekday
  char ' '
  clockFields m

end DateReader

def readTime (text : String) : Float :=
  let complete (r : DateReader Moment) : Option Moment :=
    match r.run text.toList with
    | some (m, []) => some m
    | _ => none
  match [DateReader.international, .full, .universal].findSome? complete with
  | some m => boundedTime m.time
  | none => nan

end PagePreview.Number
