import PagePreview.Number.Shortest
import PagePreview.Script.Tree
import PagePreview.Text.Letter

/-! The machinery of the printer: text under construction, with the few things that later text
depends on. Trees print as they nest, so how the parts of a tree print is a parameter of each rule,
and the rules are tied together in one place. -/

namespace PagePreview.Script.Printer
open Text Number

inductive Sign
  | plus | minus | increment | decrement | not
  deriving DecidableEq

structure Out where
  quote : Char
  text : String := ""
  size : Nat := 0
  last : Char := '\n'
  depth : Nat := 0
  joined : Bool := false
  statementStart : Option Nat := none
  arrowStart : Option Nat := none
  defaultStart : Option Nat := none
  wholeEnd : Option Nat := none
  signEnd : Option (Sign × Nat) := none
  regexEnd : Option Nat := none

abbrev Write := StateM Out

abbrev Level := Nat

namespace Level
def lowest : Level := 0
def comma : Level := 1
def yield : Level := 3
def assign : Level := 4
def conditional : Level := 5
def coalesce : Level := 6
def or : Level := 7
def and : Level := 8
def bitOr : Level := 9
def bitXor : Level := 10
def bitAnd : Level := 11
def equal : Level := 12
def compare : Level := 13
def shift : Level := 14
def add : Level := 15
def multiply : Level := 16
def power : Level := 17
def prefixed : Level := 18
def postfixed : Level := 19
def new : Level := 20
def call : Level := 21
def member : Level := 22
end Level

structure Bans where
  isIn : Bool := false
  call : Bool := false

inductive Part
  | expr (level : Level) (bans : Bans) (e : Expr)
  | stmt (s : Stmt)
  | rest (s : Stmt)
  | type (t : TypeNode)

abbrev Show := Part → Write Unit

def put (s : String) : Write Unit := modify fun o =>
  if s.isEmpty then o
  else { o with text := o.text ++ s, size := o.size + s.length, last := s.back }

def newline : Write Unit := put "\n"

def indent : Write Unit := do
  let o ← get
  if o.joined then
    set { o with joined := false }
    put " "
  else put (String.ofList (List.replicate o.depth '\t'))

def deeper (m : Write Unit) : Write Unit := do
  modify fun o => { o with depth := o.depth + 1 }
  m
  modify fun o => { o with depth := o.depth - 1 }

def endStatement : Write Unit := put ";\n"

def spaceBeforeWord : Write Unit := do
  let o ← get
  if o.size > 0 && (isNameRest o.last || o.regexEnd == some o.size) then put " "

def word (s : String) : Write Unit := do spaceBeforeWord; put s

def wrapIf (wraps : Bool) (m : Write Unit) : Write Unit := do
  if wraps then put "("
  m
  if wraps then put ")"

def commaList {α : Type} (f : α → Write Unit) : List α → Write Unit
  | [] => pure ()
  | [a] => f a
  | a :: as => do f a; put ", "; commaList f as

def braces (isEmpty : Bool) (lines : Write Unit) : Write Unit := do
  put "\x7b"
  if !isEmpty then
    newline
    deeper lines
    indent
  put "\x7d"

def startsAt (start : Out → Option Nat) : Write Bool := do
  let o ← get
  return start o == some o.size

def clash (before after : Sign) : Bool :=
  match before, after with
  | .plus, .plus | .plus, .increment => true
  | .minus, .minus | .minus, .decrement => true
  | _, _ => false

def putSign (text : String) (sign : Option Sign) : Write Unit := do
  let o ← get
  match o.signEnd, sign with
  | some (before, stop), some after => if stop == o.size && clash before after then put " "
  | _, _ => pure ()
  put text
  modify fun o => { o with signEnd := sign.map (·, o.size) }

def hexDigit (n : Nat) : Char := "0123456789ABCDEF".toList.getD n '0'
def lowerHexDigit (n : Nat) : Char := "0123456789abcdef".toList.getD n '0'

def escapeChar (quote : Char) (c : Char) (next : Option Char) : List Char :=
  if c == quote then ['\\', c]
  else match c with
    | '\\' => ['\\', '\\']
    | '\n' => ['\\', 'n']
    | '\r' => ['\\', 'r']
    | '\x08' => ['\\', 'b']
    | '\x0b' => ['\\', 'v']
    | '\x0c' => ['\\', 'f']
    | '\x00' => if next.any isAsciiDigit then "\\x00".toList else "\\0".toList
    | '\x07' => "\\x07".toList
    | '\x1b' => "\\x1B".toList
    | '\u00a0' => "\\xA0".toList
    | '\u2028' => "\\u2028".toList
    | '\u2029' => "\\u2029".toList
    | c => [c]

def escapeText (quote : Char) : List Char → List Char
  | [] => []
  | '<' :: '/' :: rest =>
    let isScript := (rest.take 6).map Char.toLower == "script".toList
    if isScript then '<' :: '\\' :: '/' :: escapeText quote rest
    else '<' :: '/' :: escapeText quote rest
  | c :: rest => escapeChar quote c rest.head? ++ escapeText quote rest

def escapeLone (u : UInt16) : List Char :=
  let n := u.toNat
  ['\\', 'u'] ++ [n / 4096, n / 256 % 16, n / 16 % 16, n % 16].map lowerHexDigit

def escapeUnit (quote : Char) (u : UInt16) : List Char :=
  if Str.isHigh u || Str.isLow u then escapeLone u
  else escapeChar quote (Char.ofNat u.toNat) none

def escapeUnits (quote : Char) : List UInt16 → List Char
  | [] => []
  | [u] => escapeUnit quote u
  | u :: v :: rest =>
    if Str.isHigh u && Str.isLow v then Str.pairChar u v :: escapeUnits quote rest
    else escapeUnit quote u ++ escapeUnits quote (v :: rest)

def stringText (quote : Char) : Str → List Char
  | .plain s => quote :: (escapeText quote s.toList ++ [quote])
  | .units us => quote :: (escapeUnits quote us.toList ++ [quote])

def putString (s : Str) : Write Unit := do
  put (String.ofList (stringText (← get).quote s))

/-- A directive stands as it was written; its quote is one that it does not hold unescaped. -/
def holdsUnescaped (quote : Char) : List Char → Bool
  | [] => false
  | '\\' :: _ :: rest => holdsUnescaped quote rest
  | c :: rest => c == quote || holdsUnescaped quote rest

def putDirective (raw : String) : Write Unit := do
  let preferred := (← get).quote
  let quote := if holdsUnescaped preferred raw.toList then
    (if preferred == '"' then '\'' else '"') else preferred
  put (String.singleton quote ++ raw ++ String.singleton quote)

def shorter (a b : List Char) : List Char := if b.length < a.length then b else a

def smallForm (s : List Char) : List Char :=
  match s with
  | '.' :: '0' :: rest =>
    let digits := rest.dropWhile (· == '0')
    shorter s (digits ++ 'e' :: '-' :: Nat.toDigits 10 (s.length - 1))
  | s => s

def roundForm (s : List Char) : List Char :=
  let base := (s.reverse.dropWhile (· == '0')).reverse
  if base.length = s.length then s
  else shorter s (base ++ 'e' :: Nat.toDigits 10 (s.length - base.length))

def intText (n : Int) : List Char := (toString n).toList

def wholeMantissaForm (s : List Char) : List Char :=
  let whole := s.takeWhile (· != '.')
  match s.dropWhile (· != '.') with
  | '.' :: rest =>
    let point := rest.takeWhile (· != 'e')
    match rest.dropWhile (· != 'e') with
    | 'e' :: e =>
      match (String.ofList e).toInt? with
      | some e => shorter s (whole ++ point ++ 'e' :: intText (e - point.length))
      | none => s
    | _ => s
  | _ => s

def shortNumber (x : Float) : List Char :=
  let plain := scriptLayout.writeMagnitude "0" x
  let isWhole := x.floor == x
  if x < 1000 && isWhole then plain
  else
    let s := match plain with
      | '0' :: '.' :: rest => '.' :: rest
      | s => s
    let s := s.filter (· != '+')
    let (s, isHex) :=
      if isWhole && x < 3.4e38 then
        let hex := '0' :: 'x' :: Nat.toDigits 16 (Binary.ofBits? x.toBits |>.elim 0 fun b =>
          b.mantissa * Nat.pow 2 b.exponent.toNat / Nat.pow 2 (-b.exponent).toNat)
        if hex.length < s.length then (hex, true) else (s, false)
      else (smallForm s, false)
    let s := if isHex then s else roundForm s
    wholeMantissaForm s

def putNumber (level : Level) (x : Float) : Write Unit := do
  if x.isNaN then word "NaN"
  else if isNegativeBits x then
    let text := "-" ++ if x.isInf then "Infinity" else String.ofList (shortNumber x.abs)
    wrapIf (level ≥ Level.prefixed) (putSign text none)
  else if x.isInf then word "Infinity"
  else
    let text := shortNumber x
    word (String.ofList text)
    if !(text.any fun c => c == '.' || c == 'e' || c == 'x') then
      modify fun o => { o with wholeEnd := some o.size }

def textLines (s : List Char) : List (List Char) :=
  go [] s
where
  go (line : List Char) : List Char → List (List Char)
    | [] => [line.reverse]
    | '\r' :: '\n' :: rest => line.reverse :: go [] rest
    | c :: rest =>
      if c == '\n' || c == '\r' || c == '\u2028' || c == '\u2029' then line.reverse :: go [] rest
      else go (c :: line) rest

def putComment (c : Comment) : Write Unit := do
  match textLines c.text.toList with
  | [] => pure ()
  | [_] => put c.text
  | first :: rest =>
    put (String.ofList first)
    for line in rest do
      newline
      indent
      put (String.ofList (line.dropWhile fun c => c == ' ' || c == '\t'))

def putComments (comments : List Comment) : Write Unit := do
  let first (c : Comment) : Write Unit := do
    if c.afterBreak then
      let o ← get
      if o.size > 0 && o.last != '\n' && o.last != '\t' then newline
      if o.last != '\t' then indent
    else indent
  let rec go (isFirst : Bool) : List Comment → Write Unit
    | [] => pure ()
    | c :: rest => do
      if isFirst then first c
      else if c.afterBreak then do newline; indent
      putComment c
      if rest.isEmpty then
        if c.isLine || c.beforeBreak then newline
        else modify fun o => { o with joined := true }
      else go false rest
  go true comments

end PagePreview.Script.Printer
