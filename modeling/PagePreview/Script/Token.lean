import PagePreview.Number.Reading
import PagePreview.Script.Tree
import PagePreview.Text.Letter

/-! Tokens of scripts. The lexer gives one token at a time, since what a slash, a brace or a text
begins depends on where it stands. -/

namespace PagePreview.Script
open Text Number

structure Fault where
  message : String
  position : Nat := 0

inductive TokenKind
  | eof | unknown | word | privateName | number | bigint | string | template | regex | jsxText | mark
  deriving DecidableEq

structure Token where
  kind : TokenKind
  text : String := ""
  start : Nat := 0
  stop : Nat := 0
  ahead : List Char := []
  rest : List Char := []
  afterBreak : Bool := false
  /-- A word spelled with an escape is no keyword; an escape in a string makes it no directive. -/
  escaped : Bool := false
  str : Option Str := none
  number : Float := 0
  natural : Nat := 0
  flags : String := ""
  isTail : Bool := false
  comments : List Comment := []
  legacyOctal : Bool := false
  faults : List Fault := []

instance : Inhabited Token := ⟨{ kind := .eof }⟩

def Token.spelling (t : Token) : String :=
  match t.kind with
  | .privateName => "#" ++ t.text
  | .regex => "/" ++ t.text ++ "/" ++ t.flags
  | .string => (t.str.getD .empty).display
  | _ => t.text

namespace Lexer

def isLineBreak (c : Char) : Bool := c == '\n' || c == '\r' || c == '\u2028' || c == '\u2029'

def isSpace (c : Char) : Bool :=
  c == ' ' || c == '\t' || c == '\x0b' || c == '\x0c' || c == '\u00a0' || c == '\ufeff' ||
    c == '\u1680' || ('\u2000' ≤ c && c ≤ '\u200a') || c == '\u202f' || c == '\u205f' || c == '\u3000'

structure Trivia where
  rest : List Char
  pos : Nat
  sawBreak : Bool
  afterBreak : Bool := false
  pending : List Comment := []
  fault : Option Fault := none

/-- The end of a line: comments that follow a token on its own line are not in front of the next. -/
def Trivia.lineEnds (t : Trivia) : Trivia :=
  let pending := match t.pending with
    | [] => []
    | c :: cs => if t.sawBreak then { c with beforeBreak := true } :: cs else []
  { t with pending, sawBreak := true, afterBreak := true }

def blockComment : List Char → List Char → Option (List Char × List Char)
  | '*' :: '/' :: rest, done => some (('/' :: '*' :: done).reverse, rest)
  | c :: rest, done => blockComment rest (c :: done)
  | [], _ => none

/-- Skips white space and comments; `leads` tells that the token before lets a comment on its own
line lead the next token. -/
def skipTrivia (leads : Bool) : Nat → Trivia → Trivia
  | 0, t => t
  | fuel + 1, t =>
    match t.rest with
    | '/' :: '/' :: rest =>
      let text := rest.takeWhile (!isLineBreak ·)
      let rest := rest.drop text.length
      let comment : Comment :=
        { isLine := true, text := String.ofList ('/' :: '/' :: text), afterBreak := t.sawBreak
          beforeBreak := true }
      let pending := if t.sawBreak || leads then comment :: t.pending else []
      skipTrivia leads fuel
        { t with rest, pos := t.pos + text.length + 2, pending, sawBreak := true }
    | '/' :: '*' :: rest =>
      match blockComment rest ['*', '/'] with
      | some (text, rest) =>
        let comment : Comment :=
          { isLine := false, text := String.ofList text, afterBreak := t.sawBreak
            beforeBreak := false }
        skipTrivia leads fuel
          { t with rest, pos := t.pos + text.length, pending := comment :: t.pending
                   afterBreak := t.afterBreak || text.any isLineBreak }
      | none =>
        { t with rest := [], pos := t.pos + rest.length + 2
                 fault := some ⟨"Unterminated multiline comment", t.pos⟩ }
    | c :: rest =>
      if isLineBreak c then skipTrivia leads fuel { t with rest, pos := t.pos + 1 }.lineEnds
      else if isSpace c then skipTrivia leads fuel { t with rest, pos := t.pos + 1 }
      else t
    | [] => t

def hexDigits (n : Nat) (s : List Char) : Option (Nat × List Char) :=
  let digits := s.take n
  if digits.length = n && digits.all (isDigitIn 16) then some (ofDigits 16 digits, s.drop n) else none

def unicodeEscape (s : List Char) : Option (Nat × List Char) :=
  match s with
  | '\x7b' :: rest =>
    let digits := rest.takeWhile (isDigitIn 16)
    match rest.drop digits.length with
    | '\x7d' :: rest =>
      let n := ofDigits 16 digits
      if digits.isEmpty || n > 0x10FFFF then none else some (n, rest)
    | _ => none
  | s => hexDigits 4 s

def unitsOfCode (n : Nat) : List UInt16 :=
  if n < 0x10000 then [n.toUInt16] else Str.unitsOfChar (Char.ofNat n)

inductive Escape
  | units (us : List UInt16) (rest : List Char)
  | octal (value : Nat) (rest : List Char)
  | invalid (rest : List Char)

def octalEscape (s : List Char) : Nat × List Char :=
  let digits := s.takeWhile (isDigitIn 8)
  let count := if (digits.headD '0').toNat ≤ '3'.toNat then 3 else 2
  let digits := digits.take count
  (ofDigits 8 digits, s.drop digits.length)

def escape : List Char → Escape
  | [] => .invalid []
  | c :: rest =>
    let one (n : Nat) : Escape := .units [n.toUInt16] rest
    match c with
    | 'n' => one 10
    | 'r' => one 13
    | 't' => one 9
    | 'b' => one 8
    | 'f' => one 12
    | 'v' => one 11
    | '\r' => .units [] (match rest with | '\n' :: r => r | r => r)
    | 'x' =>
      match hexDigits 2 rest with
      | some (n, rest) => .units [n.toUInt16] rest
      | none => .invalid rest
    | 'u' =>
      match unicodeEscape rest with
      | some (n, rest) => .units (unitsOfCode n) rest
      | none => .invalid rest
    | '0' =>
      if rest.head?.any isAsciiDigit then
        let (n, rest) := octalEscape (c :: rest)
        .octal n rest
      else one 0
    | c =>
      if isLineBreak c then .units [] rest
      else if isDigitIn 8 c then
        let (n, rest) := octalEscape (c :: rest)
        .octal n rest
      else if c == '8' || c == '9' then .octal c.toNat rest
      else .units (Str.unitsOfChar c) rest

def wordChars : Nat → Bool → List Char → List Char → List Char × List Char × Bool × Bool
  | 0, _, s, done => (done.reverse, s, false, true)
  | fuel + 1, isFirst, s, done =>
    let fits (c : Char) : Bool := if isFirst then isNameStart c else isNameRest c
    match s with
    | '\\' :: 'u' :: rest =>
      match unicodeEscape rest with
      | some (n, rest) =>
        let c := Char.ofNat n
        if fits c then
          let (name, rest, _, ok) := wordChars fuel false rest (c :: done)
          (name, rest, true, ok)
        else (done.reverse, rest, true, false)
      | none => (done.reverse, rest, true, false)
    | '\\' :: rest => (done.reverse, rest, true, false)
    | c :: rest =>
      if fits c then wordChars fuel false rest (c :: done) else (done.reverse, s, false, true)
    | [] => (done.reverse, [], false, true)

structure Literal where
  rest : List Char
  units : Array UInt16 := #[]
  escaped : Bool := false
  octal : Bool := false
  invalid : Bool := false
  closed : Bool := false

def stringChars (quote : Char) : Nat → Literal → Literal
  | 0, l => l
  | fuel + 1, l =>
    match l.rest with
    | [] => l
    | '\\' :: rest =>
      match escape rest with
      | .units us rest =>
        stringChars quote fuel { l with rest, units := l.units ++ us.toArray, escaped := true }
      | .octal n rest =>
        stringChars quote fuel
          { l with rest, units := l.units.push n.toUInt16, escaped := true, octal := true }
      | .invalid rest => stringChars quote fuel { l with rest, escaped := true, invalid := true }
    | c :: rest =>
      if c == quote then { l with rest, closed := true }
      else if c == '\n' || c == '\r' then l
      else stringChars quote fuel { l with rest, units := l.units ++ (Str.unitsOfChar c).toArray }

def templateChars : Nat → Literal → Literal × Bool
  | 0, l => (l, true)
  | fuel + 1, l =>
    match l.rest with
    | [] => (l, true)
    | '\x60' :: rest => ({ l with rest, closed := true }, true)
    | '$' :: '\x7b' :: rest => ({ l with rest, closed := true }, false)
    | '\\' :: rest =>
      match escape rest with
      | .units us rest => templateChars fuel { l with rest, units := l.units ++ us.toArray }
      | .octal _ rest => templateChars fuel { l with rest, invalid := true }
      | .invalid rest => templateChars fuel { l with rest, invalid := true }
    | '\r' :: '\n' :: rest => templateChars fuel { l with rest, units := l.units.push 10 }
    | '\r' :: rest => templateChars fuel { l with rest, units := l.units.push 10 }
    | c :: rest => templateChars fuel { l with rest, units := l.units ++ (Str.unitsOfChar c).toArray }

def unifyBreaks : List Char → List Char
  | '\r' :: '\n' :: rest => '\n' :: unifyBreaks rest
  | '\r' :: rest => '\n' :: unifyBreaks rest
  | c :: rest => c :: unifyBreaks rest
  | [] => []

def between (ahead rest : List Char) : List Char := ahead.take (ahead.length - rest.length)

def finish (t : Token) (rest : List Char) : Token :=
  { t with rest, stop := t.start + (t.ahead.length - rest.length) }

/-- A piece of a template; `open'` is what stands before it: a backtick or a closing brace. -/
def templatePiece (fuel : Nat) (t : Token) : Token :=
  let (l, isTail) := templateChars fuel { rest := t.ahead.drop 1 }
  if !l.closed then
    finish { t with kind := .unknown, faults := t.faults ++ [⟨"Unterminated string", t.start⟩] } []
  else
    let raw := between (t.ahead.drop 1) l.rest
    let raw := unifyBreaks (raw.take (raw.length - if isTail then 1 else 2))
    finish { t with
      kind := .template, text := String.ofList raw, isTail
      str := if l.invalid then none else some (Str.ofUnits l.units) } l.rest

def stringToken (fuel : Nat) (quote : Char) (t : Token) : Token :=
  let l := stringChars quote fuel { rest := t.ahead.drop 1 }
  if !l.closed then
    finish { t with kind := .unknown, faults := t.faults ++ [⟨"Unterminated string", t.start⟩] } l.rest
  else
    let raw := between t.ahead l.rest
    finish { t with
      kind := .string, text := String.ofList ((raw.drop 1).take (raw.length - 2))
      str := some (Str.ofUnits l.units), escaped := l.escaped, legacyOctal := l.octal
      faults := t.faults ++ if l.invalid then [⟨"Invalid escape sequence", t.start⟩] else [] } l.rest

def digitRun (base : Nat) (s : List Char) : List Char × List Char × Bool :=
  let run := s.takeWhile fun c => isDigitIn base c || c == '_'
  let digits := run.filter (· != '_')
  let parted (l : List Char) : Bool := l.head? == some '_' || l.getLast? == some '_' ||
    (l.zip (l.drop 1)).any fun (a, b) => a == '_' && b == '_'
  (digits, s.drop run.length, !parted run)

def numberEnd (t : Token) (rest : List Char) : Token :=
  let bad := rest.head?.any fun c => isNameStart c || isAsciiDigit c || c == '\\'
  if bad then
    finish { t with
      kind := .unknown, faults := t.faults ++ [⟨"Invalid characters after number", t.start⟩] }
      (rest.dropWhile isNameRest)
  else
    let t := finish t rest
    { t with text := String.ofList (between t.ahead rest) }

def invalidNumber (t : Token) (rest : List Char) : Token :=
  finish { t with kind := .unknown, faults := t.faults ++ [⟨"Invalid Number", t.start⟩] } rest

def basedNumber (base : Nat) (t : Token) : Token :=
  let (digits, rest, ok) := digitRun base (t.ahead.drop 2)
  let n := ofDigits base digits
  if digits.isEmpty || !ok then invalidNumber t rest
  else match rest with
    | 'n' :: rest => numberEnd { t with kind := .bigint, natural := n } rest
    | rest => numberEnd { t with kind := .number, number := ofWhole n, natural := n } rest

def exponentOf (s : List Char) : Option (Int × List Char) :=
  match s with
  | c :: rest =>
    if c == 'e' || c == 'E' then
      let (sign, rest) := match rest with
        | '+' :: rest => (1, rest)
        | '-' :: rest => (-1, rest)
        | rest => (1, rest)
      let (digits, rest, ok) := digitRun 10 rest
      if digits.isEmpty || !ok then none
      else some (sign * (ofDigits 10 digits : Int), rest)
    else some (0, s)
  | [] => some (0, s)

def decimalNumber (t : Token) : Token :=
  let (whole, rest, ok) := digitRun 10 t.ahead
  match rest with
  | 'n' :: rest =>
    if ok && (whole.length = 1 || whole.head? != some '0') then
      numberEnd { t with kind := .bigint, natural := ofDigits 10 whole } rest
    else invalidNumber t rest
  | _ =>
    let (fraction, rest, ok') := match rest with
      | '.' :: rest => digitRun 10 rest
      | rest => ([], rest, true)
    match exponentOf rest with
    | none => invalidNumber t (rest.drop 1)
    | some (e, rest) =>
      if !ok || !ok' then invalidNumber t rest
      else numberEnd { t with
        kind := .number
        number := ofDecimal (ofDigits 10 (whole ++ fraction)) (e - fraction.length) } rest

def numberToken (t : Token) : Token :=
  match t.ahead with
  | '0' :: c :: _ =>
    if c == 'x' || c == 'X' then basedNumber 16 t
    else if c == 'o' || c == 'O' then basedNumber 8 t
    else if c == 'b' || c == 'B' then basedNumber 2 t
    else if isAsciiDigit c then
      let digits := t.ahead.takeWhile isAsciiDigit
      if digits.all (isDigitIn 8) then
        numberEnd { t with kind := .number, number := ofWhole (ofDigits 8 digits), legacyOctal := true }
          (t.ahead.drop digits.length)
      else decimalNumber { t with legacyOctal := true }
    else if c == '_' then numberEnd { t with kind := .number } (t.ahead.drop 1)
    else decimalNumber t
  | _ => decimalNumber t

/-- Marks, the longer before the shorter; a closing angle bracket is always alone at first. -/
def marks : List (List Char) := [
  "...", "===", "!==", "**=", "<<=", "&&=", "||=", "??=",
  "=>", "==", "!=", "<=", "++", "--", "<<", "&&", "||", "??", "?.", "**",
  "+=", "-=", "*=", "/=", "%=", "&=", "|=", "^=",
  "\x7b", "\x7d", "(", ")", "[", "]", ";", ",", "<", ">", "+", "-", "*", "/", "%", "&", "|", "^",
  "!", "~", "?", ":", "=", ".", "@"].map String.toList

def startsWithMark (s mark : List Char) : Bool :=
  startsWith mark s && !(mark == ['?', '.'] && (s.drop 2).head?.any isAsciiDigit)
where
  startsWith : List Char → List Char → Bool
    | [], _ => true
    | _, [] => false
    | a :: as, b :: bs => a == b && startsWith as bs

def strayCharacter (c : Char) (place : Nat) : Fault := ⟨"Invalid Character \x60" ++ String.singleton c ++ "\x60", place⟩

def scan (fuel : Nat) (t : Token) : Token :=
  match t.ahead with
  | [] => { t with kind := .eof, rest := [], stop := t.start }
  | c :: rest =>
    if isNameStart c || (c == '\\') then
      let (name, rest, escaped, ok) := wordChars fuel true t.ahead []
      if ok then finish { t with kind := .word, text := String.ofList name, escaped } rest
      else finish { t with
        kind := .unknown, faults := t.faults ++ [⟨"Invalid Unicode escape sequence", t.start⟩] } rest
    else if isAsciiDigit c || (c == '.' && rest.head?.any isAsciiDigit) then numberToken t
    else if c == '"' || c == '\'' then stringToken fuel c t
    else if c == '\x60' then templatePiece fuel t
    else if c == '#' then
      let (name, rest', escaped, ok) := wordChars fuel true rest []
      if ok && !name.isEmpty then
        finish { t with kind := .privateName, text := String.ofList name, escaped } rest'
      else
        let bad := (rest.headD ' ')
        finish { t with
          kind := .unknown
          faults := t.faults ++ [strayCharacter bad t.start] } rest
    else match marks.find? (startsWithMark t.ahead) with
      | some mark => finish { t with kind := .mark, text := String.ofList mark } (t.ahead.drop mark.length)
      | none =>
        finish { t with
          kind := .unknown
          faults := t.faults ++ [strayCharacter c t.start] } rest

def nextToken (fuel : Nat) (before : Token) : Token :=
  let leads := before.kind == .mark && (before.text == "(" || before.text == "=")
  let t := skipTrivia leads fuel { rest := before.rest, pos := before.stop, sawBreak := false }
  scan fuel {
    kind := .eof, start := t.pos, ahead := t.rest, afterBreak := t.afterBreak
    comments := t.pending.reverse, faults := t.fault.toList }

def firstToken (fuel : Nat) (source : List Char) (pos : Nat) : Token :=
  let t := skipTrivia false fuel { rest := source, pos, sawBreak := true, afterBreak := true }
  scan fuel {
    kind := .eof, start := t.pos, ahead := t.rest, afterBreak := true
    comments := t.pending.reverse, faults := t.fault.toList }

def regexBody (inClass : Bool) : List Char → List Char → Option (List Char × List Char)
  | [], _ => none
  | '\\' :: c :: rest, done =>
    if isLineBreak c then none else regexBody inClass rest (c :: '\\' :: done)
  | c :: rest, done =>
    if isLineBreak c then none
    else if c == '/' && !inClass then some (done.reverse, rest)
    else if c == '[' then regexBody true rest (c :: done)
    else if c == ']' then regexBody false rest (c :: done)
    else regexBody inClass rest (c :: done)

/-- What is wrong with the first flag of a regular expression that is unknown or comes again. -/
def flagComplaint? (flags : List Char) : Option String :=
  let rec go : List Char → List Char → Option String
    | _, [] => none
    | seen, c :: rest =>
      let flag := String.singleton c
      if !"dgimsuvy".toList.contains c then
        some ("Unexpected flag " ++ flag ++ " in regular expression literal")
      else if seen.contains c then
        some ("Flag " ++ flag ++ " is mentioned twice in regular expression literal")
      else go (c :: seen) rest
  go [] flags

def asRegex (t : Token) : Token :=
  match regexBody false (t.ahead.drop 1) [] with
  | none =>
    finish { t with
      kind := .unknown, faults := [⟨"Unterminated regular expression", t.start⟩] } []
  | some (body, rest) =>
    let flags := rest.takeWhile isNameRest
    let faults := (flagComplaint? flags).toList.map (Fault.mk · t.start)
    finish { t with
      kind := .regex, text := String.ofList body, flags := String.ofList flags, faults }
      (rest.drop flags.length)

def asGreater (t : Token) : Token :=
  let text := if startsWithMark t.ahead ">>>=".toList then ">>>="
    else if startsWithMark t.ahead ">>>".toList then ">>>"
    else if startsWithMark t.ahead ">>=".toList then ">>="
    else if startsWithMark t.ahead ">>".toList then ">>"
    else if startsWithMark t.ahead ">=".toList then ">="
    else ">"
  finish { t with text } (t.ahead.drop text.length)

def asLess (t : Token) : Token := finish { t with text := "<" } (t.ahead.drop 1)

def asTemplate (fuel : Nat) (t : Token) : Token := templatePiece fuel t

def asMarkupName (t : Token) : Token :=
  if t.kind == .word then
    let more := t.rest.takeWhile fun c => isNameRest c || c == '-'
    if more.contains '-' then
      finish { t with text := t.text ++ String.ofList more } (t.rest.drop more.length)
    else t
  else t

def markupString (quote : Char) (t : Token) : Token :=
  let inner := (t.ahead.drop 1).takeWhile (· != quote)
  match (t.ahead.drop 1).drop inner.length with
  | _ :: rest =>
    finish { t with kind := .string, text := String.ofList inner, faults := [] } rest
  | [] => finish { t with kind := .unknown, faults := [⟨"Unterminated string", t.start⟩] } []

def nextInTag (fuel : Nat) (before : Token) : Token :=
  let t := nextToken fuel before
  match t.ahead with
  | '"' :: _ => markupString '"' t
  | '\'' :: _ => markupString '\'' t
  | _ => t

def nextInMarkup (before : Token) : Token :=
  let t : Token := { kind := .eof, start := before.stop, ahead := before.rest }
  match t.ahead with
  | [] => { t with rest := [], stop := t.start }
  | '\x7b' :: rest => finish { t with kind := .mark, text := "\x7b" } rest
  | '<' :: rest => finish { t with kind := .mark, text := "<" } rest
  | _ =>
    let text := t.ahead.takeWhile fun c => c != '\x7b' && c != '<'
    let plain := text.takeWhile fun c => c != '\x7d' && c != '>'
    let faults : List Fault := match text.drop plain.length with
      | '\x7d' :: _ => [⟨"Unexpected token. Did you mean \x60\x7b'\x7d'\x7d\x60 or \x60&rbrace;\x60?", t.start + plain.length⟩]
      | '>' :: _ => [⟨"Unexpected token. Did you mean \x60\x7b'>'\x7d\x60 or \x60&gt;\x60?", t.start + plain.length⟩]
      | _ => []
    finish { t with kind := .jsxText, text := String.ofList text, faults } (t.ahead.drop text.length)

end Lexer
end PagePreview.Script
