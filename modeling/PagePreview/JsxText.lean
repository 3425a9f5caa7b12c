import PagePreview.Text.Letter
import PagePreview.Text.Matcher

/-! The text of typed markup: white space between lines collapses, and character references stand
for characters. -/

namespace PagePreview.JsxText
open Text Matcher

def named : List (String × Char) := [
  ("amp", '&'), ("lt", '<'), ("gt", '>'), ("quot", '"'), ("apos", '\''), ("nbsp", '\u00a0'),
  ("copy", '©'), ("reg", '®'), ("trade", '™'), ("hellip", '…'), ("mdash", '—'), ("ndash", '–'),
  ("lsquo", '‘'), ("rsquo", '’'), ("ldquo", '“'), ("rdquo", '”'), ("laquo", '«'), ("raquo", '»'),
  ("bull", '•'), ("middot", '·'), ("times", '×'), ("divide", '÷'), ("deg", '°'), ("euro", '€'),
  ("pound", '£'), ("yen", '¥'), ("cent", '¢'), ("sect", '§'), ("para", '¶'), ("larr", '←'),
  ("rarr", '→'), ("uarr", '↑'), ("darr", '↓'), ("hearts", '♥'), ("check", '✓')]

inductive CharRef
  | decimal (digits : Span)
  | hexadecimal (digits : Span)
  | word (name : Span)

def isHexDigit (c : Char) : Bool :=
  isAsciiDigit c || ('a' ≤ c && c ≤ 'f') || ('A' ≤ c && c ≤ 'F')

def hexValue (c : Char) : Nat :=
  if isAsciiDigit c then c.toNat - 48 else if 'a' ≤ c then c.toNat - 87 else c.toNat - 55

def numeral (base : Nat) (digits : List Char) : Nat :=
  digits.foldl (fun n c => n * base + hexValue c) 0

def charRef : Matcher CharRef := do
  text "&"
  let ref ←
    (do text "#"; .decimal <$> most1 isAsciiDigit) <|>
    (do text "#"
        let _ ← char fun c => c == 'x' || c == 'X'
        .hexadecimal <$> most1 isHexDigit) <|>
    (.word <$> span do
      let _ ← char isAsciiLetter
      most fun c => isAsciiLetter c || isAsciiDigit c)
  text ";"
  pure ref

def scalar? (n : Nat) : Option Char := if n.isValidChar then some (Char.ofNat n) else none

def CharRef.char? : CharRef → Option Char
  | .decimal digits => scalar? (numeral 10 digits.text)
  | .hexadecimal digits => scalar? (numeral 16 digits.text)
  | .word name => named.lookup (String.ofList name.text)

def decode (s : List Char) : List Char :=
  charRef.rewrite (fun ref whole => match ref.char? with | some c => [c] | none => whole) s

def unifyBreaks : List Char → List Char
  | '\r' :: '\n' :: s => '\n' :: unifyBreaks s
  | '\r' :: s => '\n' :: unifyBreaks s
  | c :: s => c :: unifyBreaks s
  | [] => []

def cleanLine (isFirst isLast : Bool) (line : List Char) : List Char :=
  let line := line.map fun c => if c = '\t' then ' ' else c
  let line := if isFirst then line else line.dropWhile (· == ' ')
  if isLast then line else dropWhileEnd (· == ' ') line

def isBlankLine (line : List Char) : Bool := line.all isInlineBlank

def joinLines (isFirst : Bool) : List (List Char) → List Char
  | [] => []
  | line :: lines =>
    let cleaned := cleanLine isFirst lines.isEmpty line
    let isLastText := lines.all isBlankLine && !isBlankLine line
    (if cleaned.isEmpty then [] else if isLastText then cleaned else cleaned ++ [' ']) ++
      joinLines false lines

def clean (raw : List Char) : Option (List Char) :=
  match joinLines true (splitAt (· == '\n') (unifyBreaks raw)) with
  | [] => none
  | s => some (decode s)

end PagePreview.JsxText
