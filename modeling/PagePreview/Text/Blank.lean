/-! Blanks: the characters that separate words, and the trimming and splitting built on them. -/

namespace PagePreview.Text

/-- The white-space characters of Unicode. The zero-width space and the byte-order mark are not
among them. -/
def isBlank (c : Char) : Bool :=
  let n := c.toNat
  (9 ≤ n && n ≤ 13) || n == 0x20 || n == 0x85 || n == 0xA0 || n == 0x1680 ||
    (0x2000 ≤ n && n ≤ 0x200A) || n == 0x2028 || n == 0x2029 || n == 0x202F || n == 0x205F ||
    n == 0x3000

def isInlineBlank (c : Char) : Bool := c == ' ' || c == '\t'

def dropWhileEnd (p : Char → Bool) : List Char → List Char
  | [] => []
  | c :: rest =>
    match dropWhileEnd p rest with
    | [] => if p c then [] else [c]
    | kept => c :: kept

def trimStart (s : List Char) : List Char := s.dropWhile isBlank
def trimEnd (s : List Char) : List Char := dropWhileEnd isBlank s
def trim (s : List Char) : List Char := trimEnd (trimStart s)

def splitAt (p : Char → Bool) : List Char → List (List Char)
  | [] => [[]]
  | c :: rest =>
    match splitAt p rest with
    | [] => [[]]
    | part :: parts => if p c then [] :: part :: parts else (c :: part) :: parts

def words (s : List Char) : List (List Char) := (splitAt isBlank s).filter (· ≠ [])

def after? : List Char → List Char → Option (List Char)
  | [], s => some s
  | _ :: _, [] => none
  | p :: start, c :: s => if p = c then after? start s else none

def before? (stop s : List Char) : Option (List Char) :=
  (after? stop.reverse s.reverse).map List.reverse

def startsWith (start s : List Char) : Bool := (after? start s).isSome

def holds (part : List Char) : List Char → Bool
  | [] => part.isEmpty
  | c :: s => startsWith part (c :: s) || holds part s

/-- Every occurrence of `old` (not empty) becomes `new`; `skip` characters of an occurrence are
still to be dropped. -/
def replaceFrom (old new : List Char) : Nat → List Char → List Char
  | _, [] => []
  | skip + 1, _ :: s => replaceFrom old new skip s
  | 0, c :: s =>
    if startsWith old (c :: s) then new ++ replaceFrom old new (old.length - 1) s
    else c :: replaceFrom old new 0 s

def replaceAll (old new s : List Char) : List Char := replaceFrom old new 0 s

def endsLine (s : List Char) : Bool := s.getLast? == some '\n'

end PagePreview.Text
