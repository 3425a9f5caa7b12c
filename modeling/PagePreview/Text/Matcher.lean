import PagePreview.Text.Blank

/-! Matchers read a text from a place in it and list every way they can succeed, the preferred way
first. A longest-first repetition lists the longest run first and a shortest-first one the
shortest; taking the head of the list is leftmost-first matching. -/

namespace PagePreview.Text

structure Place where
  behind : Option Char
  ahead : List Char

/-- A stretch of a text: all that lay ahead where it begins, and all that lies ahead where it
ends. -/
structure Span where
  start : List Char
  stop : List Char

def Span.text (s : Span) : List Char := s.start.take (s.start.length - s.stop.length)

def Matcher (α : Type) := Place → List (α × Place)

namespace Matcher

variable {α β : Type}

protected def pure (a : α) : Matcher α := fun p => [(a, p)]

protected def bind (m : Matcher α) (f : α → Matcher β) : Matcher β :=
  fun p => (m p).flatMap fun (a, q) => f a q

instance : Monad Matcher where
  pure := Matcher.pure
  bind := Matcher.bind

protected def orElse (m : Matcher α) (n : Unit → Matcher α) : Matcher α := fun p => m p ++ n () p

instance : OrElse (Matcher α) := ⟨Matcher.orElse⟩

def here (test : Place → Bool) : Matcher Unit := fun p => if test p then [((), p)] else []

def char (test : Char → Bool) : Matcher Char
  | ⟨_, []⟩ => []
  | ⟨_, c :: s⟩ => if test c then [(c, ⟨some c, s⟩)] else []

def word : List Char → Matcher Unit
  | [], p => [((), p)]
  | c :: rest, p =>
    match p.ahead with
    | d :: s => if c = d then word rest ⟨some d, s⟩ else []
    | [] => []

def text (s : String) : Matcher Unit := word s.toList

/-- The ends of the runs of characters that satisfy `test`, from the empty run to the longest. -/
def runs (test : Char → Bool) (behind : Option Char) : List Char → List Place
  | [] => [⟨behind, []⟩]
  | c :: s => ⟨behind, c :: s⟩ :: if test c then runs test (some c) s else []

def spans (p : Place) (ends : List Place) : List (Span × Place) :=
  ends.map fun q => (⟨p.ahead, q.ahead⟩, q)

def span (m : Matcher α) : Matcher Span := fun p => spans p ((m p).map Prod.snd)

def least (test : Char → Bool) : Matcher Span := fun p => spans p (runs test p.behind p.ahead)

def most (test : Char → Bool) : Matcher Span :=
  fun p => spans p (runs test p.behind p.ahead).reverse

def most1 (test : Char → Bool) : Matcher Span := span (do let _ ← char test; most test)

def least1 (test : Char → Bool) : Matcher Span := span (do let _ ← char test; least test)

def opt (m : Matcher α) : Matcher (Option α) := (some <$> m) <|> pure none

def textStart : Matcher Unit := here fun p => p.behind.isNone
def textEnd : Matcher Unit := here fun p => p.ahead.isEmpty

def lineStart : Matcher Unit := here fun p => p.behind.all (· == '\n')

def lineEnd : Matcher Unit := here fun p => p.ahead.head?.all (· == '\n')

def edge (test : Char → Bool) : Matcher Unit :=
  here fun p => p.behind.any test != p.ahead.head?.any test

def blanks : Matcher Span := most isBlank
def blanks1 : Matcher Span := most1 isBlank
def inlineBlanks : Matcher Span := most isInlineBlank

def first? (m : Matcher α) (p : Place) : Option (α × Place) := (m p).head?

def matchStart? (m : Matcher α) (s : List Char) : Option (α × List Char) :=
  (m.first? ⟨none, s⟩).map fun (a, q) => (a, q.ahead)

structure Found (α : Type) where
  skipped : List Char
  value : α
  text : List Char
  rest : Place

def search? (m : Matcher α) (behind : Option Char) : List Char → Option (Found α)
  | [] => (m.first? ⟨behind, []⟩).map fun (a, q) => ⟨[], a, [], q⟩
  | c :: s =>
    match m.first? ⟨behind, c :: s⟩ with
    | some (a, q) => some ⟨[], a, (c :: s).take (s.length + 1 - q.ahead.length), q⟩
    | none => (search? m (some c) s).map fun f => { f with skipped := c :: f.skipped }

def find? (m : Matcher α) (s : List Char) : Option (Found α) := m.search? none s

def occurs (m : Matcher α) (s : List Char) : Bool := (m.find? s).isSome

inductive Piece (α : Type)
  | kept (c : Char)
  | hit (value : α) (text : List Char)

def Piece.value? : Piece α → Option α
  | .kept _ => none
  | .hit a _ => some a

def Piece.write (f : α → List Char → List Char) : Piece α → List Char
  | .kept c => [c]
  | .hit a t => f a t

/-- Cuts a text at the leftmost matches that do not overlap; `skip` characters belong to the match
already reported. -/
def piecesFrom (m : Matcher α) : Nat → Option Char → List Char → List (Piece α)
  | _, _, [] => []
  | skip + 1, _, c :: s => piecesFrom m skip (some c) s
  | 0, behind, c :: s =>
    match m.first? ⟨behind, c :: s⟩ with
    | some (a, q) =>
      let size := s.length + 1 - q.ahead.length
      .hit a ((c :: s).take size) :: piecesFrom m (size - 1) (some c) s
    | none => .kept c :: piecesFrom m 0 (some c) s

def pieces (m : Matcher α) (s : List Char) : List (Piece α) := m.piecesFrom 0 none s

def values (m : Matcher α) (s : List Char) : List α := (m.pieces s).filterMap Piece.value?

def rewrite (m : Matcher α) (f : α → List Char → List Char) (s : List Char) : List Char :=
  (m.pieces s).flatMap (Piece.write f)

def erase (m : Matcher α) (s : List Char) : List Char := m.rewrite (fun _ _ => []) s

end Matcher
end PagePreview.Text
