import PagePreview.Script.Grammar.Statement

/-! The grammar tied together: the tree of a source, or the first complaint about it. -/

namespace PagePreview.Script
namespace Grammar

def rule (self : Meet) : {α : Type} → Goal α → Rule α
  | _, .expression => expression self
  | _, .assignment allowsResult => assignment self allowsResult
  | _, .binary bound => binary self bound
  | _, .unary => unary self
  | _, .statement => statement self
  | _, .pattern => pattern self
  | _, .type => type self
  | _, .element isInner => element self isInner
  | _, .functionBody => functionBody self
  | _, .function => functionOf self false false false

def meet : Nat → {α : Type} → Goal α → Rule α
  | 0, _, _ => unexpected
  | fuel + 1, _, goal => fun s => rule (meet fuel) goal s

end Grammar

/-- What reading a source gives: a tree, and the complaints in the order they are reported. -/
structure Reading where
  program : Option Program
  faults : List Fault

def splitHashbang : List Char → Option String × List Char
  | '#' :: '!' :: rest =>
    let line := rest.takeWhile (!Lexer.isLineBreak ·)
    (some (String.ofList line), rest.drop line.length)
  | source => (none, source)

open Grammar in
def Program.read (dialect : Dialect) (source : List Char) : Reading :=
  let fuel := source.length + 2
  let (hashbang, rest) := splitHashbang source
  let first := Lexer.firstToken fuel rest (source.length - rest.length)
  let start : State :=
    { dialect, fuel, token := first, lexerFaults := first.faults.reverse }
  let close (s : State) (program : Option Program) (last : List Fault) : Reading :=
    let open' := s.openDefaults.map fun (_, place) => ⟨"Invalid assignment in object literal", place⟩
    { program, faults := s.lexerFaults.reverse ++ s.faults.reverse ++ last ++
        (if last.isEmpty then open' else []) }
  let depth := 8 * fuel
  match topStatements (meet depth) start with
  | .ok body s => close s (some { hashbang, body, depth }) []
  | .error e s => close s none [e]

end PagePreview.Script
