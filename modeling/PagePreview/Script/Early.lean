import PagePreview.Script.Declared

/-! Early complaints about plain scripts: what the tree of a body tells without its being run. Names
are declared once, jumps have targets, and `super` and private names stand where they mean
something. -/

namespace PagePreview.Script.Early
open Declared

def repeatedName : String := "lexical name declared multiple times"

def repeated? : List String → Option String
  | [] => none
  | n :: ns => if ns.contains n then some n else repeated? ns

def paramNames (params : List Expr) : List String := params.flatMap bound

def isSimple (params : List Expr) : Bool := params.all fun p => (plainParam? p).isSome

def blockNames (body : List Stmt) : List (String × Bool) :=
  (lexical body).map (fun (n, _) => (n, false)) ++
    (functions body).map fun (n, f) => (n, match f with
      | .function _ isAsync isGenerator .. => !isAsync && !isGenerator
      | _ => false)

def clashesInBlock (isStrict : Bool) : List (String × Bool) → Bool
  | [] => false
  | (n, isFunction) :: rest =>
    (rest.any fun (m, other) => m == n && (isStrict || !isFunction || !other)) ||
      clashesInBlock isStrict rest

def blockComplaint? (isStrict : Bool) (body : List Stmt) : Option String :=
  let names := blockNames body
  if clashesInBlock isStrict names then some repeatedName
  else if (vars body).any fun n => names.any (·.1 == n) then
    some "lexical name declared in var declared names"
  else none

def clashesInBody (body : List Stmt) : Bool :=
  let names := (lexical body).map (·.1)
  (repeated? names).isSome ||
    (vars body ++ (functions body).map (·.1)).any names.contains

structure Reach where
  labels : List String := []
  loops : List String := []
  inLoop : Bool := false
  inSwitch : Bool := false

def isLoop : Nat → Stmt → Bool
  | 0, _ => false
  | fuel + 1, s =>
    match s with
    | .loop .. | .loopIn .. | .loopOf .. | .while .. | .doWhile .. => true
    | .labeled _ s | .commented _ s => isLoop fuel s
    | _ => false

def firstOf {α : Type} (f : α → Option String) : List α → Option String := fun l => l.findSome? f

def jumpFrom : Nat → Reach → Stmt → Option String
  | 0, _, _ => none
  | fuel + 1, r, s =>
    let one := jumpFrom fuel r
    let all (body : List Stmt) : Option String := firstOf one body
    let loop (body : Stmt) : Option String := jumpFrom fuel { r with inLoop := true } body
    match s with
    | .commented _ s => one s
    | .block body => all body
    | .cond _ yes no => (one yes).or (no.bind one)
    | .loop _ _ _ body | .loopIn _ _ body | .loopOf _ _ _ body | .while _ body | .doWhile body _ =>
      loop body
    | .with _ body => one body
    | .switch _ cases => firstOf (jumpFrom fuel { r with inSwitch := true }) cases
    | .case _ body => all body
    | .try body _ handler finalizer =>
      (all body).or ((handler.bind all).or (finalizer.bind all))
    | .labeled l body =>
      if r.labels.contains l then some ("duplicate label: " ++ l)
      else
        let loops := if isLoop fuel body then l :: r.loops else r.loops
        jumpFrom fuel { r with labels := l :: r.labels, loops } body
    | .break none => if r.inLoop || r.inSwitch then none else some "illegal break statement"
    | .break (some l) => if r.labels.contains l then none else some ("undefined break target: " ++ l)
    | .continue none => if r.inLoop then none else some "illegal continue statement"
    | .continue (some l) =>
      if r.loops.contains l then none else some ("undefined continue target: " ++ l)
    | _ => none

def jumpComplaint? (body : List Stmt) : Option String := firstOf (jumpFrom deep {}) body

inductive Trait
  | parent | parentMember | parentCall | newTarget | awaits | yields
  deriving DecidableEq

def Trait.marks (t : Trait) (e : Expr) : Bool :=
  match t, e with
  | .parent, .super => true
  | .parentMember, .member .super .. => true
  | .parentMember, .index .super .. => true
  | .parentCall, .call .super .. => true
  | .newTarget, .newTarget => true
  | .awaits, .await _ => true
  | .yields, .yield .. => true
  | _, _ => false

mutual

/-- Looks for a trait below an expression. A function in it is on its own, but for an arrow, which
has the parent and the target of the function around it. -/
def seekExpr (t : Trait) : Nat → Expr → StateM Bool Expr
  | 0, e => pure e
  | fuel + 1, e => do
    if t.marks e then set true
    match e with
    | .function .. | .staticBlock _ => return e
    | .arrow .. =>
      if t == .awaits || t == .yields then return e
      else e.descend { expr := seekExpr t fuel, stmt := seekStmt t fuel }
    | .fieldMember _ _ k isComputed _ _ =>
      if isComputed then let _ ← seekExpr t fuel k
      return e
    | e => e.descend { expr := seekExpr t fuel, stmt := seekStmt t fuel }

def seekStmt (t : Trait) : Nat → Stmt → StateM Bool Stmt
  | 0, s => pure s
  | fuel + 1, s => s.descend { expr := seekExpr t fuel, stmt := seekStmt t fuel }

end

def anyExpr (t : Trait) (es : List Expr) : Bool := ((Visit.list (seekExpr t deep) es).run false).2

def anyStmt (t : Trait) (body : List Stmt) : Bool := ((Visit.list (seekStmt t deep) body).run false).2

def privateKey? : Expr → Option String
  | .methodMember _ _ _ (.privateName n) _ _ => some n
  | .fieldMember _ _ (.privateName n) _ _ _ => some n
  | .commented _ (.methodMember _ _ _ (.privateName n) _ _) => some n
  | .commented _ (.fieldMember _ _ (.privateName n) _ _ _) => some n
  | _ => none

mutual

def strayExpr : Nat → List String → Expr → StateM Bool Expr
  | 0, _, e => pure e
  | fuel + 1, names, e => do
    match e with
    | .privateName n => if !names.contains n then set true
    | .privateMember _ _ n => if !names.contains n then set true
    | _ => pure ()
    let names := match e with
      | .class _ _ _ _ _ _ _ _ members => members.filterMap privateKey? ++ names
      | _ => names
    e.descend { expr := strayExpr fuel names, stmt := strayStmt fuel names }

def strayStmt : Nat → List String → Stmt → StateM Bool Stmt
  | 0, _, s => pure s
  | fuel + 1, names, s => s.descend { expr := strayExpr fuel names, stmt := strayStmt fuel names }

end

def strayPrivate (body : List Stmt) : Bool := ((Visit.list (strayStmt deep []) body).run false).2

end PagePreview.Script.Early
