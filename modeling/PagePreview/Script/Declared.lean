import PagePreview.Script.Walk

/-! What a piece of script declares, read off its tree: the names of variables, of functions, and
of what lives in a block; and the tree without what does not matter when it runs. -/

namespace PagePreview.Script.Declared

def deep : Nat := 100000

mutual

def bareExpr : Nat → Expr → Expr
  | 0, e => e
  | fuel + 1, e =>
    match e with
    | .commented _ e => bareExpr fuel e
    | .paren e => bareExpr fuel e
    | e => Id.run (e.descend { expr := fun e => pure (bareExpr fuel e), stmt := fun s => pure (bareStmt fuel s) })

def bareStmt : Nat → Stmt → Stmt
  | 0, s => s
  | fuel + 1, s =>
    match s with
    | .commented _ s => bareStmt fuel s
    | .remarks _ => .empty
    | s => Id.run (s.descend { expr := fun e => pure (bareExpr fuel e), stmt := fun s => pure (bareStmt fuel s) })

end

def bareBody (depth : Nat) (body : List Stmt) : List Stmt := body.map (bareStmt depth)

def boundFrom : Nat → Expr → List String
  | 0, _ => []
  | fuel + 1, e =>
    match e with
    | .identifier name => [name]
    | .arrayPattern items => items.flatMap (boundFrom fuel)
    | .objectPattern items => items.flatMap (boundFrom fuel)
    | .property _ _ _ value => boundFrom fuel value
    | .defaultPattern target _ => boundFrom fuel target
    | .restPattern target => boundFrom fuel target
    | .restParam _ target _ => boundFrom fuel target
    | .param _ _ target _ _ => boundFrom fuel target
    | .declarator target _ => boundFrom fuel target
    | _ => []

def bound (e : Expr) : List String := boundFrom deep e

def varsFrom : Nat → Stmt → List String
  | 0, _ => []
  | fuel + 1, s =>
    let one := varsFrom fuel
    let all (ss : List Stmt) : List String := ss.flatMap (varsFrom fuel)
    match s with
    | .vars _ .var ds => ds.flatMap bound
    | .block body => all body
    | .cond _ yes no => one yes ++ (no.map one).getD []
    | .loop init _ _ body => (init.map one).getD [] ++ one body
    | .loopIn left _ body => one left ++ one body
    | .loopOf _ left _ body => one left ++ one body
    | .while _ body => one body
    | .doWhile body _ => one body
    | .with _ body => one body
    | .switch _ cases => all cases
    | .case _ body => all body
    | .labeled _ body => one body
    | .try body _ handler finalizer =>
      all body ++ (handler.map all).getD [] ++ (finalizer.map all).getD []
    | .commented _ s => one s
    | _ => []

def vars (body : List Stmt) : List String :=
  (body.flatMap (varsFrom deep)).foldl (fun names n => if names.contains n then names else names ++ [n]) []

def functionFrom : Nat → Stmt → List (String × Expr)
  | fuel + 1, s =>
    match s with
    | .declaration e@(.function (some name) ..) => [(name, e)]
    | .labeled _ s | .commented _ s => functionFrom fuel s
    | _ => []
  | 0, _ => []

def functions (body : List Stmt) : List (String × Expr) := body.flatMap (functionFrom deep)

/-- The names of `let`, `const` and `class` right among statements, with whether they can be set. -/
def lexical (body : List Stmt) : List (String × Bool) :=
  body.flatMap fun s =>
    match s.uncommented with
    | .vars _ .letVar ds => (ds.flatMap bound).map (·, true)
    | .vars _ .const ds => (ds.flatMap bound).map (·, false)
    | .declaration (.class _ _ _ (some name) ..) => [(name, true)]
    | _ => []

def isDirective (s : Stmt) : Bool :=
  match s.uncommented with
  | .directive _ => true
  | _ => false

def isStrict (body : List Stmt) : Bool :=
  (body.takeWhile isDirective).any fun s =>
    match s.uncommented with
    | .directive raw => raw == "use strict"
    | _ => false

mutual

/-- Whether an expression names the arguments of the function that it stands in, or may do so
when it is run. -/
def usesExpr : Nat → Expr → StateM Bool Expr
  | 0, e => pure e
  | fuel + 1, e =>
    match e with
    | .identifier name => do
      if name == "arguments" || name == "eval" then set true
      return e
    | .function .. => return e
    | e => e.descend { expr := usesExpr fuel, stmt := usesStmt fuel }

def usesStmt : Nat → Stmt → StateM Bool Stmt
  | 0, s => pure s
  | fuel + 1, s => s.descend { expr := usesExpr fuel, stmt := usesStmt fuel }

end

def usesArguments (params : List Expr) (body : List Stmt) : Bool :=
  ((do
    let _ ← Visit.list (usesExpr deep) params
    let _ ← Visit.list (usesStmt deep) body : StateM Bool Unit).run false).2

mutual

def makesExpr : Nat → Expr → StateM Bool Expr
  | 0, e => pure e
  | fuel + 1, e =>
    match e with
    | .function .. | .arrow .. | .class .. => do
      set true
      return e
    | e => e.descend { expr := makesExpr fuel, stmt := makesStmt fuel }

def makesStmt : Nat → Stmt → StateM Bool Stmt
  | 0, s => pure s
  | fuel + 1, s => s.descend { expr := makesExpr fuel, stmt := makesStmt fuel }

end

def makesFunctions (params : List Expr) : Bool :=
  ((Visit.list (makesExpr deep) params).run false).2

def plainParam? : Expr → Option String
  | .param _ _ (.identifier name) _ none => some name
  | _ => none

def plainParams? (params : List Expr) : Option (List String) := params.mapM plainParam?

end PagePreview.Script.Declared
