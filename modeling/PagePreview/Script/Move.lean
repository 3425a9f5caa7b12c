import PagePreview.Script.Declared

/-! Bodies that can stop on the way: a body that hands out values is laid out as moves, so that it
can stop between any two of them. What was worked out before a stop and is needed behind it is kept
under names of its own. -/

namespace PagePreview.Script

inductive Entrance
  | count | test | body

inductive Move
  | run (s : Stmt)
  /-- Hands out a value, or all values of an iterator; what comes back is kept under a name. -/
  | hand (isDelegate : Bool) (value : Option Expr) (keep : String)
  | block (source : List Stmt) (moves : List Move)
  | cond (test : Expr) (yes no : List Move)
  /-- A loop, with what is done first, before each test and behind each turn. Each turn has its own
  of the names that are declared. -/
  | loop (labels : List String) (entrance : Entrance) (declared : List (String × Bool))
      (init before : List Move) (test : Option Expr) (after body : List Move)
  | each (labels : List String) (isNames : Bool) (left : Stmt) (right : Expr) (body : List Move)
  | switch (subject : Expr) (source : List Stmt) (cases : List (Option Expr × List Move))
  | labeled (labels : List String) (moves : List Move)
  | guard (source : List Stmt) (body : List Move) (param : Option Expr)
      (handler finalizer : Option (List Stmt × List Move))

namespace Move

mutual

def handsExpr : Nat → Expr → StateM Bool Expr
  | 0, e => pure e
  | fuel + 1, e =>
    match e with
    | .yield .. => do
      set true
      return e
    | .function .. | .arrow .. => return e
    | e => e.descend { expr := handsExpr fuel, stmt := handsStmt fuel }

def handsStmt : Nat → Stmt → StateM Bool Stmt
  | 0, s => pure s
  | fuel + 1, s => s.descend { expr := handsExpr fuel, stmt := handsStmt fuel }

end

def hands (e : Expr) : Bool := ((handsExpr Declared.deep e).run false).2

def handsIn (s : Stmt) : Bool := ((handsStmt Declared.deep s).run false).2

abbrev Layout := StateM Nat

def keptName (i : Nat) : String := "#" ++ toString i

def freshName : Layout String := modifyGet fun n => (keptName n, n + 1)

def keep (e : Expr) (name : String) : Move := .run (.expression (.assign .plain (.identifier name) e))

def isFixed : Expr → Bool
  | .null | .bool _ | .number .. | .string .. | .bigint _ | .hole | .this | .super => true
  | .function .. | .arrow .. | .method _ _ false _ => true
  | .property _ false _ (.function ..) | .property _ false _ (.arrow ..) => true
  | .identifier name => name.startsWith "#"
  | _ => false

inductive Parting
  | declare (isDeclare : Bool) (kind : VariableKind)
  | assign

def part (use : Parting) (target : Expr) (kept : String) : Move :=
  match use with
  | .declare isDeclare kind => .run (.vars isDeclare kind [.declarator target (some (.identifier kept))])
  | .assign => .run (.expression (.assign .plain target (.identifier kept)))

def isMissing (kept : String) : Expr := .binary .same (.identifier kept) (.unary .void (.number 0 "0"))

def memberKeys (members : List Expr) : List Expr :=
  members.filterMap fun
    | .methodMember _ _ _ k true _ => some k
    | .fieldMember _ _ k true _ _ => some k
    | _ => none

def withKeys : List Expr → List Expr → List Expr
  | [], _ => []
  | .methodMember ds mods kind _ true f :: ms, k :: ks =>
    .methodMember ds mods kind k true f :: withKeys ms ks
  | .fieldMember ds mods _ true t v :: ms, k :: ks => .fieldMember ds mods k true t v :: withKeys ms ks
  | m :: ms, ks => m :: withKeys ms ks

mutual

def ofExpr : Nat → Expr → Layout (List Move × Expr)
  | 0, e => return ([], e)
  | fuel + 1, e => do
    if !hands e then return ([], e)
    match e with
    | .yield isDelegate value => do
      let (ms, value) ← match value with
        | some v => do
          let (ms, v) ← ofExpr fuel v
          pure (ms, some v)
        | none => pure ([], none)
      let name ← freshName
      return (ms ++ [.hand isDelegate value name], .identifier name)
    | .binary op a b => do
      let (ms, es) ← ofOperands fuel [a, b]
      return (ms, .binary op (es.getD 0 a) (es.getD 1 b))
    | .logical op a b => do
      let (ms, a) ← ofExpr fuel a
      let name ← freshName
      let (ns, b) ← ofExpr fuel b
      let kept := Expr.identifier name
      let rest := ns ++ [keep b name]
      let choice := match op with
        | .and => Move.cond kept rest []
        | .or => Move.cond kept [] rest
        | .coalesce => Move.cond (.binary .equal kept .null) rest []
      return (ms ++ [keep a name, choice], kept)
    | .conditional test yes no => do
      let (ms, test) ← ofExpr fuel test
      let name ← freshName
      let (ys, yes) ← ofExpr fuel yes
      let (ns, no) ← ofExpr fuel no
      return (ms ++ [.cond test (ys ++ [keep yes name]) (ns ++ [keep no name])], .identifier name)
    | .assign op target value => ofAssign fuel op target value
    | .sequence parts => do
      let (ms, es) ← ofOperands fuel parts
      return (ms, .sequence es)
    | .call (.member base isOptional name) isOptionalCall types args isPure => do
      let (ms, es) ← ofOperands fuel (base :: args)
      return (ms, .call (.member (es.headD base) isOptional name) isOptionalCall types (es.drop 1) isPure)
    | .call (.index base isOptional k) isOptionalCall types args isPure => do
      let (ms, es) ← ofOperands fuel (base :: k :: args)
      return (ms, .call (.index (es.headD base) isOptional (es.getD 1 k)) isOptionalCall types (es.drop 2) isPure)
    | .call .super isOptional types args isPure => do
      let (ms, es) ← ofOperands fuel args
      return (ms, .call .super isOptional types es isPure)
    | .call callee isOptional types args isPure => do
      let (ms, es) ← ofOperands fuel (callee :: args)
      return (ms, .call (es.headD callee) isOptional types (es.drop 1) isPure)
    | .new callee types args isPure => do
      let (ms, es) ← ofOperands fuel (callee :: args)
      return (ms, .new (es.headD callee) types (es.drop 1) isPure)
    | .member base isOptional name => do
      let (ms, base) ← ofExpr fuel base
      return (ms, .member base isOptional name)
    | .privateMember base isOptional name => do
      let (ms, base) ← ofExpr fuel base
      return (ms, .privateMember base isOptional name)
    | .index base isOptional k => do
      let (ms, es) ← ofOperands fuel [base, k]
      return (ms, .index (es.headD base) isOptional (es.getD 1 k))
    | .unary op a => do
      let (ms, a) ← ofExpr fuel a
      return (ms, .unary op a)
    | .update isIncrement isPrefixed a => do
      let (ms, a) ← ofExpr fuel a
      return (ms, .update isIncrement isPrefixed a)
    | .await a => do
      let (ms, a) ← ofExpr fuel a
      return (ms, .await a)
    | .spread a => do
      let (ms, a) ← ofExpr fuel a
      return (ms, .spread a)
    | .template quasis values => do
      let (ms, es) ← ofOperands fuel values
      return (ms, .template quasis es)
    | .tagged tag types quasis values => do
      let (ms, es) ← ofOperands fuel (tag :: values)
      return (ms, .tagged (es.headD tag) types quasis (es.drop 1))
    | .array elements => do
      let (ms, es) ← ofOperands fuel elements
      return (ms, .array es)
    | .object properties => do
      let (ms, es) ← ofOperands fuel properties
      return (ms, .object es)
    | .property k isComputed isShorthand value => do
      let (ms, es) ← ofOperands fuel (if isComputed then [k, value] else [value])
      if isComputed then return (ms, .property (es.headD k) true isShorthand (es.getD 1 value))
      return (ms, .property k isComputed isShorthand (es.headD value))
    | .method kind k true f => do
      let (ms, k) ← ofExpr fuel k
      return (ms, .method kind k true f)
    | .class decorators isDeclare isAbstract name typeParams parent parentArgs implements members => do
      let (ms, es) ← ofOperands fuel (parent.toList ++ memberKeys members)
      let (parent, keys) := match parent with
        | some _ => (es.head?, es.drop 1)
        | none => (none, es)
      return (ms, .class decorators isDeclare isAbstract name typeParams parent parentArgs implements
        (withKeys members keys))
    | .chain links => do
      let (ms, links) ← ofExpr fuel links
      return (ms, .chain links)
    | .importCall source options => do
      let (ms, source) ← ofExpr fuel source
      return (ms, .importCall source options)
    | e => return ([], e)

/-- Expressions that are worked out in turn. What comes before the last one that hands out a value
is kept. -/
def ofOperands : Nat → List Expr → Layout (List Move × List Expr)
  | 0, es => return ([], es)
  | _, [] => return ([], [])
  | fuel + 1, e :: es => do
    let (ms, e) ← ofExpr fuel e
    if !es.any hands || isFixed e then
      let (ns, es) ← ofOperands fuel es
      return (ms ++ ns, e :: es)
    let name ← freshName
    let kept := Expr.identifier name
    let (move, e) := match e with
      | .spread a => (keep (.array [.spread a]) name, Expr.spread kept)
      | .property k true isShorthand value =>
        (keep (.array [k, value]) name,
          .property (.index kept false (.number 0 "0")) true isShorthand (.index kept false (.number 1 "1")))
      | .property k false isShorthand value => (keep value name, .property k false isShorthand kept)
      | .method kind k true f => (keep k name, .method kind kept true f)
      | e => (keep e name, kept)
    let (ns, es) ← ofOperands fuel es
    return (ms ++ move :: ns, e :: es)

def ofAssign : Nat → AssignOp → Expr → Expr → Layout (List Move × Expr)
  | 0, op, target, value => return ([], .assign op target value)
  | fuel + 1, op, target, value => do
    let isPattern := match target with
      | .objectPattern _ | .arrayPattern _ => true
      | _ => false
    if isPattern && hands target then
      let (ms, value) ← ofExpr fuel value
      let name ← freshName
      return (ms ++ keep value name :: (← ofPattern fuel .assign target name), .identifier name)
    let (ms, target) ← match target with
      | .member base isOptional name => do
        let (ms, base) ← ofExpr fuel base
        if isFixed base then pure (ms, .member base isOptional name)
        else
          let b ← freshName
          pure (ms ++ [keep base b], .member (.identifier b) isOptional name)
      | .index base isOptional k => do
        let (ms, base) ← ofExpr fuel base
        let b ← freshName
        let (ns, k) ← ofExpr fuel k
        let n ← freshName
        pure (ms ++ [keep base b] ++ ns ++ [keep k n], .index (.identifier b) isOptional (.identifier n))
      | t => pure ([], t)
    match op with
    | .plain => do
      let (ns, value) ← ofExpr fuel value
      return (ms ++ ns, .assign .plain target value)
    | .binary op => do
      let old ← freshName
      let (ns, value) ← ofExpr fuel value
      return (ms ++ [keep target old] ++ ns,
        .assign .plain target (.binary op (.identifier old) value))
    | .logical op => do
      let old ← freshName
      let kept := Expr.identifier old
      let (ns, value) ← ofExpr fuel value
      let rest := ns ++ [keep (.assign .plain target value) old]
      let choice := match op with
        | .and => Move.cond kept rest []
        | .or => Move.cond kept [] rest
        | .coalesce => Move.cond (.binary .equal kept .null) rest []
      return (ms ++ [keep target old, choice], kept)

def ofPattern : Nat → Parting → Expr → String → Layout (List Move)
  | 0, use, target, kept => return [part use target kept]
  | fuel + 1, use, target, kept => do
    if !hands target then return [part use target kept]
    match target with
    | .defaultPattern target fallback => do
      let (ms, fallback) ← ofExpr fuel fallback
      return .cond (isMissing kept) (ms ++ [keep fallback kept]) [] :: (← ofPattern fuel use target kept)
    | .objectPattern items =>
      return part .assign (.objectPattern []) kept :: (← ofProperties fuel use items kept [])
    | .arrayPattern items => do
      let (targets, ms) ← ofElements fuel use items
      return part .assign (.arrayPattern targets) kept :: ms
    | target => do
      let (ms, e) ← ofAssign fuel .plain target (.identifier kept)
      return ms ++ [.run (.expression e)]

/-- The properties of a pattern one after the other; `done` holds those before them, with targets
that are not used. -/
def ofProperties : Nat → Parting → List Expr → String → List Expr → Layout (List Move)
  | 0, _, _, _, _ => return []
  | _, _, [], _, _ => return []
  | fuel + 1, use, item :: items, kept, done => do
    let source := Expr.identifier kept
    let value ← freshName
    let target := Expr.identifier value
    match item with
    | .property k isComputed _ inner => do
      let (ms, k) ← if isComputed then do
          let (ms, k) ← ofExpr fuel k
          let name ← freshName
          pure (ms ++ [keep k name], Expr.identifier name)
        else pure ([], k)
      let read := match isComputed, k with
        | false, .identifier name => Expr.member source false name
        | _, k => .index source false k
      let inside ← ofPattern fuel use inner value
      let rest ← ofProperties fuel use items kept (done ++ [.property k isComputed false target])
      return ms ++ keep read value :: inside ++ rest
    | .restPattern inner =>
      return part .assign (.objectPattern (done ++ [.restPattern target])) kept ::
        (← ofPattern fuel use inner value)
    | _ => ofProperties fuel use items kept done

def ofElements : Nat → Parting → List Expr → Layout (List Expr × List Move)
  | 0, _, _ => return ([], [])
  | _, _, [] => return ([], [])
  | fuel + 1, use, item :: items => do
    let name ← freshName
    let (target, ms) ← match item with
      | .hole => pure (Expr.hole, [])
      | .restPattern inner => do pure (.restPattern (.identifier name), ← ofPattern fuel use inner name)
      | inner => do pure (.identifier name, ← ofPattern fuel use inner name)
    let (targets, more) ← ofElements fuel use items
    return (target :: targets, ms ++ more)

end

def ofDeclarators (isDeclare : Bool) (kind : VariableKind) : List Expr → Layout (List Move)
  | [] => return []
  | d :: ds => do
    let (ms, d) ← match d with
      | .declarator target (some value) => do
        let (ms, value) ← ofExpr Declared.deep value
        if hands target then
          let name ← freshName
          pure (ms ++ keep value name :: (← ofPattern Declared.deep (.declare isDeclare kind) target name), [])
        else pure (ms, [Expr.declarator target (some value)])
      | d => pure ([], [d])
    let last := if d.isEmpty then [] else [Move.run (.vars isDeclare kind d)]
    return ms ++ last ++ (← ofDeclarators isDeclare kind ds)

/-- What a loop does first with each of its values, when its pattern hands out values: the name that
the value is kept under, and the moves. -/
def ofLeft (left : Stmt) : Layout (Option (String × List Move)) := do
  if !handsIn left then return none
  let name ← freshName
  match left with
  | .vars isDeclare kind [.declarator target _] =>
    return some (name, ← ofPattern Declared.deep (.declare isDeclare kind) target name)
  | .expression target => return some (name, ← ofPattern Declared.deep .assign target name)
  | _ => return none

/-- The tests of a switch, some of which hand out values, made into one that finds the place of the
case; the cases are then chosen by their places. -/
def ofTests (subject place : String) : Nat → List (Option Expr) → Layout (List Move × List (Option Expr))
  | _, [] => return ([], [])
  | i, none :: tests => do
    let (ms, es) ← ofTests subject place (i + 1) tests
    return (ms, none :: es)
  | i, some test :: tests => do
    let (before, test) ← ofExpr Declared.deep test
    let number := Expr.number (Float.ofNat i) (toString i)
    let found := Move.cond (.binary .same (.identifier subject) test) [keep number place] []
    let (ms, es) ← ofTests subject place (i + 1) tests
    return (.cond (isMissing place) (before ++ [found]) [] :: ms, some number :: es)

def caseBody : Stmt → List Stmt
  | .case _ body => body
  | _ => []

def ofTest (test : Option Expr) : Layout (List Move × Option Expr) := do
  match test with
  | some e => do
    let (ms, e) ← ofExpr Declared.deep e
    return (ms, some e)
  | none => return ([], none)

mutual

def ofStmt : Nat → List String → Stmt → Layout (List Move)
  | 0, _, s => return [.run s]
  | fuel + 1, labels, s => do
    if !handsIn s then
      return [.run (labels.foldl (fun s l => .labeled l s) s)]
    match s with
    | .expression e => do
      let (ms, e) ← ofExpr Declared.deep e
      return ms ++ [.run (.expression e)]
    | .vars isDeclare kind ds => ofDeclarators isDeclare kind ds
    | .declaration e => do
      let (ms, e) ← ofExpr Declared.deep e
      return ms ++ [.run (.declaration e)]
    | .return (some e) => do
      let (ms, e) ← ofExpr Declared.deep e
      return ms ++ [.run (.return (some e))]
    | .throw e => do
      let (ms, e) ← ofExpr Declared.deep e
      return ms ++ [.run (.throw e)]
    | .cond test yes no => do
      let (ms, test) ← ofExpr Declared.deep test
      let yes ← ofStmt fuel [] yes
      let no ← match no with
        | some s => ofStmt fuel [] s
        | none => pure []
      return ms ++ [.cond test yes no]
    | .block body => do
      let block := Move.block body (← ofList fuel body)
      return [if labels.isEmpty then block else .labeled labels [block]]
    | .while test body => do
      let (ms, test) ← ofTest (some test)
      return [.loop labels .count [] [] ms test [] (← ofStmt fuel [] body)]
    | .doWhile body test => do
      let (ms, test) ← ofTest (some test)
      return [.loop labels .body [] [] ms test [] (← ofStmt fuel [] body)]
    | .loop init test update body => do
      let (declared, first) ← match init with
        | none => pure ([], [])
        | some s => do
          let names := match s with
            | .vars _ .var _ => []
            | s => Declared.lexical [s]
          pure (names, ← ofStmt fuel [] s)
      let (before, test) ← ofTest test
      let after ← match update with
        | some e => ofStmt fuel [] (.expression e)
        | none => pure []
      return [.loop labels .test declared first before test after (← ofStmt fuel [] body)]
    | .loopOf true left right body => do
      let (ms, right) ← ofExpr Declared.deep right
      return ms ++ [.run (.loopOf true left right body)]
    | .loopOf false left right body => do
      let (ms, right) ← ofExpr Declared.deep right
      return ms ++ [← ofTurns fuel labels false left right body]
    | .loopIn left right body => do
      let (ms, right) ← ofExpr Declared.deep right
      return ms ++ [← ofTurns fuel labels true left right body]
    | .switch subject cases => do
      let (ms, subject) ← ofExpr Declared.deep subject
      let laid ← ofCases fuel cases
      let source := cases.flatMap caseBody
      let enclosed (moves : List Move) : List Move :=
        if labels.isEmpty then moves else [.labeled labels moves]
      if !(laid.any fun (test, _) => test.any hands) then
        return ms ++ enclosed [.switch subject source laid]
      let value ← freshName
      let place ← freshName
      let (before, tests) ← ofTests value place 0 (laid.map Prod.fst)
      let clear := keep (.unary .void (.number 0 "0")) place
      let switch := Move.switch (.identifier place) source (tests.zip (laid.map Prod.snd))
      return ms ++ keep subject value :: clear :: before ++ enclosed [switch]
    | .labeled l s => ofStmt fuel (l :: labels) s
    | .try body param handler finalizer => do
      let moves ← ofList fuel body
      let part (ss : Option (List Stmt)) : Layout (Option (List Stmt × List Move)) := do
        match ss with
        | some ss => return some (ss, ← ofList fuel ss)
        | none => return none
      let guard := Move.guard body moves param (← part handler) (← part finalizer)
      return [if labels.isEmpty then guard else .labeled labels [guard]]
    | s => return [.run s]

def ofTurns : Nat → List String → Bool → Stmt → Expr → Stmt → Layout Move
  | 0, labels, isNames, left, right, _ => return .each labels isNames left right []
  | fuel + 1, labels, isNames, left, right, body => do
    match ← ofLeft left with
    | none => return .each labels isNames left right (← ofStmt fuel [] body)
    | some (name, ms) =>
      let moves := ms ++ (← ofStmt fuel [] body)
      return .each labels isNames (.expression (.identifier name)) right [.block [left] moves]

def ofList : Nat → List Stmt → Layout (List Move)
  | 0, _ => return []
  | _, [] => return []
  | fuel + 1, s :: ss => do
    let ms ← ofStmt fuel [] s
    return ms ++ (← ofList fuel ss)

def ofCases : Nat → List Stmt → Layout (List (Option Expr × List Move))
  | 0, _ => return []
  | _, [] => return []
  | fuel + 1, s :: ss => do
    let one ← match s with
      | .case test body => pure [(test, ← ofList fuel body)]
      | _ => pure []
    return one ++ (← ofCases fuel ss)

end

def ofBody (body : List Stmt) : List Move × List String :=
  let (moves, n) := (ofList Declared.deep body).run 0
  (moves, (List.range n).map keptName)

end Move
end PagePreview.Script
