import PagePreview.Script.Printer.Expression

/-! Statements, each on lines of its own, and the printer tied together: the text of a tree. -/

namespace PagePreview.Script
namespace Printer

def body (self : Show) (s : Stmt) : Write Unit := do
  match s with
  | .block b => do put " "; block self b; newline
  | .empty => put ";\n"
  | s => do
    modify fun o => { o with joined := true }
    self (.stmt s)

def takesElse : Stmt → Bool
  | .cond _ _ none => true
  | .cond _ _ (some no) => takesElse no
  | .loop _ _ _ b | .loopIn _ _ b | .loopOf _ _ _ b | .while _ b | .with _ b | .labeled _ b => takesElse b
  | _ => false

def parenthesized (self : Show) (e : Expr) : Write Unit := do
  put "("
  expr self Level.lowest e
  put ")"

def cond (self : Show) (test : Expr) (yes : Stmt) (no : Option Stmt) : Write Unit := do
  word "if "
  parenthesized self test
  let afterBlock : String := if no.isSome then " " else "\n"
  match yes with
    | .block b => do put " "; block self b; put afterBlock
    | s =>
      if no.isSome && takesElse s then do
        put " "
        braces false (self (.stmt s))
        put afterBlock
      else do
        body self s
        if no.isSome then indent
  match no with
    | none => pure ()
    | some (.block b) => do put "else "; block self b; newline
    | some (.cond test yes no) => do
      put "else "
      self (.rest (.cond test yes no))
    | some s => do put "else"; body self s

def nameText (n : ModuleName) : Write Unit :=
  if n.isString then putString n.text else put n.text.display

def specifierText (s : Specifier) : Write Unit := do
  if s.isType then put "type "
  nameText s.name
  if s.name != s.renamed then
    put " as "
    nameText s.renamed

def specifierList (names : List Specifier) : Write Unit := do
  if names.isEmpty then put "\x7b\x7d"
  else
    put "\x7b "
    commaList specifierText names
    put " \x7d"

def attributeList (attributes : Option (List ImportAttribute)) : Write Unit := do
  match attributes with
  | none => pure ()
  | some list => do
    put " with \x7b "
    commaList (fun (a : ImportAttribute) => do nameText a.key; put ": "; putString a.value) list
    put " \x7d"

def importText (isType : Bool) (clause : Option ImportClause) (source : Str)
    (attributes : Option (List ImportAttribute)) : Write Unit := do
  put (if isType then "import type " else "import ")
  match clause with
    | none => pure ()
    | some c => do
      let named := match c.named with
        | some [] => if c.defaultName.isSome then none else some []
        | list => list
      if let some n := c.defaultName then put n
      if c.defaultName.isSome && (c.namespaceName.isSome || named.isSome) then put ", "
      if let some n := c.namespaceName then put ("* as " ++ n)
      if let some list := named then specifierList list
      put " from "
  putString source
  attributeList attributes
  endStatement

def vars (self : Show) (bans : Bans) (isDeclare : Bool) (kind : VariableKind)
    (list : List Expr) : Write Unit := do
  if isDeclare then put "declare "
  word (kind.text ++ " ")
  commaList (fun d => self (.expr Level.comma bans d)) list

def head (self : Show) (s : Stmt) (bans : Bans) : Write Unit := do
  match s with
  | .vars isDeclare kind list => vars self bans isDeclare kind list
  | .expression e => self (.expr Level.lowest bans e)
  | _ => pure ()

/-- Declarations that can be exported, from their first word on; whether a semicolon ends them. -/
def declared (self : Show) (s : Stmt) : Write Unit := do
  match s with
  | .vars isDeclare kind list => do vars self {} isDeclare kind list; endStatement
  | .declaration e => do declaration self e; newline
  | .typeAlias isDeclare name tps t => do
    if isDeclare then put "declare "
    put ("type " ++ name)
    typeParams self tps
    put " = "
    type self t
    endStatement
  | .interface isDeclare name tps parents members => do
    if isDeclare then put "declare "
    put ("interface " ++ name)
    typeParams self tps
    if !parents.isEmpty then
      put " extends "
      commaList (type self) parents
    put " "
    typeMembers self members
    newline
  | .enum isDeclare isConst name members => do
    if isDeclare then put "declare "
    put ((if isConst then "const enum " else "enum ") ++ name ++ " ")
    braces members.isEmpty do
      let mut left := members.length
      for m in members do
        left := left - 1
        let m ← match m with
          | .commented comments m => do putComments comments; pure m
          | m => pure m
        indent
        expr self Level.lowest m
        put (if left == 0 then "\n" else ",\n")
    newline
  | .space isDeclare w name inner => do
    if isDeclare then put "declare "
    if w == "global" then put "global"
    else
      put (w ++ " ")
      expr self Level.lowest name
    match inner with
      | some b => do put " "; block self b; newline
      | none => endStatement
  | .importAlias isType name value => do
    put (if isType then "import type " else "import ")
    put (name ++ " = ")
    expr self Level.lowest value
    endStatement
  | s => self (.stmt s)

def caseText (self : Show) (test : Option Expr) (inner : List Stmt) : Write Unit := do
  indent
  match test with
    | some e => do put "case "; expr self Level.lowest e
    | none => put "default"
  put ":"
  match inner with
    | [s] => body self s
    | inner => do
      newline
      deeper do for s in inner do self (.stmt s)

def leading (self : Show) (e : Expr) : Write Unit := do
  modify fun o => { o with statementStart := some o.size }
  expr self Level.lowest e

def statementRest (self : Show) (s : Stmt) : Write Unit := do
  match s with
  | .empty => put ";\n"
  | .debugger => put "debugger;\n"
  | .directive raw => do putDirective raw; endStatement
  | .block b => do block self b; newline
  | .expression e => do leading self e; endStatement
  | .cond test yes no => cond self test yes no
  | .loop init test update b => do
    put "for ("
    if let some i := init then head self i { isIn := true }
    put ";"
    if let some e := test then
      put " "
      expr self Level.lowest e
    put ";"
    if let some e := update then
      put " "
      expr self Level.lowest e
    put ")"
    body self b
  | .loopIn left right b => do
    put "for ("
    head self left { isIn := true }
    put " in "
    expr self Level.lowest right
    put ")"
    body self b
  | .loopOf isAwait left right b => do
    put (if isAwait then "for await (" else "for (")
    head self left { isIn := true }
    put " of "
    expr self Level.comma right
    put ")"
    body self b
  | .while test b => do
    put "while "
    parenthesized self test
    body self b
  | .doWhile b test => do
    put "do"
    match b with
      | .block b => do put " "; block self b; put " "
      | b => do
        newline
        deeper (self (.stmt b))
        indent
    put "while "
    parenthesized self test
    endStatement
  | .continue l => put ("continue" ++ l.elim "" (" " ++ ·) ++ ";\n")
  | .break l => put ("break" ++ l.elim "" (" " ++ ·) ++ ";\n")
  | .return none => put "return;\n"
  | .return (some e) => do put "return "; expr self Level.lowest e; endStatement
  | .throw e => do put "throw "; expr self Level.lowest e; endStatement
  | .with object b => do
    put "with "
    parenthesized self object
    body self b
  | .switch subject cases => do
    put "switch "
    parenthesized self subject
    put " "
    braces cases.isEmpty do for c in cases do self (.stmt c)
    newline
  | .labeled l b => do put (l ++ ":"); body self b
  | .try b param handler finalizer => do
    put "try "
    block self b
    if let some h := handler then
      put " catch "
      if let some p := param then
        parenthesized self p
        put " "
      block self h
    if let some f := finalizer then
      put " finally "
      block self f
    newline
  | .importFrom isType _ clause source attributes => importText isType clause source attributes
  | .exportFrom isType names source attributes => do
    put (if isType then "export type " else "export ")
    specifierList names
    if let some s := source then
      put " from "
      putString s
    attributeList attributes
    endStatement
  | .exportAll isType renamed source attributes => do
    put (if isType then "export type *" else "export *")
    if let some n := renamed then
      put " as "
      nameText n
    put " from "
    putString source
    attributeList attributes
    endStatement
  | .exportDeclaration d => do put "export "; declared self d
  | .exportDefault d => do
    put "export default "
    match d with
      | .expression e => do
        modify fun o => { o with defaultStart := some o.size }
        expr self Level.comma e
        endStatement
      | d => declared self d
  | .exportAssign e => do put "export = "; expr self Level.lowest e; endStatement
  | .exportNamespace name => put ("export as namespace " ++ name ++ ";\n")
  | s => declared self s

def statementRule (self : Show) (s : Stmt) : Write Unit := do
  match s with
  | .commented comments s => do putComments comments; self (.stmt s)
  | .remarks comments => putComments comments
  | .case test inner => caseText self test inner
  | s => do indent; statementRest self s

def rule (self : Show) : Part → Write Unit
  | .expr level bans e => exprRule self level bans e
  | .stmt s => statementRule self s
  | .rest s => statementRest self s
  | .type t => typeRule self t

def write : Nat → Show
  | 0, _ => pure ()
  | fuel + 1, part => fun o => rule (write fuel) part o

end Printer

open Printer in
def Program.print (quote : Char) (p : Program) : String :=
  let all : Write Unit := do
    if let some h := p.hashbang then put ("#!" ++ h ++ "\n")
    for s in p.body do write p.depth (.stmt s)
  (all.run { quote }).2.text

end PagePreview.Script
