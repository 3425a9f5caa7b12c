import PagePreview.Script.Tree

/-! How many nodes of a tree are of a kind: all that are, names too, or only those that are shown. What
stands in the type arguments of an element is not: it says nothing about what the element shows, and
goes with its marks. -/

namespace PagePreview.Script

inductive Node
  | type (t : TypeNode)
  | expr (e : Expr)
  | stmt (s : Stmt)

inductive Extent
  | whole
  | shown

def Extent.hidden (x : Extent) (n : Nat) : Nat :=
  match x with
  | .whole => n
  | .shown => 0

mutual

def TypeNode.count (p : Node → Bool) (x : Extent) (t : TypeNode) : Nat :=
  (p (.type t)).toNat + match t with
  | .word _ => 0
  | .reference name args => name.count p x + countTypes p x args
  | .literal value => value.count p x
  | .template _ types => countTypes p x types
  | .array element => element.count p x
  | .tuple elements => countTypes p x elements
  | .optional type => type.count p x
  | .rest type => type.count p x
  | .named _ _ type => type.count p x
  | .union types => countTypes p x types
  | .intersection types => countTypes p x types
  | .conditional check extend yes no => check.count p x + extend.count p x + yes.count p x + no.count p x
  | .infer _ constraint => countType? p x constraint
  | .operator _ type => type.count p x
  | .indexed object index => object.count p x + index.count p x
  | .mapped _ keys rename _ _ type => keys.count p x + countType? p x rename + countType? p x type
  | .function typeParams params result => countTypes p x typeParams + countExprs p x params + result.count p x
  | .constructor _ typeParams params result => countTypes p x typeParams + countExprs p x params + result.count p x
  | .query name args => name.count p x + countTypes p x args
  | .importType argument options qualifier args =>
    argument.count p x + countExpr? p x options + countExpr? p x qualifier + countTypes p x args
  | .object members => countTypes p x members
  | .predicate _ _ type => countType? p x type
  | .paren type => type.count p x
  | .typeParam _ constraint fallback _ => countType? p x constraint + countType? p x fallback
  | .property key _ _ _ type => key.count p x + countType? p x type
  | .method _ key _ _ typeParams params result =>
    key.count p x + countTypes p x typeParams + countExprs p x params + countType? p x result
  | .call typeParams params result => countTypes p x typeParams + countExprs p x params + countType? p x result
  | .construct typeParams params result => countTypes p x typeParams + countExprs p x params + countType? p x result
  | .index _ key type _ _ => key.count p x + type.count p x
  | .commented _ node => node.count p x

def Expr.count (p : Node → Bool) (x : Extent) (e : Expr) : Nat :=
  (p (.expr e)).toNat + match e with
  | .identifier _ | .privateName _ | .this | .super | .null | .bool _ | .number .. | .bigint _
  | .string .. | .regex .. | .hole | .importMeta | .newTarget
  | .jsxText _ | .jsxHole _ | .jsxName _ | .jsxNamespaced .. | .jsxString _ => 0
  | .thisParam type => countType? p x type
  | .indexMember type => type.count p x
  | .template _ values => countExprs p x values
  | .tagged tag types _ values => tag.count p x + countTypes p x types + countExprs p x values
  | .array elements => countExprs p x elements
  | .spread value => value.count p x
  | .object properties => countExprs p x properties
  | .property k _ _ value => k.count p x + value.count p x
  | .method _ k _ f => k.count p x + f.count p x
  | .coverDefault _ value => value.count p x
  | .function _ _ _ _ tps params result body =>
    countTypes p x tps + countExprs p x params + countType? p x result + countStmts? p x body
  | .arrow _ tps params result body => countTypes p x tps + countExprs p x params + countType? p x result + body.count p x
  | .param ds _ pattern type fallback =>
    countExprs p x ds + pattern.count p x + countType? p x type + countExpr? p x fallback
  | .restParam ds pattern type => countExprs p x ds + pattern.count p x + countType? p x type
  | .class ds _ _ _ tps parent parentArgs implements members =>
    countExprs p x ds + countTypes p x tps + countExpr? p x parent + countTypes p x parentArgs + countTypes p x implements +
      countExprs p x members
  | .methodMember ds _ _ k _ f => countExprs p x ds + k.count p x + f.count p x
  | .fieldMember ds _ k _ type value => countExprs p x ds + k.count p x + countType? p x type + countExpr? p x value
  | .staticBlock body => countStmts p x body
  | .unary _ operand => operand.count p x
  | .update _ _ target => target.count p x
  | .binary _ left right => left.count p x + right.count p x
  | .logical _ left right => left.count p x + right.count p x
  | .assign _ target value => target.count p x + value.count p x
  | .conditional test yes no => test.count p x + yes.count p x + no.count p x
  | .sequence parts => countExprs p x parts
  | .await operand => operand.count p x
  | .yield _ operand => countExpr? p x operand
  | .new callee types args _ => callee.count p x + countTypes p x types + countExprs p x args
  | .call callee _ types args _ => callee.count p x + countTypes p x types + countExprs p x args
  | .member base _ _ => base.count p x
  | .privateMember base _ _ => base.count p x
  | .index base _ k => base.count p x + k.count p x
  | .chain links => links.count p x
  | .importCall source options => source.count p x + countExpr? p x options
  | .paren inner => inner.count p x
  | .asType operand type => operand.count p x + type.count p x
  | .satisfies operand type => operand.count p x + type.count p x
  | .nonNull operand => operand.count p x
  | .instantiate operand types => operand.count p x + countTypes p x types
  | .objectPattern properties => countExprs p x properties
  | .arrayPattern elements => countExprs p x elements
  | .defaultPattern target value => target.count p x + value.count p x
  | .restPattern target => target.count p x
  | .typed pattern _ type => pattern.count p x + type.count p x
  | .declarator target value => target.count p x + countExpr? p x value
  | .element name types attributes children _ =>
    name.count p x + countExprs p x attributes + countExprs p x children + x.hidden (countTypes p x types)
  | .fragment children => countExprs p x children
  | .jsxContainer value => value.count p x
  | .jsxSpread value => value.count p x
  | .jsxAttribute name value => name.count p x + countExpr? p x value
  | .jsxSpreadAttribute value => value.count p x
  | .jsxMember base _ => base.count p x
  | .enumMember k _ value => k.count p x + countExpr? p x value
  | .commented _ node => node.count p x

def Stmt.count (p : Node → Bool) (x : Extent) (s : Stmt) : Nat :=
  (p (.stmt s)).toNat + match s with
  | .empty | .debugger | .directive _ | .continue _ | .break _ | .importFrom .. | .exportFrom ..
  | .exportAll .. | .exportNamespace _ | .remarks _ => 0
  | .typeAlias _ _ tps type => countTypes p x tps + type.count p x
  | .interface _ _ tps parents members => countTypes p x tps + countTypes p x parents + countTypes p x members
  | .block body => countStmts p x body
  | .expression value => value.count p x
  | .vars _ _ list => countExprs p x list
  | .declaration value => value.count p x
  | .cond test yes no => test.count p x + yes.count p x + countStmt? p x no
  | .loop init test update body => countStmt? p x init + countExpr? p x test + countExpr? p x update + body.count p x
  | .loopIn left right body => left.count p x + right.count p x + body.count p x
  | .loopOf _ left right body => left.count p x + right.count p x + body.count p x
  | .while test body => test.count p x + body.count p x
  | .doWhile body test => body.count p x + test.count p x
  | .return value => countExpr? p x value
  | .throw value => value.count p x
  | .with object body => object.count p x + body.count p x
  | .switch subject cases => subject.count p x + countStmts p x cases
  | .case test body => countExpr? p x test + countStmts p x body
  | .labeled _ body => body.count p x
  | .try body param handler finalizer =>
    countStmts p x body + countExpr? p x param + countStmts? p x handler + countStmts? p x finalizer
  | .exportDeclaration d => d.count p x
  | .exportDefault d => d.count p x
  | .exportAssign value => value.count p x
  | .importAlias _ _ value => value.count p x
  | .enum _ _ _ members => countExprs p x members
  | .space _ _ name body => name.count p x + countStmts? p x body
  | .commented _ node => node.count p x

def countTypes (p : Node → Bool) (x : Extent) : List TypeNode → Nat
  | [] => 0
  | t :: ts => t.count p x + countTypes p x ts

def countType? (p : Node → Bool) (x : Extent) : Option TypeNode → Nat
  | none => 0
  | some t => t.count p x

def countExprs (p : Node → Bool) (x : Extent) : List Expr → Nat
  | [] => 0
  | e :: es => e.count p x + countExprs p x es

def countExpr? (p : Node → Bool) (x : Extent) : Option Expr → Nat
  | none => 0
  | some e => e.count p x

def countStmts (p : Node → Bool) (x : Extent) : List Stmt → Nat
  | [] => 0
  | s :: ss => s.count p x + countStmts p x ss

def countStmt? (p : Node → Bool) (x : Extent) : Option Stmt → Nat
  | none => 0
  | some s => s.count p x

def countStmts? (p : Node → Bool) (x : Extent) : Option (List Stmt) → Nat
  | none => 0
  | some ss => countStmts p x ss

end

def Node.count (p : Node → Bool) (x : Extent) : Node → Nat
  | .type t => t.count p x
  | .expr e => e.count p x
  | .stmt s => s.count p x

def Program.count (p : Node → Bool) (x : Extent) (program : Program) : Nat := countStmts p x program.body

def Program.size (program : Program) : Nat := program.count (fun _ => true) .whole

end PagePreview.Script
