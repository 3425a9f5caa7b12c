import PagePreview.Script.Str

/-! The trees of scripts: statements, expressions with the patterns and markup that stand among
them, and types. Parentheses are kept as nodes, so that a tree tells what was written. -/

namespace PagePreview.Script

structure Comment where
  isLine : Bool
  text : String
  afterBreak : Bool
  beforeBreak : Bool
  deriving DecidableEq

inductive UnaryOp
  | plus | minus | not | bitNot | typeOf | void | delete
  deriving DecidableEq

def UnaryOp.text : UnaryOp → String
  | .plus => "+"
  | .minus => "-"
  | .not => "!"
  | .bitNot => "~"
  | .typeOf => "typeof"
  | .void => "void"
  | .delete => "delete"

inductive BinaryOp
  | equal | notEqual | same | notSame
  | less | lessEqual | greater | greaterEqual
  | shiftLeft | shiftRight | shiftRightZero
  | add | sub | mul | div | rem | pow
  | bitOr | bitXor | bitAnd
  | isIn | instanceOf
  deriving DecidableEq

def BinaryOp.text : BinaryOp → String
  | .equal => "=="
  | .notEqual => "!="
  | .same => "==="
  | .notSame => "!=="
  | .less => "<"
  | .lessEqual => "<="
  | .greater => ">"
  | .greaterEqual => ">="
  | .shiftLeft => "<<"
  | .shiftRight => ">>"
  | .shiftRightZero => ">>>"
  | .add => "+"
  | .sub => "-"
  | .mul => "*"
  | .div => "/"
  | .rem => "%"
  | .pow => "**"
  | .bitOr => "|"
  | .bitXor => "^"
  | .bitAnd => "&"
  | .isIn => "in"
  | .instanceOf => "instanceof"

inductive LogicalOp
  | and | or | coalesce
  deriving DecidableEq

def LogicalOp.text : LogicalOp → String
  | .and => "&&"
  | .or => "||"
  | .coalesce => "??"

inductive AssignOp
  | plain
  | binary (op : BinaryOp)
  | logical (op : LogicalOp)
  deriving DecidableEq

def AssignOp.text : AssignOp → String
  | .plain => "="
  | .binary op => op.text ++ "="
  | .logical op => op.text ++ "="

inductive VariableKind
  | var | letVar | const
  deriving DecidableEq

def VariableKind.text : VariableKind → String
  | .var => "var"
  | .letVar => "let"
  | .const => "const"

inductive MethodKind
  | plain | getter | setter | constructor
  deriving DecidableEq

structure Modifiers where
  isDeclare : Bool := false
  accessibility : Option String := none
  isStatic : Bool := false
  isAbstract : Bool := false
  isOverride : Bool := false
  isReadonly : Bool := false
  isAccessor : Bool := false
  isOptional : Bool := false
  isDefinite : Bool := false
  deriving DecidableEq

structure Quasi where
  raw : String
  cooked : Option Str
  start : Nat := 0
  deriving DecidableEq

structure ModuleName where
  text : Str
  isString : Bool := false
  deriving DecidableEq

structure Specifier where
  name : ModuleName
  renamed : ModuleName
  isType : Bool := false
  deriving DecidableEq

structure ImportAttribute where
  key : ModuleName
  value : Str
  deriving DecidableEq

structure ImportClause where
  defaultName : Option String := none
  namespaceName : Option String := none
  named : Option (List Specifier) := none
  deriving DecidableEq

def ImportClause.names (c : ImportClause) : List String :=
  c.defaultName.toList ++ c.namespaceName.toList ++
    (c.named.getD []).map (·.renamed.text.display)

mutual

inductive TypeNode
  | word (name : String)
  | reference (name : Expr) (arguments : List TypeNode)
  | literal (value : Expr)
  | template (quasis : List Quasi) (types : List TypeNode)
  | array (element : TypeNode)
  | tuple (elements : List TypeNode)
  | optional (type : TypeNode)
  | rest (type : TypeNode)
  | named (label : String) (isOptional : Bool) (type : TypeNode)
  | union (types : List TypeNode)
  | intersection (types : List TypeNode)
  | conditional (check extend yes no : TypeNode)
  | infer (name : String) (constraint : Option TypeNode)
  | operator (word : String) (type : TypeNode)
  | indexed (object index : TypeNode)
  /-- `{ [name in keys as rename]: type }`, with marks such as `+`, `-` or `true` for a bare word. -/
  | mapped (name : String) (keys : TypeNode) (rename : Option TypeNode) (optionalMark readonlyMark : String)
      (type : Option TypeNode)
  | function (typeParams : List TypeNode) (params : List Expr) (result : TypeNode)
  | constructor (isAbstract : Bool) (typeParams : List TypeNode) (params : List Expr) (result : TypeNode)
  | query (name : Expr) (arguments : List TypeNode)
  | importType (argument : Expr) (options : Option Expr) (qualifier : Option Expr) (arguments : List TypeNode)
  | object (members : List TypeNode)
  | predicate (asserts : Bool) (name : String) (type : Option TypeNode)
  | paren (type : TypeNode)
  | typeParam (name : String) (constraint fallback : Option TypeNode) (words : List String)
  | property (key : Expr) (isComputed isOptional isReadonly : Bool) (type : Option TypeNode)
  | method (kind : MethodKind) (key : Expr) (isComputed isOptional : Bool) (typeParams : List TypeNode)
      (params : List Expr) (result : Option TypeNode)
  | call (typeParams : List TypeNode) (params : List Expr) (result : Option TypeNode)
  | construct (typeParams : List TypeNode) (params : List Expr) (result : Option TypeNode)
  | index (name : String) (key type : TypeNode) (isReadonly isStatic : Bool)
  | commented (comments : List Comment) (node : TypeNode)

inductive Expr
  | identifier (name : String)
  | privateName (name : String)
  | this
  | super
  | null
  | bool (value : Bool)
  | number (value : Float) (raw : String)
  | bigint (digits : Nat)
  | string (value : Str) (raw : String)
  | regex (pattern flags : String)
  | template (quasis : List Quasi) (values : List Expr)
  | tagged (tag : Expr) (typeArgs : List TypeNode) (quasis : List Quasi) (values : List Expr)
  | array (elements : List Expr)
  | hole
  | spread (value : Expr)
  | object (properties : List Expr)
  | property (key : Expr) (isComputed isShorthand : Bool) (value : Expr)
  | method (kind : MethodKind) (key : Expr) (isComputed : Bool) (function : Expr)
  | coverDefault (name : String) (value : Expr)
  | function (name : Option String) (isAsync isGenerator isDeclare : Bool) (typeParams : List TypeNode)
      (params : List Expr) (result : Option TypeNode) (body : Option (List Stmt))
  | arrow (isAsync : Bool) (typeParams : List TypeNode) (params : List Expr) (result : Option TypeNode)
      (body : Stmt)
  | param (decorators : List Expr) (modifiers : Modifiers) (pattern : Expr) (type : Option TypeNode)
      (fallback : Option Expr)
  | restParam (decorators : List Expr) (pattern : Expr) (type : Option TypeNode)
  | thisParam (type : Option TypeNode)
  | class (decorators : List Expr) (isDeclare isAbstract : Bool) (name : Option String)
      (typeParams : List TypeNode) (parent : Option Expr) (parentArgs : List TypeNode)
      (implements : List TypeNode) (members : List Expr)
  | methodMember (decorators : List Expr) (modifiers : Modifiers) (kind : MethodKind) (key : Expr)
      (isComputed : Bool) (function : Expr)
  | fieldMember (decorators : List Expr) (modifiers : Modifiers) (key : Expr) (isComputed : Bool)
      (type : Option TypeNode) (value : Option Expr)
  | staticBlock (body : List Stmt)
  | indexMember (type : TypeNode)
  | unary (op : UnaryOp) (operand : Expr)
  | update (isIncrement isPrefixed : Bool) (target : Expr)
  | binary (op : BinaryOp) (left right : Expr)
  | logical (op : LogicalOp) (left right : Expr)
  | assign (op : AssignOp) (target value : Expr)
  | conditional (test yes no : Expr)
  | sequence (parts : List Expr)
  | await (operand : Expr)
  | yield (isDelegate : Bool) (operand : Option Expr)
  | new (callee : Expr) (typeArgs : List TypeNode) (arguments : List Expr) (isPure : Bool)
  | call (callee : Expr) (isOptional : Bool) (typeArgs : List TypeNode) (arguments : List Expr)
      (isPure : Bool)
  | member (object : Expr) (isOptional : Bool) (name : String)
  | privateMember (object : Expr) (isOptional : Bool) (name : String)
  | index (object : Expr) (isOptional : Bool) (key : Expr)
  | chain (links : Expr)
  | importCall (source : Expr) (options : Option Expr)
  | importMeta
  | newTarget
  | paren (inner : Expr)
  | asType (operand : Expr) (type : TypeNode)
  | satisfies (operand : Expr) (type : TypeNode)
  | nonNull (operand : Expr)
  | instantiate (operand : Expr) (typeArgs : List TypeNode)
  | objectPattern (properties : List Expr)
  | arrayPattern (elements : List Expr)
  | defaultPattern (target value : Expr)
  | restPattern (target : Expr)
  | typed (pattern : Expr) (isDefinite : Bool) (type : TypeNode)
  | declarator (target : Expr) (value : Option Expr)
  | element (name : Expr) (typeArgs : List TypeNode) (attributes children : List Expr) (isEmpty : Bool)
  | fragment (children : List Expr)
  | jsxText (raw : String)
  | jsxHole (comments : List Comment)
  | jsxContainer (value : Expr)
  | jsxSpread (value : Expr)
  | jsxAttribute (name : Expr) (value : Option Expr)
  | jsxSpreadAttribute (value : Expr)
  | jsxName (name : String)
  | jsxNamespaced (space name : String)
  | jsxMember (object : Expr) (name : String)
  | jsxString (raw : String)
  | enumMember (key : Expr) (isComputed : Bool) (value : Option Expr)
  | commented (comments : List Comment) (node : Expr)

inductive Stmt
  | empty
  | debugger
  | directive (raw : String)
  | block (body : List Stmt)
  | expression (value : Expr)
  | vars (isDeclare : Bool) (kind : VariableKind) (declarators : List Expr)
  | declaration (value : Expr)
  | cond (test : Expr) (yes : Stmt) (no : Option Stmt)
  | loop (init : Option Stmt) (test update : Option Expr) (body : Stmt)
  | loopIn (left : Stmt) (right : Expr) (body : Stmt)
  | loopOf (isAwait : Bool) (left : Stmt) (right : Expr) (body : Stmt)
  | while (test : Expr) (body : Stmt)
  | doWhile (body : Stmt) (test : Expr)
  | continue (label : Option String)
  | break (label : Option String)
  | return (value : Option Expr)
  | throw (value : Expr)
  | with (object : Expr) (body : Stmt)
  | switch (subject : Expr) (cases : List Stmt)
  | case (test : Option Expr) (body : List Stmt)
  | labeled (label : String) (body : Stmt)
  | try (body : List Stmt) (param : Option Expr) (handler finalizer : Option (List Stmt))
  | importFrom (isType : Bool) (phase : Option String) (clause : Option ImportClause) (source : Str)
      (attributes : Option (List ImportAttribute))
  | exportFrom (isType : Bool) (names : List Specifier) (source : Option Str)
      (attributes : Option (List ImportAttribute))
  | exportAll (isType : Bool) (renamed : Option ModuleName) (source : Str)
      (attributes : Option (List ImportAttribute))
  | exportDeclaration (declaration : Stmt)
  | exportDefault (value : Stmt)
  | exportAssign (value : Expr)
  | exportNamespace (name : String)
  | importAlias (isType : Bool) (name : String) (value : Expr)
  | typeAlias (isDeclare : Bool) (name : String) (typeParams : List TypeNode) (type : TypeNode)
  | interface (isDeclare : Bool) (name : String) (typeParams : List TypeNode) (parents : List TypeNode)
      (members : List TypeNode)
  | enum (isDeclare isConst : Bool) (name : String) (members : List Expr)
  | space (isDeclare : Bool) (word : String) (name : Expr) (body : Option (List Stmt))
  | commented (comments : List Comment) (node : Stmt)
  | remarks (comments : List Comment)

end

instance : Inhabited Expr := ⟨.null⟩
instance : Inhabited Stmt := ⟨.empty⟩
instance : Inhabited TypeNode := ⟨.word "any"⟩

structure Program where
  hashbang : Option String := none
  body : List Stmt
  depth : Nat

end PagePreview.Script
