import PagePreview.Number.Word
import PagePreview.Script.Tree

/-! Values of enum members that are known before a script runs. -/

namespace PagePreview.Script
open Number

inductive EnumValue
  | number (value : Float)
  | string (value : Str)

namespace EnumValue

abbrev Table := List (Str × Option EnumValue)

def text : EnumValue → Str
  | .number x => .plain (scriptText x)
  | .string s => s

def toExpr : EnumValue → Expr
  | .number x => .number x (scriptText x)
  | .string s => .string s ""

def binary (op : BinaryOp) (a b : EnumValue) : Option EnumValue :=
  match op, a, b with
  | .add, .number x, .number y => some (.number (x + y))
  | .add, a, b => some (.string (a.text ++ b.text))
  | op, .number x, .number y =>
    match op with
    | .sub => some (.number (x - y))
    | .mul => some (.number (x * y))
    | .div => some (.number (x / y))
    | .rem => some (.number (remainder x y))
    | .pow => some (.number (power x y))
    | .bitOr => some (.number (bitOr x y))
    | .bitXor => some (.number (bitXor x y))
    | .bitAnd => some (.number (bitAnd x y))
    | .shiftLeft => some (.number (shiftLeft x y))
    | .shiftRight => some (.number (shiftRight x y))
    | .shiftRightZero => some (.number (shiftRightZero x y))
    | _ => none
  | _, _, _ => none

def unary (op : UnaryOp) (a : EnumValue) : Option EnumValue :=
  match op, a with
  | .plus, .number x => some (.number x)
  | .minus, .number x => some (.number (-x))
  | .bitNot, .number x => some (.number (bitNot x))
  | _, _ => none

def template : List Quasi → List EnumValue → Option EnumValue
  | [q], [] => q.cooked.map .string
  | q :: qs, v :: vs => do
    let head ← q.cooked
    let tail ← template qs vs
    some (.string (head ++ v.text ++ tail.text))
  | _, _ => none

/-- The value of an expression among the members of `enums`, of which `own` is being declared. -/
def ofExpr? (enums : List (String × Table)) (own : Table) : Nat → Expr → Option EnumValue
  | 0, _ => none
  | fuel + 1, e =>
    let value := ofExpr? enums own fuel
    match e with
    | .number x _ => some (.number x)
    | .string s _ => some (.string s)
    | .paren e => value e
    | .template quasis values => do template quasis (← values.mapM value)
    | .unary op e => do unary op (← value e)
    | .binary op l r => do binary op (← value l) (← value r)
    | .identifier "Infinity" => some (.number (1.0 / 0.0))
    | .identifier "NaN" => some (.number (0.0 / 0.0))
    | .identifier name => (own.lookup (.plain name)).join
    | .member (.identifier name) false key => do (← (← enums.lookup name).lookup (.plain key))
    | .index (.identifier name) false (.string key _) => do (← (← enums.lookup name).lookup key)
    | _ => none

end EnumValue
end PagePreview.Script
