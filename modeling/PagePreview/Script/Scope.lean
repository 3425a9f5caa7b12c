/-! Scopes: which names a stretch of a script declares, and which declarations of one name can
stand side by side. -/

namespace PagePreview.Script

def strictWords : List String :=
  ["implements", "interface", "let", "package", "private", "protected", "public", "static", "yield"]

inductive Binding
  | var | lexical | function | classDef | regularEnum | constEnum | space
  | typeAlias | interface | typeParam | imported
  deriving DecidableEq

namespace Binding

def isValue : Binding → Bool
  | .var | .lexical | .function | .classDef | .regularEnum | .constEnum | .space => true
  | _ => false

def isType : Binding → Bool
  | .classDef | .regularEnum | .constEnum | .typeAlias | .interface | .typeParam => true
  | _ => false

def clashes (later earlier : Binding) : Bool :=
  match later with
  | .var => earlier.isValue && !([.var, .function].contains earlier)
  | .lexical => earlier.isValue
  | .function => earlier.isValue && !([.function, .space, .classDef].contains earlier)
  | .classDef => (earlier.isValue || earlier == .typeAlias) && !([.space, .function].contains earlier)
  | .regularEnum => (earlier.isValue || earlier.isType) && !([.regularEnum, .space].contains earlier)
  | .constEnum => (earlier.isValue || earlier.isType) && earlier != .constEnum
  | .space =>
    earlier.isValue && !([.function, .classDef, .regularEnum, .space].contains earlier)
  | .typeAlias => earlier.isType
  | .interface => earlier.isType && !([.interface, .classDef].contains earlier)
  | .typeParam => earlier.isType && earlier != .typeParam
  | .imported => earlier == .imported

end Binding

structure Scope where
  holdsVars : Bool := false
  declared : List (String × Binding) := []
  passed : List String := []

namespace Scope

def bindingsOf (s : Scope) (name : String) : List Binding :=
  s.declared.filterMap fun (n, b) => if n == name then some b else none

def clashes (s : Scope) (name : String) (b : Binding) : Bool :=
  (s.bindingsOf name).any b.clashes || (s.passed.contains name && b.clashes .var)

def declare (s : Scope) (name : String) (b : Binding) : Scope :=
  { s with declared := (name, b) :: s.declared }

/-- Declares a variable in the nearest scope that holds it; none if it meets a clash on its way. -/
def declareVar? (name : String) : List Scope → Option (List Scope)
  | [] => some []
  | s :: outer =>
    if (s.bindingsOf name).any (Binding.clashes .var) then none
    else if s.holdsVars then some (s.declare name .var :: outer)
    else (declareVar? name outer).map ({ s with passed := name :: s.passed } :: ·)

end Scope
end PagePreview.Script
