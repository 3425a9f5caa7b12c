import PagePreview.Failure
import PagePreview.Script.Check
import PagePreview.Script.ElementCall
import PagePreview.Script.Erasure
import PagePreview.Script.Grammar
import PagePreview.Script.Printer

/-! Lowering: an assembled unit becomes a plain script. It is read, its markup becomes calls, its
declarations are checked, its types are erased, and what is left is written out. -/

namespace PagePreview
open Script

def lower (unit : String) : Except Failure String :=
  let reading := Program.read { isModule := false, looseReturn := true } unit.toList
  match reading.program, reading.faults with
  | some p, [] =>
    let p := (ElementCall.program p).1
    match Check.complaint? p with
    | some message => .error (.lowering message)
    | none =>
      match Erasure.program p with
      | .ok p => .ok (p.print '"')
      | .error message => .error (.lowering message)
  | _, f :: _ => .error (.lowering f.message)
  | none, [] => .error (.lowering "the generated code could not be parsed")

end PagePreview
