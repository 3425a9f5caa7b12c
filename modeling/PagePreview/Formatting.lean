import PagePreview.PageState
import PagePreview.Script.Grammar
import PagePreview.Script.Printer
import PagePreview.Text.Blank

/-! Formatting: a source is read and written again. One that cannot be read stays as it is. -/

namespace PagePreview
open Text Script

def formatWarning : String :=
  "The generated code could not be formatted. The original version is shown instead."

def Formatted.ofSource (source : String) : Formatted :=
  if (trim source.toList).isEmpty then { text := source }
  else
    let reading := Program.read {} source.toList
    match reading.program, reading.faults with
    | some p, [] => { text := p.print '\'' }
    | _, _ => { text := source, warning := some formatWarning }

end PagePreview
