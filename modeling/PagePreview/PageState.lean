import PagePreview.Failure
import PagePreview.Markup.Summary

/-! The state of one page on its way to a preview: formatted, compiled, then ready or failed. -/

namespace PagePreview

inductive Status
  | formatting
  | compiling
  | ready
  | error
  deriving DecidableEq

namespace Status

def name : Status → String
  | .formatting => "formatting"
  | .compiling => "compiling"
  | .ready => "ready"
  | .error => "error"

def label : Status → String
  | .formatting => "Formatting generated code..."
  | .compiling => "Compiling components..."
  | .ready => "Render ready"
  | .error => "The site could not be rendered."

def isTerminal : Status → Bool
  | .formatting | .compiling => false
  | .ready | .error => true

end Status

structure Formatted where
  text : String
  warning : Option String := none
  deriving DecidableEq

structure RenderedUnit where
  entryName : String
  markup : String
  summary : MarkupSummary
  deriving DecidableEq

structure PageState where
  status : Status
  formattedText : String := ""
  formatWarning : Option String := none
  runtimeError : Option String := none
  failureStage : Option Stage := none
  resolvedUnit : Option RenderedUnit := none
  deriving DecidableEq

namespace PageState

def formatting : PageState := { status := .formatting }

def isTerminal (s : PageState) : Bool := s.status.isTerminal

def applyFormatted (s : PageState) (f : Formatted) : PageState :=
  if s.status = .formatting then
    { s with
      status := .compiling
      formattedText := f.text
      formatWarning := f.warning
      failureStage := if f.warning.isSome then some .format else s.failureStage }
  else s

def fail (s : PageState) (e : Failure) : PageState :=
  { s with
    status := .error
    failureStage := some e.stage
    runtimeError := some e.message
    resolvedUnit := none }

def applyCompiled (s : PageState) (result : Except Failure RenderedUnit) : PageState :=
  if s.status = .compiling then
    match result with
    | .ok unit => { s with status := .ready, resolvedUnit := some unit }
    | .error e => s.fail e
  else s

end PageState
end PagePreview
