import PagePreview.Text.Blank

/-! The ways a page can fail, each with its stage and its wording. A page that cannot be formatted
is no failure: it carries a warning and goes on. -/

namespace PagePreview

inductive Stage
  | format
  | compile
  | execution
  deriving DecidableEq

def Stage.label : Stage → String
  | .format => "format"
  | .compile => "compile"
  | .execution => "execution"

inductive Failure
  | malformedReference (statement reason : String)
  | lowering (message : String)
  | missingEntry (entry : String)
  | notRenderable
  | runtime (message : String)
  | workerLost
  deriving DecidableEq

namespace Failure

def stage : Failure → Stage
  | .malformedReference .. | .lowering .. => .compile
  | .missingEntry .. | .notRenderable | .runtime .. | .workerLost => .execution

def message : Failure → String
  | .malformedReference statement reason =>
    "malformed import declaration `" ++ statement ++ "`: " ++ reason
  | .lowering text => text
  | .missingEntry entry =>
    "no default component was found to render (expected `" ++ entry ++ "`)"
  | .notRenderable => "output is not a valid renderable unit"
  | .runtime text => text
  | .workerLost => "render worker terminated before reporting a result"

def thrown (message : String) : Failure :=
  if (Text.trim message.toList).isEmpty then
    .runtime "the generated site could not be rendered"
  else .runtime message

end Failure
end PagePreview
