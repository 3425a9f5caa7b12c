import PagePreview.Entry
import PagePreview.Reference.Symbol
import PagePreview.StandIn
import PagePreview.StyleIsland

/-! Sanitized sources: a page's text without imports and exports, with a prelude of stand-ins, and its
layout as the body of a strict function that is given the runtime handle and returns the entry. The
handle and the usual hooks are bound in the outer block; stand-ins and body stand in an inner one, where
their declarations shadow the outer names. -/

namespace PagePreview
open Text

/-- A source without its import statements, and what these bind. -/
structure Scan where
  body : List Char
  references : List Reference
  symbols : SymbolTable
  runtimeBindings : List RuntimeBinding

namespace Scan
open Matcher

/-- Reads the statements one after the other; the first that cannot be read is the failure. -/
def readStatements : List (Piece (Span × Span)) → Except Failure (List Reference)
  | [] => .ok []
  | .kept _ :: pieces => readStatements pieces
  | .hit _ statement :: pieces => do
    let r ← Reference.parse statement
    let rs ← readStatements pieces
    pure (r :: rs)

def effectReference (module : Span) : Reference :=
  { moduleName := String.ofList module.text }

def ofSource (config : Config) (source : List Char) : Except Failure Scan := do
  let bound := Reference.onLines Reference.boundImport
  let effect := Reference.onLines Reference.effectImport
  let references ← readStatements (bound.pieces source)
  let rest := bound.erase source
  let references := references ++ (effect.values rest).map effectReference
  let symbols := SymbolTable.ofReferences config references
  pure {
    body := effect.erase rest
    references
    symbols
    runtimeBindings := RuntimeBinding.collect config references symbols }

end Scan

structure Sanitized where
  standIns : String
  body : String
  entryName : String
  entryForm : EntryForm
  references : List Reference
  deriving DecidableEq

namespace Sanitized

def text (s : Sanitized) : String := s.standIns ++ s.body

def asModule (s : Sanitized) : String :=
  let text := s.text
  (if endsLine text.toList then text else text ++ "\n") ++
    "export default " ++ s.entryName ++ ";\n"

def ofSource (config : Config) (source : String) : Except Failure Sanitized := do
  let styled := StyleIsland.normalize (Entry.stripClientDirective source.toList)
  let scan ← Scan.ofSource config styled
  let entry := Entry.extract config.fallbackEntryName scan.body
  pure {
    standIns := StandIn.runtimeBindings scan.runtimeBindings ++ StandIn.prelude config scan.symbols
    body := String.ofList entry.body
    entryName := entry.name
    entryForm := entry.form
    references := scan.references }

end Sanitized

def runtimeParameter : String := "__ReactRuntime"

def missingEntryMark : String := "__missing_entry__:"

def boundHooks : List String := [
  "Fragment", "useState", "useEffect", "useLayoutEffect", "useMemo", "useCallback", "useRef",
  "useReducer", "useId", "useContext"]

def closedLine (s : String) : String :=
  if s.isEmpty || endsLine s.toList then s else s ++ "\n"

namespace Sanitized

def entryReturn (entry : String) : String :=
  "if (typeof " ++ entry ++ " === 'undefined') \x7b throw new Error('" ++ missingEntryMark ++ entry ++
    "'); \x7d\nreturn " ++ entry ++ ";\n"

def assemble (s : Sanitized) : String :=
  "'use strict';\nconst " ++ runtimeHandle ++ " = " ++ runtimeParameter ++ ";\nconst \x7b " ++
    ", ".intercalate boundHooks ++ " \x7d = " ++ runtimeHandle ++ ";\n\x7b\n" ++
    closedLine s.standIns ++ (if endsLine s.body.toList then s.body else s.body ++ "\n") ++
    entryReturn s.entryName ++ "\x7d\n"

end Sanitized

end PagePreview
