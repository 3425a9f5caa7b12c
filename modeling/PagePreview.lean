import PagePreview.Config.Reader
import PagePreview.Content
import PagePreview.Formatting
import PagePreview.JsxText
import PagePreview.Lowering
import PagePreview.Number.Shortest
import PagePreview.Proofs.Interplay
import PagePreview.Proofs.PageState
import PagePreview.Proofs.Sanitized
import PagePreview.Proofs.Scan
import PagePreview.Proofs.StyleIsland
import PagePreview.Sandbox
import PagePreview.Proofs.Seams
import PagePreview.Proofs.Resanitized
import PagePreview.Proofs.Machine.Heap
import PagePreview.Proofs.Machine.Standard
import PagePreview.Proofs.Machine.Realm
import PagePreview.Proofs.Script.Str
import PagePreview.Proofs.Render.Host
import PagePreview.Proofs.Render.Element
import PagePreview.Proofs.Render.Markup
import PagePreview.Proofs.Render.Rendered
import PagePreview.Proofs.Render.Lowered
import PagePreview.Proofs.Machine.Evaluate
import PagePreview.Proofs.Render.Evaluated
import PagePreview.Proofs.Canonical
import PagePreview.Proofs.Content
import PagePreview.Proofs.Consumption
import PagePreview.Proofs.DefaultExport
import PagePreview.Proofs.DefaultEntry
import PagePreview.Proofs.EntryBinding
import PagePreview.Proofs.Literal
import PagePreview.Proofs.NamedDefault
import PagePreview.Proofs.Guess
import PagePreview.Proofs.Hygiene
import PagePreview.Proofs.Markup.Building
import PagePreview.Proofs.Markup.Standing
import PagePreview.Proofs.Markup.Summarized
import PagePreview.Proofs.RenderedSummary
import PagePreview.Proofs.Shadowing
import PagePreview.Proofs.StandInEntry
import PagePreview.Proofs.Helpers
import PagePreview.Proofs.Icon
import PagePreview.Proofs.Memo
import PagePreview.Proofs.Payload
import PagePreview.Proofs.Spelling
import PagePreview.Proofs.StyleFlags
import PagePreview.Proofs.Escaping
import PagePreview.Proofs.JsxText
import PagePreview.Proofs.View
import PagePreview.Proofs.ModuleBody
import PagePreview.Proofs.SymbolHistory
import PagePreview.Proofs.Machine.Outcome
import PagePreview.Proofs.Machine.Errors
import PagePreview.Proofs.Reported
import PagePreview.Proofs.ElementProps
import PagePreview.Proofs.Contexts
