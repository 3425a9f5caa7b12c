import PagePreview.PageState

/-! The view of a page's state: the preview's shell as markup. Texts that come from the page or
from a failure are escaped; only a rendered page stands in the shell as it is. -/

namespace PagePreview

def escapeChar : Char → List Char
  | '&' => "&amp;".toList
  | '<' => "&lt;".toList
  | '>' => "&gt;".toList
  | '"' => "&quot;".toList
  | '\'' => "&#x27;".toList
  | c => [c]

def escapeMarkup (s : List Char) : List Char := s.flatMap escapeChar

def escaped (s : String) : String := String.ofList (escapeMarkup s.toList)

structure View where
  status : Status
  label : String
  html : String
  deriving DecidableEq

namespace View

def tagged (tag classes content : String) : String :=
  "<" ++ tag ++ " class=\"" ++ classes ++ "\">" ++ content ++ "</" ++ tag ++ ">"

def textElement (tag classes : String) (text : Option String) : String :=
  text.elim "" fun s => tagged tag classes (escaped s)

def banner (s : PageState) : String :=
  if s.status = .ready then ""
  else
    tagged "div" "flex min-h-screen flex-col items-center justify-center gap-3 px-6 text-center text-sm text-slate-300"
      (tagged "div" "animate-pulse text-base font-medium text-white" s.status.label ++
        textElement "p" "max-w-lg text-xs text-rose-300" s.runtimeError ++
        textElement "p" "max-w-lg text-xs text-amber-300" s.formatWarning)

def content (s : PageState) : String :=
  match s.status, s.resolvedUnit with
  | .ready, some unit => tagged "div" "bg-white text-slate-900" unit.markup
  | .error, none =>
    tagged "div" "flex min-h-screen flex-col items-center justify-center px-6 text-center text-sm text-slate-300"
      (tagged "p" "text-base font-semibold text-rose-200" "We could not render the generated content." ++
        textElement "p" "mt-2 max-w-xl text-xs text-slate-400" s.runtimeError)
  | _, _ => ""

def codePanel (s : PageState) (shown : Bool) : String :=
  if shown && !s.formattedText.isEmpty then
    tagged "details" "fixed bottom-6 right-6 w-[min(90vw,32rem)] overflow-hidden rounded-2xl border border-white/20 bg-slate-900/80 backdrop-blur"
      (tagged "summary" "cursor-pointer px-4 py-3 text-sm font-medium text-white" "View formatted code" ++
        tagged "pre" "max-h-[60vh] overflow-auto bg-slate-950 p-4 text-[11px] leading-relaxed text-emerald-200"
          (escaped s.formattedText))
  else ""

def ofState (s : PageState) (showCodePanel : Bool) : View where
  status := s.status
  label := s.status.label
  html := tagged "div" "relative min-h-screen bg-black text-white"
    (banner s ++ content s ++ codePanel s showCodePanel)

end View
end PagePreview
