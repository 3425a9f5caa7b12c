import PagePreview.Reference.Symbol
import PagePreview.Text.Quoted

/-! Stand-ins: the script text that gives every classified symbol a safe value. Helpers come first,
each once and only when a symbol needs it, then one declaration for each symbol in order. Every
helper is a constant bound to a function expression, so none looks like the entry of a page. -/

namespace PagePreview.StandIn
open Text

def script (s : String) : String :=
  s.map fun c => if c = '‹' then '\x7b' else if c = '›' then '\x7d' else c

def componentHelper : String := script "const __createStubComponent = function (displayName) ‹
  const Stub = function (props) ‹
    const rest = Object.assign(‹›, props);
    const children = rest.children;
    delete rest.children;
    rest['data-ai-stub'] = displayName;
    return React.createElement('div', rest, children);
  ›;
  Stub.displayName = displayName;
  return Stub;
›;"

def hookHelper : String := script "const __noop = function () ‹›;
const __createStubHook = function (displayName) ‹
  return function () ‹
    return ‹ push: __noop, replace: __noop, back: __noop, prefetch: __noop, refresh: __noop, forward: __noop ›;
  ›;
›;"

def namespaceHelper : String := script "const __createNamespaceStub = function (namespaceLabel) ‹
  const members = ‹›;
  return new Proxy(‹›, ‹
    get: function (target, key) ‹
      if (typeof key === 'symbol') ‹
        return undefined;
      ›
      if (key === '__esModule') ‹
        return true;
      ›
      if (!Object.prototype.hasOwnProperty.call(members, key)) ‹
        members[key] = __createStubComponent(namespaceLabel + '.' + key);
      ›
      return members[key];
    ›
  ›);
›;"

def iconHelper : String := script "const __createIconStub = function (name, path) ‹
  const Icon = function (props) ‹
    const p = props || ‹›;
    let size = 24;
    if (typeof p.size === 'number' && isFinite(p.size)) ‹
      size = p.size;
    › else if (typeof p.size === 'string' && !isNaN(parseFloat(p.size))) ‹
      size = parseFloat(p.size);
    ›
    const rest = Object.assign(‹›, p);
    delete rest.size;
    delete rest.color;
    delete rest.strokeWidth;
    delete rest.absoluteStrokeWidth;
    delete rest.children;
    const attrs = Object.assign(‹
      xmlns: 'http://www.w3.org/2000/svg',
      width: size,
      height: size,
      viewBox: '0 0 24 24',
      fill: 'none',
      stroke: p.color || 'currentColor',
      strokeWidth: p.strokeWidth != null ? p.strokeWidth : 2,
      strokeLinecap: 'round',
      strokeLinejoin: 'round'
    ›, rest, ‹ 'data-ai-icon': name ›);
    return React.createElement('svg', attrs, React.createElement('path', ‹ d: path || __DEFAULT_ICON_PATH ›));
  ›;
  Icon.displayName = name;
  return Icon;
›;"

def imageHelper : String := script "const __IMAGE_ONLY_PROPS = ['priority', 'placeholder', 'blurDataURL', 'loader', 'quality', 'sizes', 'unoptimized', 'layout', 'objectFit', 'objectPosition', 'onLoadingComplete', 'lazyBoundary', 'lazyRoot', 'fill', 'loading', 'children'];
const __ImageStub = function (props) ‹
  const p = props || ‹›;
  const rest = ‹›;
  Object.keys(p).forEach(function (key) ‹
    if (__IMAGE_ONLY_PROPS.indexOf(key) === -1) ‹
      rest[key] = p[key];
    ›
  ›);
  rest.alt = p.alt || '';
  rest.src = typeof p.src === 'string' && p.src.trim().length > 0 ? p.src : __IMAGE_FALLBACK;
  if (p.fill) ‹
    const style = p.style || ‹›;
    rest.style = Object.assign(‹
      position: 'absolute',
      inset: 0,
      width: '100%',
      height: '100%',
      objectFit: style.objectFit || p.objectFit || 'cover'
    ›, style);
  ›
  rest.loading = p.loading === 'eager' ? 'eager' : 'lazy';
  return React.createElement('img', rest);
›;"

def linkHelper : String := script "const __LINK_ONLY_PROPS = ['prefetch', 'replace', 'scroll', 'shallow', 'passHref', 'legacyBehavior', 'locale', 'children'];
const __LinkStub = function (props) ‹
  const p = props || ‹›;
  const rest = ‹›;
  Object.keys(p).forEach(function (key) ‹
    if (__LINK_ONLY_PROPS.indexOf(key) === -1) ‹
      rest[key] = p[key];
    ›
  ›);
  let href = p.href;
  if (href && typeof href === 'object') ‹
    href = href.pathname || __LINK_FALLBACK;
  ›
  rest.href = href == null ? __LINK_FALLBACK : href;
  return React.createElement('a', rest, p.children);
›;"

def declare (name value : String) : String := "const " ++ name ++ " = " ++ value ++ ";"

/-- The script value of a symbol's icon path: that of its own name, else that of its alias. -/
def iconPathValue (s : ClassifiedSymbol) : String :=
  match (Icon.path? s.imported).or (Icon.path? s.name) with
  | some path => quoted path
  | none => "null"

def value (s : ClassifiedSymbol) : String :=
  match s.kind with
  | .component => "__createStubComponent(" ++ quoted s.name ++ ")"
  | .statefulCapability => "__createStubHook(" ++ quoted s.name ++ ")"
  | .icon => "__createIconStub(" ++ quoted s.name ++ ", " ++ iconPathValue s ++ ")"
  | .namespaceProxy => "__createNamespaceStub(" ++ quoted s.name ++ ")"
  | .mediaStandIn => "__ImageStub"
  | .navigationStandIn => "__LinkStub"
  | .utility =>
    script "function () ‹ return Array.prototype.slice.call(arguments).filter(Boolean).join(' '); ›"
  | .plainValue => script "function () ‹ return null; ›"

def declaration (s : ClassifiedSymbol) : String := declare s.name (value s)

def helpers (config : Config) (table : SymbolTable) : List String :=
  let needs (kind : SymbolKind) (texts : List String) : List String :=
    if table.containsKind kind then texts else []
  (if table.containsKind .component || table.containsKind .namespaceProxy then [componentHelper]
    else []) ++
  needs .statefulCapability [hookHelper] ++
  needs .namespaceProxy [namespaceHelper] ++
  needs .icon [declare "__DEFAULT_ICON_PATH" (quoted Icon.defaultPath), iconHelper] ++
  needs .mediaStandIn [declare "__IMAGE_FALLBACK" (quoted config.imagePlaceholderUrl), imageHelper] ++
  needs .navigationStandIn [declare "__LINK_FALLBACK" (quoted config.linkPlaceholderHref), linkHelper]

def lines (texts : List String) : String := "\n".intercalate texts ++ "\n"

def prelude (config : Config) (table : SymbolTable) : String :=
  if table.entries.isEmpty then ""
  else lines (helpers config table) ++ lines (table.entries.map declaration)

def memberPattern (imported name : String) : String :=
  if imported = name then name else imported ++ ": " ++ name

/-- Binds names from the runtime handle: all members in one statement, then the handle's names. -/
def runtimeBindings (bindings : List RuntimeBinding) : String :=
  let members := bindings.filterMap fun
    | .member imported name => some (memberPattern imported name)
    | .handle _ => none
  let handles := bindings.filterMap fun
    | .handle name => some (declare name runtimeHandle ++ "\n")
    | .member .. => none
  (if members.isEmpty then ""
    else "const \x7b " ++ ", ".intercalate members ++ " \x7d = " ++ runtimeHandle ++ ";\n") ++
  String.join handles

end PagePreview.StandIn
