import PagePreview.Icon
import PagePreview.Reference
import Std.Data.TreeSet

/-! Symbols: what kind of stand-in each imported name needs, and which names come from the runtime
handle instead. The kind is read off the name and the module; there is no type information. -/

namespace PagePreview
open Text

inductive SymbolKind
  | component
  | statefulCapability
  | icon
  | mediaStandIn
  | navigationStandIn
  | namespaceProxy
  | utility
  | plainValue
  deriving DecidableEq

def SymbolKind.label : SymbolKind → String
  | .component => "component"
  | .statefulCapability => "statefulCapability"
  | .icon => "icon"
  | .mediaStandIn => "mediaStandIn"
  | .navigationStandIn => "navigationStandIn"
  | .namespaceProxy => "namespaceProxy"
  | .utility => "utility"
  | .plainValue => "plainValue"

def isHookName (name : String) : Bool := (after? "use".toList name.toList).any startsUpper

def SymbolKind.classify (config : Config) (name module : String) : SymbolKind :=
  if name = "Image" then .mediaStandIn
  else if name = "Link" then .navigationStandIn
  else if isHookName name then .statefulCapability
  else if startsUpper name.toList then
    if Icon.isIconModule config module then .icon else .component
  else if name = "cn" then .utility
  else .plainValue

structure ClassifiedSymbol where
  name : String
  imported : String
  kind : SymbolKind
  moduleName : String
  deriving DecidableEq

/-- Classified symbols in the order in which their names were first offered, and beside them the set of
the names that are taken, which only an insertion keeps in step with them. -/
structure SymbolTable where
  entries : List ClassifiedSymbol := []
  taken : Std.TreeSet String := ∅

namespace SymbolTable

def empty : SymbolTable := {}

def get? (table : SymbolTable) (name : String) : Option SymbolKind :=
  (table.entries.find? (·.name == name)).map (·.kind)

def contains (table : SymbolTable) (name : String) : Bool := table.taken.contains name

def containsKind (table : SymbolTable) (kind : SymbolKind) : Bool :=
  table.entries.any (·.kind == kind)

def size (table : SymbolTable) : Nat := table.entries.length

def insert (table : SymbolTable) (symbol : ClassifiedSymbol) : SymbolTable :=
  if table.contains symbol.name then table
  else ⟨table.entries ++ [symbol], table.taken.insert symbol.name⟩

def insertAliased (table : SymbolTable) (name imported : String) (kind : SymbolKind) (module : String) :
    Bool × SymbolTable :=
  (!table.contains name, table.insert ⟨name, imported, kind, module⟩)

def insertNamed (table : SymbolTable) (name : String) (kind : SymbolKind) (module : String) :
    Bool × SymbolTable :=
  table.insertAliased name name kind module

end SymbolTable

def Reference.symbols (config : Config) (r : Reference) : List ClassifiedSymbol :=
  let ofName (name imported : String) : ClassifiedSymbol :=
    ⟨name, imported, .classify config name r.moduleName, r.moduleName⟩
  r.defaultName.toList.map (fun name => ofName name name) ++
    r.named.map (fun s => ofName s.localName s.imported) ++
    r.namespaceName.toList.map fun name => ⟨name, name, .namespaceProxy, r.moduleName⟩

/-- Adds the symbols of a reference; one that is type-only or comes from the runtime offers none. -/
def SymbolTable.register (config : Config) (table : SymbolTable) (r : Reference) : SymbolTable :=
  if r.typeOnly || config.isRuntimeModule r.moduleName then table
  else (r.symbols config).foldl insert table

def SymbolTable.ofReferences (config : Config) (references : List Reference) : SymbolTable :=
  references.foldl (register config) empty

def runtimeHandle : String := "React"

inductive RuntimeBinding
  | member (imported localName : String)
  | handle (localName : String)
  deriving DecidableEq

namespace RuntimeBinding

def localName : RuntimeBinding → String
  | .member _ name => name
  | .handle name => name

def ofNamed (s : NamedSymbol) : RuntimeBinding :=
  if s.imported = "default" then .handle s.localName else .member s.imported s.localName

def ofReference (config : Config) (r : Reference) : List RuntimeBinding :=
  if r.typeOnly || !config.isRuntimeModule r.moduleName then []
  else (r.defaultName.toList ++ r.namespaceName.toList).map handle ++ r.named.map ofNamed

def add (table : SymbolTable) (bindings : List RuntimeBinding) (b : RuntimeBinding) :
    List RuntimeBinding :=
  if b.localName = runtimeHandle || table.contains b.localName ||
      bindings.any (·.localName == b.localName) then bindings
  else bindings ++ [b]

def collect (config : Config) (references : List Reference) (table : SymbolTable) :
    List RuntimeBinding :=
  (references.flatMap (ofReference config)).foldl (add table) []

end RuntimeBinding
end PagePreview
