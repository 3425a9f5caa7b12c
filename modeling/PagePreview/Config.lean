/-! The settings of the renderer, with their defaults. -/

namespace PagePreview

def iconModules : List String := [
  "lucide-react", "react-icons", "@heroicons/react", "@radix-ui/react-icons",
  "@tabler/icons-react", "react-feather", "phosphor-react", "@phosphor-icons/react",
  "react-bootstrap-icons"]

structure Config where
  fallbackEntryName : String := "WebsitePage"
  imagePlaceholderUrl : String := "https://cdn.aipagebuilder.local/placeholder-image.jpg"
  linkPlaceholderHref : String := "#"
  runtimeModules : List String := ["react"]
  extraIconModules : List String := []
  loopIterationLimit : Nat := 1000000
  recursionLimit : Nat := 512
  cacheCapacity : Nat := 64
  workerStackSize : Nat := 16777216
  deriving DecidableEq

namespace Config

def isRuntimeModule (config : Config) (module : String) : Bool :=
  config.runtimeModules.contains module

def iconModules (config : Config) : List String :=
  PagePreview.iconModules ++ config.extraIconModules

end Config
end PagePreview
