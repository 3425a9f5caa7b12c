import PagePreview.Config
import PagePreview.Json.Reader

/-! Reading settings from their text: an object with known keys, or an array of their values in
order. -/

namespace PagePreview.Config
open Text Json Json.Reader

def fieldNames : List String := [
  "fallbackEntryName", "imagePlaceholderUrl", "linkPlaceholderHref", "runtimeModules",
  "extraIconModules", "loopIterationLimit", "recursionLimit", "cacheCapacity", "workerStackSize"]

namespace Reader

def mismatch {α : Type} (c : Char) (expected : String) : Reader α := placed do
  let wrong (found : Unexpected) : Reader α := failUnplaced (.invalidType found expected)
  if c == 'n' then do skip; wordRest "ull".toList; wrong .null
  else if c == 't' then do skip; wordRest "rue".toList; wrong (.boolean true)
  else if c == 'f' then do skip; wordRest "alse".toList; wrong (.boolean false)
  else if c == '-' then do skip; wrong (← numeral false).unexpected
  else if isAsciiDigit c then wrong (← numeral true).unexpected
  else if c == '"' then do skip; wrong (.string (← stringBody))
  else if c == '[' then wrong .sequence
  else if c == '\x7b' then wrong .map
  else failAhead .expectedValue

def string : Reader String := do
  let c ← valueStart
  if c == '"' then do skip; return String.ofList (← stringBody)
  else mismatch c "a string"

def natural (kind : String) : Reader Nat := placed do
  let c ← valueStart
  let number ← if c == '-' then do skip; numeral false
    else if isAsciiDigit c then numeral true
    else mismatch c kind
  match number with
  | .integer n =>
    if n < 0 then failUnplaced (.invalidValue (.integer n) kind) else return n.toNat
  | .float x => failUnplaced (.invalidType (.float x) kind)

def stringsFrom : Nat → Bool → Reader (List String)
  | 0, _ => return []
  | fuel + 1, isFirst => do
    if ← listGoesOn isFirst then do
      let s ← string
      return s :: (← stringsFrom fuel false)
    else return []

def strings : Reader (List String) := do
  let c ← valueStart
  if c == '[' then do
    skip
    closing (do stringsFrom ((← get).ahead.length + 1) true) listEnd
  else mismatch c "a sequence"

def field (config : Config) (name : String) : Reader Config := do
  match name with
  | "fallbackEntryName" => return { config with fallbackEntryName := ← string }
  | "imagePlaceholderUrl" => return { config with imagePlaceholderUrl := ← string }
  | "linkPlaceholderHref" => return { config with linkPlaceholderHref := ← string }
  | "runtimeModules" => return { config with runtimeModules := ← strings }
  | "extraIconModules" => return { config with extraIconModules := ← strings }
  | "loopIterationLimit" => return { config with loopIterationLimit := ← natural "u64" }
  | "recursionLimit" => return { config with recursionLimit := ← natural "usize" }
  | "cacheCapacity" => return { config with cacheCapacity := ← natural "usize" }
  | _ => return { config with workerStackSize := ← natural "usize" }

def fieldsInOrder : List String → Bool → Config → Reader Config
  | [], _, config => return config
  | name :: names, isFirst, config => do
    if ← listGoesOn isFirst then fieldsInOrder names false (← field config name)
    else return config

def fieldsByName : Nat → Bool → List String → Config → Reader Config
  | 0, _, _, config => return config
  | fuel + 1, isFirst, seen, config => do
    if ← objectGoesOn isFirst then do
      skip
      let key ← stringBody
      let name := String.ofList key
      if !fieldNames.contains name then failUnplaced (.unknownField key fieldNames)
      if seen.contains name then failUnplaced (.duplicateField name)
      colon
      fieldsByName fuel false (name :: seen) (← field config name)
    else return config

def settings : Reader Config := do
  let c ← valueStart
  if c == '[' then do skip; closing (fieldsInOrder fieldNames true {}) listEnd
  else if c == '\x7b' then do
    skip
    closing (do fieldsByName ((← get).ahead.length + 1) true [] {}) objectEnd
  else mismatch c "struct RendererConfig"

end Reader

def ofText (text : String) : Except String Config := Json.read Reader.settings text

end PagePreview.Config
