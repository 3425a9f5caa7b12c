import PagePreview.Machine.Store

/-! The objects that are there before a script runs, each at a fixed place of the store, and the
symbols that have a meaning of their own. -/

namespace PagePreview.Machine
open Script

inductive Intrinsic
  | globalObject
  | objectPrototype | functionPrototype | arrayPrototype | stringPrototype | numberPrototype
  | booleanPrototype | symbolPrototype | bigintPrototype
  | errorPrototype | typeErrorPrototype | rangeErrorPrototype | referenceErrorPrototype
  | syntaxErrorPrototype | evalErrorPrototype | uriErrorPrototype | aggregateErrorPrototype
  | patternPrototype | mapPrototype | setPrototype | weakMapPrototype | weakSetPrototype
  | weakRefPrototype | promisePrototype | datePrototype
  | bufferPrototype | sharedBufferPrototype | windowPrototype | rowPrototype
  | int8Prototype | uint8Prototype | uint8ClampedPrototype | int16Prototype | uint16Prototype
  | int32Prototype | uint32Prototype | float32Prototype | float64Prototype | bigInt64Prototype
  | bigUint64Prototype
  | iteratorPrototype | arrayIteratorPrototype | stringIteratorPrototype | mapIteratorPrototype
  | setIteratorPrototype | patternIteratorPrototype | generatorPrototype
  | asyncIteratorPrototype | asyncGeneratorPrototype
  | asyncFunctionPrototype | generatorFunctionPrototype | asyncGeneratorFunctionPrototype
  | objectConstructor | functionConstructor | arrayConstructor | stringConstructor
  | numberConstructor | booleanConstructor | symbolConstructor | bigintConstructor
  | errorConstructor | typeErrorConstructor | rangeErrorConstructor | referenceErrorConstructor
  | syntaxErrorConstructor | evalErrorConstructor | uriErrorConstructor | aggregateErrorConstructor
  | patternConstructor | mapConstructor | setConstructor | weakMapConstructor | weakSetConstructor
  | weakRefConstructor | promiseConstructor | proxyConstructor | dateConstructor
  | bufferConstructor | sharedBufferConstructor | windowConstructor | rowConstructor
  | int8Constructor | uint8Constructor | uint8ClampedConstructor | int16Constructor
  | uint16Constructor | int32Constructor | uint32Constructor | float32Constructor
  | float64Constructor | bigInt64Constructor | bigUint64Constructor
  | asyncFunctionConstructor | generatorFunctionConstructor | asyncGeneratorFunctionConstructor
  | mathObject | jsonObject | reflectObject | atomicsObject | consoleObject
  | arrayForEach | arrayValues | arrayToString | objectKeys | stringReplace | evalFunction
  | strictThrower
  | handle | childrenTools | componentPrototype | pureComponentPrototype
  | pageNoop | pageRenderNode | pageCreateElement
  deriving DecidableEq, Inhabited

namespace Intrinsic

def id (i : Intrinsic) : Nat := i.ctorIdx

def count : Nat := Intrinsic.pageCreateElement.ctorIdx + 1

def value (i : Intrinsic) : Value := .object i.id

end Intrinsic

def wellKnownSymbols : List String := ["iterator", "asyncIterator", "hasInstance", "toPrimitive",
  "toStringTag", "species", "isConcatSpreadable", "unscopables", "match", "matchAll", "replace",
  "search", "split"]

namespace Key

def iterator : Key := .symbol 0
def asyncIterator : Key := .symbol 1
def hasInstance : Key := .symbol 2
def toPrimitive : Key := .symbol 3
def toStringTag : Key := .symbol 4
def species : Key := .symbol 5
def isConcatSpreadable : Key := .symbol 6
def unscopables : Key := .symbol 7
def matchKey : Key := .symbol 8
def matchAll : Key := .symbol 9
def replace : Key := .symbol 10
def search : Key := .symbol 11
def split : Key := .symbol 12
def length : Key := .named "length"
def constructor : Key := .named "constructor"
def prototype : Key := .named "prototype"
def name : Key := .named "name"
def message : Key := .named "message"

end Key

inductive ErrorKind
  | type | range | reference | malformed | uri
  deriving DecidableEq

def ErrorKind.prototype : ErrorKind → Intrinsic
  | .type => .typeErrorPrototype
  | .range => .rangeErrorPrototype
  | .reference => .referenceErrorPrototype
  | .malformed => .syntaxErrorPrototype
  | .uri => .uriErrorPrototype

def newError (proto : Nat) (message : Str) : Run Nat :=
  allocate { proto := some proto, kind := .error
             properties := .ofList [(.message, .unlisted (.string message))] }

def raise {α : Type} (k : ErrorKind) (message : String) : Run α := do
  let id ← newError k.prototype.id (.plain message)
  Run.throwValue (.object id)

def throwType {α : Type} (message : String) : Run α := raise .type message

end PagePreview.Machine
