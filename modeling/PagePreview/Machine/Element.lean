import PagePreview.Machine.Value

/-! Numbers kept as bytes: the kinds of elements that a row of numbers can have, and how each is
read and written, the lowest byte first. -/

namespace PagePreview.Machine
open Script Number

inductive Element
  | int8 | uint8 | uint8Clamped | int16 | uint16 | int32 | uint32 | float32 | float64
  | bigInt64 | bigUint64
  deriving DecidableEq

namespace Element

def all : List Element :=
  [.int8, .uint8, .uint8Clamped, .int16, .uint16, .int32, .uint32, .float32, .float64, .bigInt64,
   .bigUint64]

def name : Element → String
  | .int8 => "Int8"
  | .uint8 => "Uint8"
  | .uint8Clamped => "Uint8Clamped"
  | .int16 => "Int16"
  | .uint16 => "Uint16"
  | .int32 => "Int32"
  | .uint32 => "Uint32"
  | .float32 => "Float32"
  | .float64 => "Float64"
  | .bigInt64 => "BigInt64"
  | .bigUint64 => "BigUint64"

def rowName (e : Element) : String := e.name ++ "Array"

def ofName? (name : String) : Option Element := all.find? (·.name == name)
def ofRowName? (name : String) : Option Element := all.find? (·.rowName == name)

def size : Element → Nat
  | .int8 | .uint8 | .uint8Clamped => 1
  | .int16 | .uint16 => 2
  | .int32 | .uint32 | .float32 => 4
  | .float64 | .bigInt64 | .bigUint64 => 8

def isBig : Element → Bool
  | .bigInt64 | .bigUint64 => true
  | _ => false

def isSigned : Element → Bool
  | .int8 | .int16 | .int32 | .bigInt64 => true
  | _ => false

def wholeOf (e : Element) (bits : Nat) : Int :=
  let bound := Nat.pow 2 (8 * e.size)
  if e.isSigned && bound ≤ 2 * bits then (bits : Int) - bound else bits

def valueOf (e : Element) (bits : Nat) : Value :=
  match e with
  | .float64 => .number (Float.ofBits bits.toUInt64)
  | .float32 => .number (Float32.ofBits bits.toUInt32).toFloat
  | .bigInt64 | .bigUint64 => .bigint (e.wholeOf bits)
  | e => .ofInt (e.wholeOf bits)

def clamp (x : Float) : Nat :=
  if x.isNaN || x ≤ 0 then 0
  else if 255 ≤ x then 255
  else
    let n := x.toUInt64.toNat
    let rest := x - Float.ofNat n
    if rest < 0.5 then n else if 0.5 < rest then n + 1 else n + n % 2

def bitsOf (e : Element) : Value → Nat
  | .number x =>
    match e with
    | .float64 => (if x.isNaN then 0x7FF8000000000000 else x.toBits).toNat
    | .float32 => x.toFloat32.toBits.toNat
    | .uint8Clamped => clamp x
    | e => toWord x % Nat.pow 2 (8 * e.size)
  | .bigint n => (n % Int.pow 2 (8 * e.size)).toNat
  | _ => 0

end Element

namespace ByteRow

def bitsAt (bytes : ByteArray) (place : Nat) : Nat → Nat
  | 0 => 0
  | n + 1 => (bytes.data.getD place 0).toNat + 256 * bitsAt bytes (place + 1) n

def putBits (bytes : ByteArray) (place bits : Nat) : Nat → ByteArray
  | 0 => bytes
  | n + 1 =>
    putBits (if place < bytes.size then bytes.set! place (bits % 256).toUInt8 else bytes)
      (place + 1) (bits / 256) n

def swapped (bits : Nat) (n : Nat) : Nat :=
  (List.range n).foldl (fun out i => out * 256 + bits / Nat.pow 256 i % 256) 0

def read (bytes : ByteArray) (e : Element) (place : Nat) : Value := e.valueOf (bitsAt bytes place e.size)

def write (bytes : ByteArray) (e : Element) (place : Nat) (v : Value) : ByteArray :=
  putBits bytes place (e.bitsOf v) e.size

def zeros (n : Nat) : ByteArray := ⟨Array.replicate n 0⟩

end ByteRow
end PagePreview.Machine
