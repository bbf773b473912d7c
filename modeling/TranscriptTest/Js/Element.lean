import TranscriptTest.Js.Number

/-!
# Elements of typed arrays

A typed array sees the bytes of a buffer as a row of elements of one kind: integers of 8, 16
or 32 bits, signed or not, floats of 32 or 64 bits, or integers of 64 bits that read as
script integers. An element is stored in little-endian order: byte `i` of the value `v` is
`v / 2 ^ (8 * i) % 256`, and the bytes `b₀ b₁ …` read back as `b₀ + 256 * (b₁ + 256 * …)`.
-/

namespace TranscriptTest.Js

/-- The kinds of typed array elements. -/
inductive ElementKind where
  | int8
  | uint8
  | uint8Clamped
  | int16
  | uint16
  | int32
  | uint32
  | float32
  | float64
  | bigInt64
  | bigUint64
  deriving Inhabited, BEq

/-- Every kind, in the order the constructors are made. -/
def ElementKind.all : List ElementKind :=
  [.int8, .uint8, .uint8Clamped, .int16, .uint16, .int32, .uint32, .float32, .float64,
   .bigInt64, .bigUint64]

/-- The place of a kind in `ElementKind.all`. -/
def ElementKind.index : ElementKind -> Nat
  | .int8 => 0
  | .uint8 => 1
  | .uint8Clamped => 2
  | .int16 => 3
  | .uint16 => 4
  | .int32 => 5
  | .uint32 => 6
  | .float32 => 7
  | .float64 => 8
  | .bigInt64 => 9
  | .bigUint64 => 10

/-- The name of the typed array constructor for a kind. -/
def ElementKind.name : ElementKind -> String
  | .int8 => "Int8Array"
  | .uint8 => "Uint8Array"
  | .uint8Clamped => "Uint8ClampedArray"
  | .int16 => "Int16Array"
  | .uint16 => "Uint16Array"
  | .int32 => "Int32Array"
  | .uint32 => "Uint32Array"
  | .float32 => "Float32Array"
  | .float64 => "Float64Array"
  | .bigInt64 => "BigInt64Array"
  | .bigUint64 => "BigUint64Array"

/-- The number of bytes of one element. -/
def ElementKind.size : ElementKind -> Nat
  | .int8 | .uint8 | .uint8Clamped => 1
  | .int16 | .uint16 => 2
  | .int32 | .uint32 | .float32 => 4
  | .float64 | .bigInt64 | .bigUint64 => 8

/-- Whether the elements are script integers rather than numbers. -/
def ElementKind.isBig : ElementKind -> Bool
  | .bigInt64 | .bigUint64 => true
  | _ => false

/-- Whether the elements are signed integers. -/
def ElementKind.isSigned : ElementKind -> Bool
  | .int8 | .int16 | .int32 | .bigInt64 => true
  | _ => false

/-- The value one element holds: a number, or a script integer for the 64-bit integer
kinds. -/
inductive Element where
  | number (x : Float)
  | integer (n : Int)
  deriving Inhabited

/-- The `size` little-endian bytes of a natural number, higher bytes dropped. -/
def littleEndian (size v : Nat) : List UInt8 :=
  (List.range size).map fun i => (v / Nat.pow 2 (8 * i) % 256).toUInt8

/-- The natural number little-endian bytes stand for. -/
def ofLittleEndian : List UInt8 -> Nat
  | [] => 0
  | b :: rest => b.toNat + 256 * ofLittleEndian rest

/-- A number rounded to the nearest integer from 0 to 255, a tie going to the even one. -/
def clampByte (x : Float) : Nat :=
  if x.isNaN || x <= 0 then 0
  else if x >= 255 then 255
  else
    let f := x.floor
    let n := integerPart f
    if f + 0.5 < x then n + 1
    else if x < f + 0.5 then n
    else if n % 2 == 0 then n else n + 1

/-- The bytes of an integer wrapped to the width of a kind. -/
def ElementKind.integerBytes (k : ElementKind) (n : Int) : List UInt8 :=
  littleEndian k.size (n % (Nat.pow 2 (8 * k.size) : Nat)).toNat

/-- The bytes a number is stored as in an element of a kind. -/
def ElementKind.numberBytes (k : ElementKind) (x : Float) : List UInt8 :=
  match k with
  | .uint8Clamped => [(clampByte x).toUInt8]
  | .float32 => littleEndian 4 x.toFloat32.toBits.toNat
  | .float64 => littleEndian 8 x.toBits.toNat
  | _ => k.integerBytes (truncInt x)

/-- The value stored in the bytes of an element of a kind. -/
def ElementKind.decode (k : ElementKind) (bytes : List UInt8) : Element :=
  let n := ofLittleEndian bytes
  let bits := 8 * k.size
  let signed : Int := if k.isSigned && n >= Nat.pow 2 (bits - 1) then (n : Int) - (Nat.pow 2 bits : Nat) else n
  match k with
  | .float32 => .number (Float32.ofBits n.toUInt32).toFloat
  | .float64 => .number (Float.ofBits n.toUInt64)
  | .bigInt64 | .bigUint64 => .integer signed
  | _ => .number (intToFloat signed)

end TranscriptTest.Js
