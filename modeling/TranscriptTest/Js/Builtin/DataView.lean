import TranscriptTest.Js.Builtin.TypedArray

/-!
# Data views

A `DataView` reads and writes numbers of every element kind at any byte offset of a run of an
`ArrayBuffer`, big-endian unless asked for little-endian. An access that does not fit in the
view is a range error; the value written is converted before the bounds are checked.
-/

namespace TranscriptTest.Js

/-- `new DataView(buffer, byteOffset, byteLength)`: a view of the buffer from the offset on,
to its end unless a length is given. -/
def dataViewCtor : NativeFn := fun h _ args nt => do
  let some _ := nt | throwType "Constructor DataView requires 'new'"
  let buffer <- match argAt args 0 with
    | .obj r => match (<- getObj r).kind with
      | .buffer _ => pure r
      | _ => throwType "First argument to DataView constructor must be an ArrayBuffer"
    | _ => throwType "First argument to DataView constructor must be an ArrayBuffer"
  let size := (<- bufferBytes buffer).size
  let offset <- h.toIndex (argAt args 1) fun t => "Start offset " ++ t ++ " is outside the bounds of the buffer"
  if offset > size then
    raiseError .rangeError ("Start offset " ++ toString offset ++ " is outside the bounds of the buffer")
  let length <- match argAt args 2 with
    | .undefined => pure (size - offset)
    | v => h.toIndex v fun t => "Invalid DataView length " ++ t
  if offset + length > size then
    raiseError .rangeError ("Invalid DataView length " ++ toString length)
  let proto <- h.protoFor nt (<- intrinsics).dataViewProto
  pure (.obj (<- alloc { kind := .dataView buffer offset length, proto := some proto }))

/-- The buffer, offset and length of the view `this` refers to. -/
def thisView (this : Value) (method : String) : Eval (Nat × Nat × Nat) := do
  let refused : Eval (Nat × Nat × Nat) := do
    throwType ("Method DataView.prototype." ++ method ++ " called on incompatible receiver " ++
      (<- describeValue this))
  match this with
  | .obj r =>
    match (<- getObj r).kind with
    | .dataView buffer offset length => pure (buffer, offset, length)
    | _ => refused
  | _ => refused

/-- The getter of `DataView.prototype.buffer`. -/
def dataViewBuffer : NativeFn := fun _ this _ _ => do
  let (buffer, _, _) <- thisView this "buffer"
  pure (.obj buffer)

/-- The getter of `DataView.prototype.byteLength`. -/
def dataViewByteLength : NativeFn := fun _ this _ _ => do
  let (_, _, length) <- thisView this "byteLength"
  pure (.num length.toFloat)

/-- The getter of `DataView.prototype.byteOffset`. -/
def dataViewByteOffset : NativeFn := fun _ this _ _ => do
  let (_, offset, _) <- thisView this "byteOffset"
  pure (.num offset.toFloat)

/-- The kinds a view reads and writes, by the names of its methods. -/
def viewKinds : List (String × ElementKind) :=
  [("Int8", .int8), ("Uint8", .uint8), ("Int16", .int16), ("Uint16", .uint16),
   ("Int32", .int32), ("Uint32", .uint32), ("Float32", .float32), ("Float64", .float64),
   ("BigInt64", .bigInt64), ("BigUint64", .bigUint64)]

/-- The place in the buffer of an access of `size` bytes at an offset of the view. -/
def Host.viewPlace (h : Host) (offset length size : Nat) (at_ : Value) : Eval Nat := do
  let i <- h.toIndex at_ fun _ => "Offset is outside the bounds of the DataView"
  if i + size > length then raiseError .rangeError "Offset is outside the bounds of the DataView"
  pure (offset + i)

/-- `getKind(byteOffset, littleEndian)` of a view. -/
def dataViewGet (name : String) (kind : ElementKind) : NativeFn := fun h this args _ => do
  let (buffer, offset, length) <- thisView this ("get" ++ name)
  let start <- h.viewPlace offset length kind.size (argAt args 0)
  let little := (argAt args 1).truthy
  let bytes <- bufferBytes buffer
  let read := (List.range kind.size).map fun j => bytes[start + j]?.getD 0
  pure (kind.decode (if little then read else read.reverse)).toValue

/-- `setKind(byteOffset, value, littleEndian)` of a view. -/
def dataViewSet (name : String) (kind : ElementKind) : NativeFn := fun h this args _ => do
  let (buffer, offset, length) <- thisView this ("set" ++ name)
  let i <- h.toIndex (argAt args 0) fun _ => "Offset is outside the bounds of the DataView"
  let e <- h.toElement kind (argAt args 1)
  if i + kind.size > length then raiseError .rangeError "Offset is outside the bounds of the DataView"
  let little := (argAt args 2).truthy
  let bytes := kind.bytesOf e
  writeBytes buffer (offset + i) (if little then bytes else bytes.reverse)
  pure .undefined

end TranscriptTest.Js
