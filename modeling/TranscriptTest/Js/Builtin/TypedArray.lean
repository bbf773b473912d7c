import TranscriptTest.Js.Builtin.Array
import TranscriptTest.Js.Builtin.Error

/-!
# Buffers and typed arrays

`ArrayBuffer` holds bytes; a typed array views a run of them as elements of one kind (see
`ElementKind`). Several views may share a buffer, so an element is read from the buffer each
time and a write lands in the buffer, where every view of those bytes sees it.
-/

namespace TranscriptTest.Js

/-- The most bytes a buffer may hold. -/
def maxBufferBytes : Nat := Nat.pow 2 28

/-- A new buffer of zero bytes. -/
def newBuffer (size : Nat) (proto : Option Nat) : Eval Nat := do
  if size > maxBufferBytes then raiseError .rangeError "Array buffer allocation failed"
  let p <- match proto with
    | some p => pure p
    | none => pure (<- intrinsics).arrayBufferProto
  alloc { kind := .buffer (ByteArray.mk (Array.replicate size 0)), proto := some p }

/-- The prototype of the typed arrays of a kind. -/
def typedProto (kind : ElementKind) : Eval Nat := do
  pure (((<- intrinsics).typedArrayProtos[kind.index]?).getD (<- intrinsics).objectProto)

/-- A new typed array of a kind over a run of a buffer. -/
def newTypedView (kind : ElementKind) (buffer offset length : Nat) (proto : Option Nat) :
    Eval Value := do
  let p <- match proto with
    | some p => pure p
    | none => typedProto kind
  pure (.obj (<- alloc { kind := .typedArray kind buffer offset length, proto := some p }))

/-- Converts a value to an element of a kind: a number, or an integer for the 64-bit integer
kinds. -/
def Host.toElement (h : Host) (kind : ElementKind) (v : Value) : Eval Element := do
  if kind.isBig then pure (.integer (<- h.toBigInt v)) else pure (.number (<- h.toNum v))

/-- A new typed array of a kind holding elements. -/
def newTypedOf (kind : ElementKind) (elements : Array Element) (proto : Option Nat) :
    Eval Value := do
  let buffer <- newBuffer (elements.size * kind.size) none
  let bytes := elements.toList.flatMap kind.bytesOf
  writeBytes buffer 0 bytes
  newTypedView kind buffer 0 elements.size proto

/-- The element an element value stands for; the values a typed array reads are numbers or
integers already. -/
def elementOfValue (v : Value) : Element :=
  match v with
  | .bigint n => .integer n
  | _ => .number v.primitiveNumber

/-- The typed array `this` refers to: its reference, kind, buffer, offset and length. -/
def thisTyped (this : Value) : Eval (Nat × ElementKind × Nat × Nat × Nat) := do
  match this with
  | .obj r =>
    match (<- getObj r).kind with
    | .typedArray kind buffer offset length => pure (r, kind, buffer, offset, length)
    | _ => throwType "this is not a typed array."
  | _ => throwType "this is not a typed array."

/-- The elements of the typed array `this` refers to. -/
def thisElements (this : Value) : Eval (ElementKind × Array Value) := do
  let (r, kind, _, _, _) <- thisTyped this
  pure (kind, (<- typedItems? r).getD #[])

/-- A length or offset argument: `undefined` is zero, and a negative number or one past the
largest exact integer is refused with the error given for the number. -/
def Host.toIndex (h : Host) (v : Value) (refuse : String → String) : Eval Nat := do
  match v with
  | .undefined => pure 0
  | _ =>
    let x <- h.toNum v
    let n := integerOf x
    if n < 0 || n > 9007199254740991 then raiseError .rangeError (refuse (numberText x))
    pure (integerPart n)

/-! ## `ArrayBuffer` -/

/-- `new ArrayBuffer(length)`. -/
def arrayBufferCtor : NativeFn := fun h _ args nt => do
  let some _ := nt | throwType "Constructor ArrayBuffer requires 'new'"
  let proto <- h.protoFor nt (<- intrinsics).arrayBufferProto
  let size <- h.toIndex (argAt args 0) fun _ => "Invalid array buffer length"
  pure (.obj (<- newBuffer size (some proto)))

/-- The bytes of the buffer `this` refers to. -/
def thisBuffer (this : Value) (method : String) : Eval ByteArray := do
  let refused : Eval ByteArray := do
    throwType ("Method ArrayBuffer.prototype." ++ method ++ " called on incompatible receiver " ++
      (<- describeValue this))
  match this with
  | .obj r =>
    match (<- getObj r).kind with
    | .buffer bytes => pure bytes
    | _ => refused
  | _ => refused

/-- The getter of `ArrayBuffer.prototype.byteLength`. -/
def arrayBufferByteLength : NativeFn := fun _ this _ _ => do
  pure (.num (<- thisBuffer this "byteLength").size.toFloat)

/-- `ArrayBuffer.prototype.slice(start, end)`: a new buffer with a copy of the bytes. -/
def arrayBufferSlice : NativeFn := fun h this args _ => do
  let bytes <- thisBuffer this "slice"
  let start <- h.indexArg (argAt args 0) bytes.size 0
  let stop <- h.indexArg (argAt args 1) bytes.size bytes.size
  let out <- newBuffer (stop - start) none
  writeBytes out 0 (bytes.extract start (max start stop)).toList
  pure (.obj out)

/-- `ArrayBuffer.isView(value)`: whether a value is a typed array. -/
def arrayBufferIsView : NativeFn := fun _ _ args _ => do
  match argAt args 0 with
  | .obj r =>
    match (<- getObj r).kind with
    | .typedArray .. => pure (.bool true)
    | _ => pure (.bool false)
  | _ => pure (.bool false)

/-! ## Making typed arrays -/

/-- The values of an object a typed array is made from: those it iterates over, or else the
items of an array-like object. -/
def Host.sourceValues (h : Host) (src : Value) : Eval (Array Value) := do
  match <- h.get src (wellKnownKey "iterator") with
  | .undefined | .null =>
    let n <- h.lengthOf src
    (List.range n).toArray.mapM fun i => h.get src (toString i)
  | _ => h.iterate src

/-- The constructor of the typed arrays of a kind. -/
def typedArrayCtor (kind : ElementKind) : NativeFn := fun h _ args nt => do
  let some _ := nt | throwType ("Constructor " ++ kind.name ++ " requires 'new'")
  let proto <- h.protoFor nt (<- typedProto kind)
  let lengthError := fun (shown : String) => "Invalid typed array length: " ++ shown
  match argAt args 0 with
  | src@(.obj r) =>
    match (<- getObj r).kind with
    | .buffer bytes =>
      let offset <- h.toIndex (argAt args 1) fun shown => "Start offset " ++ shown ++
        " is outside the bounds of the buffer"
      if offset % kind.size != 0 then
        raiseError .rangeError ("start offset of " ++ kind.name ++ " should be a multiple of " ++
          toString kind.size)
      match argAt args 2 with
      | .undefined =>
        if bytes.size % kind.size != 0 then
          raiseError .rangeError ("byte length of " ++ kind.name ++ " should be a multiple of " ++
            toString kind.size)
        if offset > bytes.size then
          raiseError .rangeError ("Start offset " ++ toString offset ++
            " is outside the bounds of the buffer")
        newTypedView kind r offset ((bytes.size - offset) / kind.size) (some proto)
      | lv =>
        let length <- h.toIndex lv lengthError
        if offset + length * kind.size > bytes.size then
          raiseError .rangeError (lengthError (toString length))
        newTypedView kind r offset length (some proto)
    | .typedArray other .. =>
      if other.isBig != kind.isBig then
        throwType "Cannot mix BigInt and other types, use explicit conversions"
      let values := (<- typedItems? r).getD #[]
      newTypedOf kind (values.map elementOfValue) (some proto)
    | _ =>
      let values <- h.sourceValues src
      newTypedOf kind (<- values.mapM (h.toElement kind)) (some proto)
  | v =>
    let length <- h.toIndex v lengthError
    let buffer <- newBuffer (length * kind.size) none
    newTypedView kind buffer 0 length (some proto)

/-- The abstract constructor the typed array constructors inherit from. -/
def typedArrayAbstractCtor : NativeFn := fun _ _ _ _ => do
  throwType "Abstract class TypedArray not directly constructable"

/-- Makes a typed array with `this`, a typed array constructor, and stores values in it. -/
def Host.constructTyped (h : Host) (ctor : Value) (values : Array Value) : Eval Value := do
  if !(<- isCallable ctor) then throwType ((<- describeValue ctor) ++ " is not a constructor")
  let target <- h.construct ctor [.num values.size.toFloat]
  for (v, i) in values.toList.zipIdx do
    h.put target (toString i) v
  pure target

/-- `TypedArray.from(source, mapFn)`. -/
def typedArrayFrom : NativeFn := fun h this args _ => do
  let values <- h.sourceValues (argAt args 0)
  let values <- match argAt args 1 with
    | .undefined => pure values
    | f => do
      requireCallable f (<- describeValue f)
      values.toList.zipIdx.toArray.mapM fun (v, i) => h.call f (argAt args 2) [v, .num i.toFloat]
  h.constructTyped this values

/-- `TypedArray.of(...items)`. -/
def typedArrayOf : NativeFn := fun h this args _ => h.constructTyped this args.toArray

/-! ## Properties of typed arrays -/

/-- The getter of `buffer`. -/
def typedBuffer : NativeFn := fun _ this _ _ => do
  let (_, _, buffer, _, _) <- thisTyped this
  pure (.obj buffer)

/-- The getter of `byteLength`. -/
def typedByteLength : NativeFn := fun _ this _ _ => do
  let (_, kind, _, _, length) <- thisTyped this
  pure (.num (length * kind.size).toFloat)

/-- The getter of `byteOffset`. -/
def typedByteOffset : NativeFn := fun _ this _ _ => do
  let (_, _, _, offset, _) <- thisTyped this
  pure (.num offset.toFloat)

/-- The getter of `length`. -/
def typedLength : NativeFn := fun _ this _ _ => do
  let (_, _, _, _, length) <- thisTyped this
  pure (.num length.toFloat)

/-- The getter of `Symbol.toStringTag`: the kind's name, or `undefined` for other values. -/
def typedToStringTag : NativeFn := fun _ this _ _ => do
  match this with
  | .obj r =>
    match (<- getObj r).kind with
    | .typedArray kind .. => pure (.str kind.name)
    | _ => pure .undefined
  | _ => pure .undefined

/-! ## Methods of typed arrays -/

/-- `fill(value, start, end)`: the value is converted once. -/
def typedFill : NativeFn := fun h this args _ => do
  let (r, kind, _, _, length) <- thisTyped this
  let e <- h.toElement kind (argAt args 0)
  let start <- h.indexArg (argAt args 1) length 0
  let stop <- h.indexArg (argAt args 2) length length
  for i in List.range (stop - start) do
    writeElement r (start + i) e
  pure this

/-- `set(source, offset)`: copies the values of an array or typed array in from `offset`. -/
def typedSet : NativeFn := fun h this args _ => do
  let (r, kind, _, _, length) <- thisTyped this
  let offset <- match argAt args 1 with
    | .undefined => pure 0
    | v => do
      let n <- h.toInteger v
      if n < 0 || n.isInf then raiseError .rangeError "offset is out of bounds"
      pure (integerPart n)
  let src := argAt args 0
  let values <- match src with
    | .obj s =>
      match <- typedItems? s with
      | some xs => pure xs
      | none => (<- h.itemsOf src).mapM fun x => pure (x.getD .undefined)
    | _ => (<- h.itemsOf src).mapM fun x => pure (x.getD .undefined)
  if offset + values.size > length then raiseError .rangeError "offset is out of bounds"
  for (v, i) in values.toList.zipIdx do
    writeElement r (offset + i) (<- h.toElement kind v)
  pure .undefined

/-- `subarray(begin, end)`: a new view of part of the same bytes. -/
def typedSubarray : NativeFn := fun h this args _ => do
  let (_, kind, buffer, offset, length) <- thisTyped this
  let start <- h.indexArg (argAt args 0) length 0
  let stop <- h.indexArg (argAt args 1) length length
  newTypedView kind buffer (offset + start * kind.size) (stop - start) none

/-- `slice(begin, end)`: a copy of part of the elements. -/
def typedSlice : NativeFn := fun h this args _ => do
  let (kind, values) <- thisElements this
  let start <- h.indexArg (argAt args 0) values.size 0
  let stop <- h.indexArg (argAt args 1) values.size values.size
  newTypedOf kind ((values.extract start (max start stop)).map elementOfValue) none

/-- `map(fn)`: a typed array of the same kind with the results. -/
def typedMap : NativeFn := fun h this args _ => do
  let (kind, values) <- thisElements this
  let f <- callbackArg args
  let mut out := #[]
  for (v, i) in values.toList.zipIdx do
    out := out.push (<- h.toElement kind (<- h.call f (argAt args 1) [v, .num i.toFloat, this]))
  newTypedOf kind out none

/-- `filter(fn)`: a typed array of the same kind with the elements kept. -/
def typedFilter : NativeFn := fun h this args _ => do
  let (kind, values) <- thisElements this
  let f <- callbackArg args
  let mut out := #[]
  for (v, i) in values.toList.zipIdx do
    if (← h.call f (argAt args 1) [v, .num i.toFloat, this]).truthy then
      out := out.push (elementOfValue v)
  newTypedOf kind out none

/-- `reverse()`, in place. -/
def typedReverse : NativeFn := fun _ this _ _ => do
  let (r, _, _, _, _) <- thisTyped this
  let values := (<- typedItems? r).getD #[]
  for (v, i) in values.reverse.toList.zipIdx do
    writeElement r i (elementOfValue v)
  pure this

/-- The order of typed array elements without a comparison: by value, `-0` before `+0`, NaN
last. -/
def elementBefore (a b : Value) : Bool :=
  match a, b with
  | .bigint x, .bigint y => x < y
  | .num x, .num y =>
    if x.isNaN then false
    else if y.isNaN then true
    else x < y || (x == 0 && y == 0 && isNegZero x && !isNegZero y)
  | _, _ => false

/-- The elements of `this` sorted by a comparison or by value. -/
def Host.sortedElements (h : Host) (this : Value) (cmp : Value) (name : String) :
    Eval (Nat × ElementKind × Array Value) := do
  requireComparison cmp name
  let (r, kind, _, _, _) <- thisTyped this
  let values := (<- typedItems? r).getD #[]
  let before := match cmp with
    | .undefined => fun a b => pure (elementBefore a b)
    | _ => h.sortOrder cmp
  pure (r, kind, <- Sort.timSort before values)

/-- `sort(cmp)`, in place. -/
def typedSort : NativeFn := fun h this args _ => do
  let (r, _, sorted) <- h.sortedElements this (argAt args 0) "sort"
  for (v, i) in sorted.toList.zipIdx do
    writeElement r i (elementOfValue v)
  pure this

/-- `toSorted(cmp)`: a sorted copy. -/
def typedToSorted : NativeFn := fun h this args _ => do
  let (_, kind, sorted) <- h.sortedElements this (argAt args 0) "toSorted"
  newTypedOf kind (sorted.map elementOfValue) none

/-- `toReversed()`: a reversed copy. -/
def typedToReversed : NativeFn := fun _ this _ _ => do
  let (kind, values) <- thisElements this
  newTypedOf kind (values.reverse.map elementOfValue) none

/-- `with(index, value)`: a copy with one element replaced; the index may count from the
end. -/
def typedWith : NativeFn := fun h this args _ => do
  let (kind, values) <- thisElements this
  let n <- h.toInteger (argAt args 0)
  let e <- h.toElement kind (argAt args 1)
  let len := values.size.toFloat
  let i := if n < 0 then len + n else n
  if i < 0 || i >= len then raiseError .rangeError "Invalid typed array index"
  newTypedOf kind ((values.map elementOfValue).set! (integerPart i) e) none

/-- `copyWithin(target, start, end)`: copies elements over others of the same array. -/
def typedCopyWithin : NativeFn := fun h this args _ => do
  let (r, _, _, _, length) <- thisTyped this
  let values := (<- typedItems? r).getD #[]
  let target <- h.indexArg (argAt args 0) length 0
  let start <- h.indexArg (argAt args 1) length 0
  let stop <- h.indexArg (argAt args 2) length length
  let count := min (stop - start) (length - target)
  for k in List.range count do
    writeElement r (target + k) (elementOfValue (values.getD (start + k) (.num 0)))
  pure this

end TranscriptTest.Js
