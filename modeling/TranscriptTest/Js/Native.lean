import TranscriptTest.Js.Object
import TranscriptTest.Js.BigInt

/-!
# What built-in functions share

Conversions that may run script code (through the host), argument access, and the index
arithmetic of `slice`-like methods: a negative index counts from the end, and the result is
clamped to the length.
-/

namespace TranscriptTest.Js

/-- The argument at a position, or `undefined`. -/
def argAt (args : List Value) (i : Nat) : Value :=
  args.getD i .undefined

/-- The error of converting a symbol to text. -/
def symbolToTextError : String := "Cannot convert a Symbol value to a string"

/-- The text of a primitive value as conversion to text gives it; a symbol is refused. -/
def primitiveString (v : Value) : Eval String := do
  match v with
  | .symbol .. => throwType symbolToTextError
  | _ => pure v.primitiveText

/-- The number or integer of a primitive value, as arithmetic converts operands: an integer stays
one, a symbol is refused, anything else becomes a number. -/
def primitiveNumeric (v : Value) : Eval Value := do
  match v with
  | .bigint _ => pure v
  | .symbol .. => throwType "Cannot convert a Symbol value to a number"
  | _ => pure (.num v.primitiveNumber)

/-- The number of a primitive value as conversion to a number gives it; integers and symbols
are refused. -/
def primitiveToNumber (v : Value) : Eval Float := do
  match v with
  | .bigint _ => throwType "Cannot convert a BigInt value to a number"
  | .symbol .. => throwType "Cannot convert a Symbol value to a number"
  | _ => pure v.primitiveNumber

/-- Converts a value to text, running `toString` or `valueOf` of objects. -/
def Host.toStr (h : Host) (v : Value) : Eval String := do
  match v with
  | .obj _ => primitiveString (<- h.toPrimitive v .string)
  | _ => primitiveString v

/-- Converts a value to a number, running `valueOf` or `toString` of objects. -/
def Host.toNum (h : Host) (v : Value) : Eval Float := do
  match v with
  | .obj _ => primitiveToNumber (<- h.toPrimitive v .number)
  | _ => primitiveToNumber v

/-- Converts a value to a number or an integer, as arithmetic does. -/
def Host.toNumeric (h : Host) (v : Value) : Eval Value := do
  match v with
  | .obj _ => primitiveNumeric (<- h.toPrimitive v .number)
  | _ => primitiveNumeric v

/-- A primitive value as an integer, as `BigInt` and the integer functions convert it. -/
def primitiveToBigInt (v : Value) : Eval Int := do
  match v with
  | .bigint n => pure n
  | .bool b => pure (if b then 1 else 0)
  | .str s =>
    match textToInt? s with
    | some n => pure n
    | none => raiseError .syntaxError ("Cannot convert " ++ s ++ " to a BigInt")
  | _ => throwType ("Cannot convert " ++ v.primitiveText ++ " to a BigInt")

/-- Converts a value to an integer; numbers are refused. -/
def Host.toBigInt (h : Host) (v : Value) : Eval Int := do
  match v with
  | .obj _ => primitiveToBigInt (<- h.toPrimitive v .number)
  | _ => primitiveToBigInt v

/-- Converts a value to a property key: a symbol's key, or text. -/
def Host.toKey (h : Host) (v : Value) : Eval String := do
  let p <- match v with
    | .obj _ => h.toPrimitive v .string
    | _ => pure v
  match p with
  | .symbol id d => pure (symbolKey id d)
  | _ => primitiveString p

/-- A number truncated toward zero; NaN is zero and infinities stay. -/
def integerOf (x : Float) : Float :=
  if x.isNaN then 0 else if x.isInf then x else if x < 0 then -((-x).floor) else x.floor

/-- Converts a value to an integer (or an infinity). -/
def Host.toInteger (h : Host) (v : Value) : Eval Float := do
  pure (integerOf (<- h.toNum v))

/-- A relative index against a length: negative counts from the end; clamped to `[0, len]`. -/
def relativeIndex (x : Float) (len : Nat) : Nat :=
  if x < 0 then
    let back := -x
    if back >= len.toFloat then 0 else len - integerPart back
  else if x >= len.toFloat then len else integerPart x

/-- The relative index of an optional argument, with a default for `undefined`. -/
def Host.indexArg (h : Host) (v : Value) (len : Nat) (dflt : Nat) : Eval Nat := do
  match v with
  | .undefined => pure dflt
  | _ => pure (relativeIndex (<- h.toInteger v) len)

/-- Requires a callable argument. -/
def requireCallable (v : Value) (shown : String) : Eval Unit := do
  if !(<- isCallable v) then throwType (shown ++ " is not a function")

/-- The text of a value as messages show it. -/
def describeValue (v : Value) : Eval String := do
  match v with
  | .str s => pure s
  | .bigint n => pure (toString n ++ "n")
  | .obj r =>
    let o <- getObj r
    if o.isCallable then
      match o.findOwn? "name" with
      | some (.data (.str n) _ _ _) => pure ("function " ++ n ++ "() { [native code] }")
      | _ => pure "function"
    else match o.kind with
      | .array _ => pure "[object Array]"
      | .typedArray kind .. => pure ("[object " ++ kind.name ++ "]")
      | _ => pure "#<Object>"
  | _ => pure v.primitiveText

/-- The length of an array-like object: its items for arrays, else its `length` property. -/
def Host.lengthOf (h : Host) (v : Value) : Eval Nat := do
  match v with
  | .obj r =>
    match (<- getObj r).kind with
    | .array items => pure items.size
    | .typedArray _ _ _ length => pure length
    | _ =>
      let n <- h.toInteger (<- h.get v "length")
      pure (if n <= 0 then 0 else if n.isInf then maxArrayLength else integerPart n)
  | .str s => pure (unitLength s)
  | _ => pure 0

/-- `eval` called other than by its name: the code runs in the global scope. -/
def globalEval : NativeFn := fun h _ args _ => h.evalGlobal (argAt args 0)

/-- A new iterator object over values. -/
def newIterator (items : Array Value) (tag : String) : Eval Value := do
  let i <- intrinsics
  let proto := (i.iteratorProtos.lookup tag).getD i.iteratorProto
  let ref <- alloc { kind := .iterator items 0 tag, proto := some proto }
  pure (.obj ref)

/-- A new iterator walking an array, map or set as it changes. -/
def newWalker (source : Nat) (part : IterPart) (tag : String) : Eval Value := do
  let i <- intrinsics
  let proto := (i.iteratorProtos.lookup tag).getD i.iteratorProto
  pure (.obj (<- alloc { kind := .walker source part 0 tag, proto := some proto }))

/-- A new `{ value, done }` result of an iterator step. -/
def iterResult (v : Value) (done : Bool) : Eval Value := do
  let ref <- newObject
  setField ref "value" v
  setField ref "done" (.bool done)
  pure (.obj ref)

/-- Whether a value can be used with `new`. -/
def isConstructor (v : Value) : Eval Bool := do
  match v with
  | .obj r =>
    match (<- getObj r).kind with
    | .closure _ _ .plain _ _ => pure true
    | .closure _ _ (.classCtor _) _ _ => pure true
    | .native _ c => pure c
    | .bound t _ _ =>
      match (<- getObj t).kind with
      | .closure _ _ .callOnly _ _ => pure false
      | .native _ c => pure c
      | _ => pure true
    | _ => pure false
  | _ => pure false

end TranscriptTest.Js
