import TranscriptTest.Js.Builtin.Number

/-!
# `Symbol` and `BigInt`

`Symbol(description)` makes a new symbol each time; `Symbol.for` keeps one symbol per key in the
realm's registry, and `Symbol.keyFor` finds the key back. Neither function may be used with
`new`.
-/

namespace TranscriptTest.Js

/-! ## Symbols -/

/-- The symbol `this` holds, for symbol methods. -/
def thisSymbol (this : Value) (method : String) : Eval Value := do
  let refused : Eval Value :=
    throwType ("Symbol.prototype." ++ method ++ " requires that 'this' be a Symbol")
  match this with
  | .symbol .. => pure this
  | .obj r => match (<- getObj r).kind with
    | .boxed s@(.symbol ..) => pure s
    | _ => refused
  | _ => refused

/-- `Symbol(description)`. -/
def symbolCtor : NativeFn := fun h _ args nt => do
  if nt.isSome then throwType "Symbol is not a constructor"
  match argAt args 0 with
  | .undefined => freshSymbol none
  | d => freshSymbol (some (<- h.toStr d))

/-- `Symbol.for(key)`: the registry's symbol for the key, made on first use. -/
def symbolFor : NativeFn := fun h _ args _ => do
  let key <- h.toStr (argAt args 0)
  match (<- get).symbolRegistry.lookup key with
  | some id => pure (.symbol id (some key))
  | none =>
    let s <- freshSymbol (some key)
    match s with
    | .symbol id _ => modify fun r => { r with symbolRegistry := (key, id) :: r.symbolRegistry }
    | _ => pure ()
    pure s

/-- `Symbol.keyFor(symbol)`: the registry key of a symbol, or `undefined`. -/
def symbolKeyFor : NativeFn := fun _ _ args _ => do
  match argAt args 0 with
  | .symbol id _ =>
    match (<- get).symbolRegistry.find? (·.2 == id) with
    | some (key, _) => pure (.str key)
    | none => pure .undefined
  | v => throwType ((<- describeValue v) ++ " is not a symbol")

/-- `Symbol.prototype.toString`. -/
def symbolToString : NativeFn := fun _ this _ _ => do
  pure (.str (<- thisSymbol this "toString").primitiveText)

/-- `Symbol.prototype.valueOf`. -/
def symbolValueOf : NativeFn := fun _ this _ _ => thisSymbol this "valueOf"

/-- The getter of `Symbol.prototype.description`. -/
def symbolDescription : NativeFn := fun _ this _ _ => do
  match <- thisSymbol this "description" with
  | .symbol _ (some d) => pure (.str d)
  | _ => pure .undefined

/-! ## Integers -/

/-- The integer `this` holds, for integer methods. -/
def thisBigInt (this : Value) (method : String) : Eval Int := do
  let refused : Eval Int :=
    throwType ("BigInt.prototype." ++ method ++ " requires that 'this' be a BigInt")
  match this with
  | .bigint n => pure n
  | .obj r => match (<- getObj r).kind with
    | .boxed (.bigint n) => pure n
    | _ => refused
  | _ => refused

/-- `BigInt(value)`: numbers without a fraction are taken exactly. -/
def bigintCtor : NativeFn := fun h _ args nt => do
  if nt.isSome then throwType "BigInt is not a constructor"
  let p <- match argAt args 0 with
    | v@(.obj _) => h.toPrimitive v .number
    | v => pure v
  match p with
  | .num x =>
    match floatToInt? x with
    | some n => pure (.bigint n)
    | none => raiseError .rangeError ("The number " ++ numberText x ++
        " cannot be converted to a BigInt because it is not an integer")
  | _ => pure (.bigint (<- primitiveToBigInt p))

/-- The number of bits `asIntN` and `asUintN` take: an integer from 0 to 2^53 - 1. -/
def Host.bitsArg (h : Host) (v : Value) : Eval Nat := do
  let x <- h.toInteger v
  if x < 0 || x > 9007199254740991 then
    raiseError .rangeError "Invalid value: not (convertible to) a safe integer"
  pure (integerPart x)

/-- `BigInt.asIntN(bits, value)`. -/
def bigintAsIntN : NativeFn := fun h _ args _ => do
  let bits <- h.bitsArg (argAt args 0)
  pure (.bigint (wrapSigned bits (<- h.toBigInt (argAt args 1))))

/-- `BigInt.asUintN(bits, value)`. -/
def bigintAsUintN : NativeFn := fun h _ args _ => do
  let bits <- h.bitsArg (argAt args 0)
  pure (.bigint (wrapUnsigned bits (<- h.toBigInt (argAt args 1))))

/-- `BigInt.prototype.toString(radix)`. -/
def bigintToString : NativeFn := fun h this args _ => do
  let n <- thisBigInt this "toString"
  let radix <- match argAt args 0 with
    | .undefined => pure 10
    | v => h.toInteger v
  if radix < 2 || radix > 36 then raiseError .rangeError "toString() radix must be between 2 and 36"
  pure (.str (intRadixText n (integerPart radix)))

/-- `BigInt.prototype.valueOf`. -/
def bigintValueOf : NativeFn := fun _ this _ _ => do
  pure (.bigint (<- thisBigInt this "valueOf"))

end TranscriptTest.Js
