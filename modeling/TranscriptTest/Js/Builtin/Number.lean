import TranscriptTest.Js.Builtin.Object
import TranscriptTest.Js.Elementary

/-!
# `Number`, `Boolean`, `Math` and the global number functions

Number methods print through the number texts of `Js.Number`. `Math` works on doubles; the
special cases that IEEE functions leave to the platform are fixed here: `x ** NaN` is NaN,
`(±1) ** ±Infinity` is NaN, `Math.round` rounds halves up and keeps the sign of zero, `max`
and `min` return NaN when any argument is NaN and tell `-0` from `+0`. `Math.random` gives a
fixed value, so that runs repeat.
-/

namespace TranscriptTest.Js

/-- The number `this` holds, for number methods. -/
def thisNumber (this : Value) (method : String) : Eval Float := do
  match this with
  | .num x => pure x
  | .obj r => match (<- getObj r).kind with
    | .boxed (.num x) => pure x
    | _ => throwType ("Number.prototype." ++ method ++ " requires that 'this' be a Number")
  | _ => throwType ("Number.prototype." ++ method ++ " requires that 'this' be a Number")

/-- `Number(value)`; with `new`, a wrapped number. -/
def numberCtor : NativeFn := fun h _ args nt => do
  let x <- match args with
    | [] => pure 0
    | v :: _ => do pure (<- h.toNumeric v).primitiveNumber
  match nt with
  | some _ => h.withProtoOf nt (.obj (<- boxValue (.num x)))
  | none => pure (.num x)

/-- `Boolean(value)`; with `new`, a wrapped boolean. -/
def booleanCtor : NativeFn := fun h _ args nt => do
  let b := (argAt args 0).truthy
  match nt with
  | some _ => h.withProtoOf nt (.obj (<- boxValue (.bool b)))
  | none => pure (.bool b)

/-- `Number.isInteger`. -/
def numberIsInteger : NativeFn := fun _ _ args _ => do
  match argAt args 0 with
  | .num x => pure (.bool (isIntegral x))
  | _ => pure (.bool false)

/-- `Number.isSafeInteger`. -/
def numberIsSafeInteger : NativeFn := fun _ _ args _ => do
  match argAt args 0 with
  | .num x => pure (.bool (isIntegral x && x.abs <= 9007199254740991))
  | _ => pure (.bool false)

/-- `Number.isFinite`. -/
def numberIsFinite : NativeFn := fun _ _ args _ => do
  match argAt args 0 with
  | .num x => pure (.bool (!x.isNaN && !x.isInf))
  | _ => pure (.bool false)

/-- `Number.isNaN`. -/
def numberIsNaN : NativeFn := fun _ _ args _ => do
  match argAt args 0 with
  | .num x => pure (.bool x.isNaN)
  | _ => pure (.bool false)

/-- `isNaN`, converting first. -/
def globalIsNaN : NativeFn := fun h _ args _ => do
  pure (.bool (<- h.toNum (argAt args 0)).isNaN)

/-- `isFinite`, converting first. -/
def globalIsFinite : NativeFn := fun h _ args _ => do
  let x <- h.toNum (argAt args 0)
  pure (.bool (!x.isNaN && !x.isInf))

/-- `parseFloat`. -/
def globalParseFloat : NativeFn := fun h _ args _ => do
  pure (.num (parseFloatText (<- h.toStr (argAt args 0))))

/-- `parseInt`. -/
def globalParseInt : NativeFn := fun h _ args _ => do
  let s <- h.toStr (argAt args 0)
  let radix <- h.toNum (argAt args 1)
  pure (.num (parseIntText s (toInt32 radix)))

/-- `Number.prototype.toString`. -/
def numberToString : NativeFn := fun h this args _ => do
  let x <- thisNumber this "toString"
  let radix <- match argAt args 0 with
    | .undefined => pure 10
    | v => h.toInteger v
  if radix < 2 || radix > 36 then raiseError .rangeError "toString() radix must be between 2 and 36"
  pure (.str (radixText x (integerPart radix)))

/-- `Number.prototype.toFixed`. -/
def numberToFixed : NativeFn := fun h this args _ => do
  let x <- thisNumber this "toFixed"
  let d <- h.toInteger (argAt args 0)
  if d < 0 || d > 100 then raiseError .rangeError "toFixed() digits argument must be between 0 and 100"
  pure (.str (fixedText x (integerPart d)))

/-- `Number.prototype.toPrecision`. -/
def numberToPrecision : NativeFn := fun h this args _ => do
  let x <- thisNumber this "toPrecision"
  match argAt args 0 with
  | .undefined => pure (.str (numberText x))
  | v =>
    let p <- h.toInteger v
    if x.isNaN || x.isInf then return .str (numberText x)
    if p < 1 || p > 100 then raiseError .rangeError "toPrecision() argument must be between 1 and 100"
    pure (.str (precisionText x (integerPart p)))

/-- `Number.prototype.toExponential`. -/
def numberToExponential : NativeFn := fun h this args _ => do
  let x <- thisNumber this "toExponential"
  match argAt args 0 with
  | .undefined => pure (.str (exponentText x none))
  | v =>
    let d <- h.toInteger v
    if x.isNaN || x.isInf then return .str (numberText x)
    if d < 0 || d > 100 then raiseError .rangeError "toExponential() argument must be between 0 and 100"
    pure (.str (exponentText x (some (integerPart d))))

/-- `Number.prototype.valueOf`. -/
def numberValueOf : NativeFn := fun _ this _ _ => do
  pure (.num (<- thisNumber this "valueOf"))

/-- The boolean `this` holds. -/
def thisBoolean (this : Value) (method : String) : Eval Bool := do
  match this with
  | .bool b => pure b
  | .obj r => match (<- getObj r).kind with
    | .boxed (.bool b) => pure b
    | _ => throwType ("Boolean.prototype." ++ method ++ " requires that 'this' be a Boolean")
  | _ => throwType ("Boolean.prototype." ++ method ++ " requires that 'this' be a Boolean")

/-- `Boolean.prototype.toString`. -/
def booleanToString : NativeFn := fun _ this _ _ => do
  pure (.str (if <- thisBoolean this "toString" then "true" else "false"))

/-- `Boolean.prototype.valueOf`. -/
def booleanValueOf : NativeFn := fun _ this _ _ => do
  pure (.bool (<- thisBoolean this "valueOf"))

/-! ## Math -/

/-- A `Math` function of one number. -/
def mathUnary (f : Float → Float) : NativeFn := fun h _ args _ => do
  pure (.num (f (<- h.toNum (argAt args 0))))

/-- `Math.round`: halves round up; the sign of zero is kept. -/
def roundHalfUp (x : Float) : Float :=
  if x.isNaN || x.isInf || x == x.floor then x
  else
    let r := x.floor
    let up := if x - r >= 0.5 then r + 1 else r
    if up == 0 && x < 0 then -0.0 else up

/-- The sign of a number, keeping zeros and NaN. -/
def signOf (x : Float) : Float :=
  if x.isNaN || x == 0 then x else if x > 0 then 1 else -1

/-- Truncation toward zero, keeping the sign of zero. -/
def truncFloat (x : Float) : Float :=
  if x.isNaN || x.isInf then x
  else if x < 0 then (let t := -((-x).floor); if t == 0 then -0.0 else t)
  else x.floor

/-- `x ** y` with the script rules for NaN and ±1. -/
def powerOf (x y : Float) : Float :=
  if y.isNaN then nan
  else if y == 0 then 1
  else if (x == 1 || x == -1) && y.isInf then nan
  else Float.pow x y

/-- `Math.max` over numbers: NaN wins, `+0` beats `-0`. -/
def maxOf (xs : List Float) : Float :=
  xs.foldl (fun m x =>
    if m.isNaN || x.isNaN then nan
    else if x > m then x
    else if x == m && x == 0 && !(isNegZero x) then x
    else m) (-infinity)

/-- `Math.min` over numbers: NaN wins, `-0` beats `+0`. -/
def minOf (xs : List Float) : Float :=
  xs.foldl (fun m x =>
    if m.isNaN || x.isNaN then nan
    else if x < m then x
    else if x == m && x == 0 && isNegZero x then x
    else m) infinity

/-- `Math.max`. -/
def mathMax : NativeFn := fun h _ args _ => do
  pure (.num (maxOf (<- args.mapM h.toNum)))

/-- `Math.min`. -/
def mathMin : NativeFn := fun h _ args _ => do
  pure (.num (minOf (<- args.mapM h.toNum)))

/-- `Math.pow`. -/
def mathPow : NativeFn := fun h _ args _ => do
  pure (.num (powerOf (<- h.toNum (argAt args 0)) (<- h.toNum (argAt args 1))))

/-- `Math.atan2`. -/
def mathAtan2 : NativeFn := fun h _ args _ => do
  pure (.num (Elementary.atan2 (<- h.toNum (argAt args 0)) (<- h.toNum (argAt args 1))))

/-- `Math.hypot`. -/
def mathHypot : NativeFn := fun h _ args _ => do
  pure (.num (Elementary.hypot (<- args.mapM h.toNum)))

/-- `Math.random`: a fixed value. -/
def mathRandom : NativeFn := fun _ _ _ _ => pure (.num 0.5)

/-- `Math.clz32`. -/
def mathClz32 : NativeFn := fun h _ args _ => do
  let n := toUint32 (<- h.toNum (argAt args 0))
  let rec bits : Nat -> Nat -> Nat
    | 0, _ => 0
    | fuel + 1, m => if m == 0 then 0 else 1 + bits fuel (m / 2)
  pure (.num (32 - bits 33 n).toFloat)

/-- `Math.imul`. -/
def mathImul : NativeFn := fun h _ args _ => do
  let a := toInt32 (<- h.toNum (argAt args 0))
  let b := toInt32 (<- h.toNum (argAt args 1))
  pure (.num (intToFloat (toInt32 (intToFloat ((a * b) % 4294967296)))))

/-- `Math.fround`. -/
def mathFround : NativeFn := fun h _ args _ => do
  pure (.num (<- h.toNum (argAt args 0)).toFloat32.toFloat)


end TranscriptTest.Js
