import TranscriptTest.Js.Number

/-!
# Integers of any size

Script integers (`10n`) are `Int`s. Their bitwise operators act on the infinite two's-complement
form, where `-n - 1` is the complement of `n`: each operator is worked out on natural numbers by
the signs of its operands. Shifts multiply by a power of two or divide by one, rounding down.
Division and remainder round toward zero, as the engine's do.
-/

namespace TranscriptTest.Js

open TranscriptTest.Decimal

/-- `a & ~b` for natural numbers: the bits of `a` that `b` lacks. -/
def natAndNot (a b : Nat) : Nat := a - (a &&& b)

/-- The complement of a natural number, `-n - 1`. -/
def complementOf (n : Nat) : Int := -(n : Int) - 1

/-- `a & b` in two's complement. -/
def intAnd (a b : Int) : Int :=
  match a, b with
  | .ofNat x, .ofNat y => (x &&& y : Nat)
  | .ofNat x, .negSucc y => (natAndNot x y : Nat)
  | .negSucc x, .ofNat y => (natAndNot y x : Nat)
  | .negSucc x, .negSucc y => complementOf (x ||| y)

/-- `a | b` in two's complement. -/
def intOr (a b : Int) : Int :=
  match a, b with
  | .ofNat x, .ofNat y => (x ||| y : Nat)
  | .ofNat x, .negSucc y => complementOf (natAndNot y x)
  | .negSucc x, .ofNat y => complementOf (natAndNot x y)
  | .negSucc x, .negSucc y => complementOf (x &&& y)

/-- `a ^ b` in two's complement. -/
def intXor (a b : Int) : Int :=
  match a, b with
  | .ofNat x, .ofNat y => (x ^^^ y : Nat)
  | .ofNat x, .negSucc y => complementOf (x ^^^ y)
  | .negSucc x, .ofNat y => complementOf (x ^^^ y)
  | .negSucc x, .negSucc y => (x ^^^ y : Nat)

/-- `a << k`: a multiplication by `2^k`, or for a negative `k` a division rounding down. -/
def intShiftLeft (a k : Int) : Int :=
  if k >= 0 then a * Int.pow 2 k.toNat else a / Int.pow 2 (-k).toNat

/-- The digits of an integer in a base from 2 to 36, lower-case letters past nine. -/
def intRadixText (n : Int) (base : Nat) : String :=
  let digit (d : Nat) : Char := if d < 10 then Char.ofNat (48 + d) else Char.ofNat (87 + d)
  let rec digits (fuel m : Nat) (acc : List Char) : List Char :=
    match fuel with
    | 0 => acc
    | fuel + 1 => if m < base then digit m :: acc else digits fuel (m / base) (digit (m % base) :: acc)
  let body := String.ofList (digits (n.natAbs + 1) n.natAbs [])
  if n < 0 then "-" ++ body else body

/-- The integer a text stands for, as `BigInt` reads text; `none` when it stands for none. -/
def textToInt? (s : String) : Option Int :=
  let cs := ((s.toList.dropWhile isTrimmed).reverse.dropWhile isTrimmed).reverse
  let prefixed (base : Nat) (ds : List Char) : Option Int :=
    if !ds.isEmpty && ds.all (isDigitIn base) then some (digitsValue base ds) else none
  match cs with
  | [] => some 0
  | '0' :: x :: ds =>
    if x == 'x' || x == 'X' then prefixed 16 ds
    else if x == 'o' || x == 'O' then prefixed 8 ds
    else if x == 'b' || x == 'B' then prefixed 2 ds
    else prefixed 10 cs
  | '-' :: ds => (prefixed 10 ds).map (- ·)
  | '+' :: ds => prefixed 10 ds
  | ds => prefixed 10 ds

/-- The exact integer of a double without a fraction; `none` for any other double. -/
def floatToInt? (x : Float) : Option Int :=
  if !isIntegral x then none
  else
    let b := Binary.ofFloat x
    let m : Int := if b.exponent >= 0 then (b.mantissa * Nat.pow 2 b.exponent.toNat : Nat)
      else (b.mantissa / Nat.pow 2 (-b.exponent).toNat : Nat)
    some (if b.negative then -m else m)

/-- How an integer compares with a double; `none` when the double is NaN. -/
def compareIntFloat (n : Int) (x : Float) : Option Ordering :=
  if x.isNaN then none
  else if x.isInf then some (if x > 0 then .lt else .gt)
  else
    let b := Binary.ofFloat x
    let xm : Int := if b.negative then -(b.mantissa : Int) else b.mantissa
    if b.exponent >= 0 then some (compare n (xm * Int.pow 2 b.exponent.toNat))
    else some (compare (n * Int.pow 2 (-b.exponent).toNat) xm)

/-- The integer of `bits` bits, unsigned, that `n` wraps to. -/
def wrapUnsigned (bits : Nat) (n : Int) : Int :=
  n % (Nat.pow 2 bits : Nat)

/-- The integer of `bits` bits, signed, that `n` wraps to. -/
def wrapSigned (bits : Nat) (n : Int) : Int :=
  if bits == 0 then 0
  else
    let m := wrapUnsigned bits n
    if m >= (Nat.pow 2 (bits - 1) : Nat) then m - (Nat.pow 2 bits : Nat) else m

/-- The number of bits of an integer's magnitude. -/
def intBitLength (n : Int) : Nat :=
  if n == 0 then 0 else Nat.log2 n.natAbs + 1

/-- The most bits an integer may have. -/
def maxIntBits : Nat := 1073741824

end TranscriptTest.Js
