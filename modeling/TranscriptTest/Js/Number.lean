import TranscriptTest.Decimal.Shortest
import TranscriptTest.Js.Lexer

/-!
# Numbers as text, and text as numbers

Scripts compute with doubles. A double prints as the shortest decimal that reads back as it,
positionally when its decimal point falls between 21 places left of the first digit and 6
places right of it, and in exponent form (`1e+21`, `1.5e-7`) otherwise. Other bases print the
integer part exactly and the fraction digit by digit until the digits left cannot change the
value. Fixed places round the exact binary value, a tie going away from zero.
-/

namespace TranscriptTest.Js

open TranscriptTest.Decimal

/-- Not a number. -/
def nan : Float := 0 / 0

/-- Positive infinity. -/
def infinity : Float := 1 / 0

/-- Whether a double is negative zero. -/
def isNegZero (x : Float) : Bool :=
  x == 0 && 1 / x < 0

/-- The exact integer part of a finite double's magnitude. -/
def integerPart (x : Float) : Nat :=
  let b := Binary.ofFloat x
  if b.exponent >= 0 then b.mantissa * Nat.pow 2 b.exponent.toNat
  else b.mantissa / Nat.pow 2 (-b.exponent).toNat

/-- A decimal `0.d₁d₂… · 10^n` written the way numbers print: positionally for `-6 < n ≤ 21`,
else as `d₁.d₂…e±(n-1)`. -/
def decimalText (digits : String) (n : Int) : String :=
  let k : Int := digits.length
  if k <= n && n <= 21 then digits ++ String.ofList (List.replicate (n - k).toNat '0')
  else if 0 < n && n ≤ 21 then
    String.ofList (digits.toList.take n.toNat) ++ "." ++ String.ofList (digits.toList.drop n.toNat)
  else if -6 < n && n ≤ 0 then
    "0." ++ String.ofList (List.replicate (-n).toNat '0') ++ digits
  else
    let e := n - 1
    let sign := if e < 0 then "-" else "+"
    let mantissa := match digits.toList with
      | [d] => String.singleton d
      | d :: rest => String.singleton d ++ "." ++ String.ofList rest
      | [] => "0"
    mantissa ++ "e" ++ sign ++ toString e.natAbs

/-- The text of a number in base ten. -/
def numberText (x : Float) : String :=
  if x.isNaN then "NaN"
  else if x == 0 then "0"
  else if x.isInf then (if x < 0 then "-Infinity" else "Infinity")
  else
    let d := Decimal.ofFloat x
    let digits := toString d.digits
    let n := d.exponent + digits.length
    (if x < 0 then "-" else "") ++ decimalText digits n

/-- The next double above a positive finite double. -/
def nextUp (x : Float) : Float :=
  Float.ofBits (x.toBits + 1)

/-- Rounds written fraction digits (last digit first) up by one unit in the last place: digits
that would overflow are dropped, and `true` tells that the carry left the fraction. -/
def carryUp (base : Nat) : List Nat -> List Nat × Bool
  | [] => ([], true)
  | x :: rest => if x + 1 < base then ((x + 1) :: rest, false) else carryUp base rest

/-- The fraction digits of `f` in `[0, 1)` in a base, until the rest could not change the value
(`delta`, half the gap to the next double); the last digit is rounded to even. -/
def fractionDigits (base : Nat) : Nat -> Float -> Float -> List Nat -> List Nat × Bool
  | 0, _, _, acc => (acc.reverse, false)
  | fuel + 1, f, delta, acc =>
    let f := f * base.toFloat
    let delta := delta * base.toFloat
    let d := f.floor
    let f := f - d
    let digit := d.toUInt64.toNat
    if (f > 0.5 || (f == 0.5 && digit % 2 == 1)) && f + delta > 1 then
      let (digits, carried) := carryUp base (digit :: acc)
      (digits.reverse, carried)
    else if f >= delta then fractionDigits base fuel f delta (digit :: acc)
    else ((digit :: acc).reverse, false)

/-- The integer digits of a whole double in a base, most significant first, divided out in
floating point; a digit is zero while a base-th of the value is above 2^53. -/
def wholeDigits (base : Nat) (v : Float) : List Nat :=
  let b := base.toFloat
  let rec shrink : Nat -> Float -> Nat -> Float × Nat
    | 0, v, zeros => (v, zeros)
    | fuel + 1, v, zeros =>
      if v / b >= 9007199254740992 then shrink fuel (v / b) (zeros + 1) else (v, zeros)
  let rec divide : Nat -> Float -> List Nat -> List Nat
    | 0, _, acc => acc
    | fuel + 1, v, acc =>
      let r := v.toUInt64.toNat % base
      let v := (v - r.toFloat) / b
      if v > 0 then divide fuel v (r :: acc) else r :: acc
  let (v, zeros) := shrink 1100 v 0
  divide 100 v [] ++ List.replicate zeros 0

/-- The text of a number in a base from 2 to 36. -/
def radixText (x : Float) (base : Nat) : String :=
  if base == 10 then numberText x
  else if x.isNaN then "NaN"
  else if x == 0 then "0"
  else if x.isInf then (if x < 0 then "-Infinity" else "Infinity")
  else
    let v := x.abs
    let whole := v.floor
    let frac := v - whole
    let delta0 := 0.5 * (nextUp v - v)
    let delta := if delta0 > Float.ofBits 1 then delta0 else Float.ofBits 1
    let digit (d : Nat) : Char := if d < 10 then Char.ofNat (48 + d) else Char.ofNat (87 + d)
    let (fracPart, carry) :=
      if frac >= delta then fractionDigits base 1100 frac delta [] else ([], false)
    let whole := if carry then whole + 1 else whole
    let body := String.ofList ((wholeDigits base whole).map digit) ++
      (if fracPart.isEmpty then "" else "." ++ String.ofList (fracPart.map digit))
    (if x < 0 then "-" else "") ++ body

/-- `x` rounded to `places` decimals (at most 100), for `|x| < 10^21`: the exact binary value
scaled and rounded half away from zero. -/
def fixedText (x : Float) (places : Nat) : String :=
  if x.isNaN then "NaN"
  else if x.abs >= 1e21 || x.isInf then numberText x
  else
    let b := Binary.ofFloat x
    let scaled : Nat :=
      if b.exponent >= 0 then b.mantissa * Nat.pow 2 b.exponent.toNat * Nat.pow 10 places
      else
        let den := Nat.pow 2 (-b.exponent).toNat
        (2 * b.mantissa * Nat.pow 10 places + den) / (2 * den)
    let digits := toString scaled
    let padded := if digits.length ≤ places then
        String.ofList (List.replicate (places + 1 - digits.length) '0') ++ digits
      else digits
    let cut := padded.length - places
    let body := if places == 0 then padded
      else String.ofList (padded.toList.take cut) ++ "." ++ String.ofList (padded.toList.drop cut)
    (if x < 0 && !(isNegZero x) then "-" else "") ++ body

/-- `x` with `precision` significant digits (1 to 100), rounded half away from zero, in
exponent form when the exponent is below -6 or at least the precision. -/
def precisionText (x : Float) (precision : Nat) : String :=
  if x.isNaN then "NaN"
  else if x.isInf then (if x < 0 then "-Infinity" else "Infinity")
  else if x == 0 then
    if precision <= 1 then "0" else "0." ++ String.ofList (List.replicate (precision - 1) '0')
  else
    let b := Binary.ofFloat x
    let mag := decimalMagnitude b.mantissa b.exponent
    -- digits = round(|x| · 10^(precision - 1 - mag))
    let t : Int := precision - 1 - mag
    let num := b.mantissa * Nat.pow 2 b.exponent.toNat * Nat.pow 10 t.toNat
    let den := Nat.pow 2 (-b.exponent).toNat * Nat.pow 10 (-t).toNat
    let rounded := (2 * num + den) / (2 * den)
    let (rounded, mag) := if (toString rounded).length > precision then (rounded / 10, mag + 1)
      else (rounded, mag)
    let digits := toString rounded
    let sign := if x < 0 then "-" else ""
    if mag < -6 || mag ≥ precision then
      let mantissa := match digits.toList with
        | [d] => String.singleton d
        | d :: rest => String.singleton d ++ "." ++ String.ofList rest
        | [] => "0"
      sign ++ mantissa ++ "e" ++ (if mag < 0 then "-" else "+") ++ toString mag.natAbs
    else if mag ≥ 0 then
      let cut := mag.toNat + 1
      sign ++ String.ofList (digits.toList.take cut) ++
        (if cut < precision then "." ++ String.ofList (digits.toList.drop cut) else "")
    else
      sign ++ "0." ++ String.ofList (List.replicate ((-mag).toNat - 1) '0') ++ digits

/-- `x` in exponent form with `places` digits after the point (rounded half away from zero),
or with as many as it takes to read back when `places` is absent. -/
def exponentText (x : Float) (places : Option Nat) : String :=
  if x.isNaN then "NaN"
  else if x.isInf then (if x < 0 then "-Infinity" else "Infinity")
  else
    let sign := if x < 0 then "-" else ""
    let (digits, mag) : String × Int :=
      if x == 0 then (String.ofList (List.replicate ((places.getD 0) + 1) '0'), 0)
      else match places with
        | none =>
          let d := Decimal.ofFloat x
          let ds := toString d.digits
          (ds, d.exponent + ds.length - 1)
        | some p =>
          let b := Binary.ofFloat x
          let mag := decimalMagnitude b.mantissa b.exponent
          let t : Int := p - mag
          let num := b.mantissa * Nat.pow 2 b.exponent.toNat * Nat.pow 10 t.toNat
          let den := Nat.pow 2 (-b.exponent).toNat * Nat.pow 10 (-t).toNat
          let rounded := (2 * num + den) / (2 * den)
          if (toString rounded).length > p + 1 then (toString (rounded / 10), mag + 1)
          else (toString rounded, mag)
    let mantissa := match digits.toList with
      | [d] => String.singleton d
      | d :: rest => String.singleton d ++ "." ++ String.ofList rest
      | [] => "0"
    sign ++ mantissa ++ "e" ++ (if mag < 0 then "-" else "+") ++ toString mag.natAbs

/-! ## Text to numbers -/

/-- Reads an unsigned decimal literal exactly filling `cs`, or `none`. -/
def readDecimal (cs : List Char) : Option Float :=
  let intDigits := cs.takeWhile Char.isDigit
  let rest := cs.dropWhile Char.isDigit
  let (fracDigits, rest, hadPoint) := match rest with
    | '.' :: more => (more.takeWhile Char.isDigit, more.dropWhile Char.isDigit, true)
    | _ => ([], rest, false)
  if intDigits.isEmpty && fracDigits.isEmpty then none
  else
    let _ := hadPoint
    let expPart : Option Int := match rest with
      | [] => some 0
      | e :: more =>
        if e == 'e' || e == 'E' then
          let (neg, ds) := match more with
            | '+' :: ds => (false, ds)
            | '-' :: ds => (true, ds)
            | ds => (false, ds)
          if !ds.isEmpty && ds.all Char.isDigit then
            let v := Int.ofNat (digitsValue 10 ds)
            some (if neg then -v else v)
          else none
        else none
    expPart.map fun e =>
      scientific (digitsValue 10 (intDigits ++ fracDigits)) (e - Int.ofNat fracDigits.length)

/-- The number a text stands for: blanks around it are ignored, the empty text is zero. -/
def textToNumber (s : String) : Float :=
  let cs := ((s.toList.dropWhile isTrimmed).reverse.dropWhile isTrimmed).reverse
  let prefixed (base : Nat) (ds : List Char) : Float :=
    if !ds.isEmpty && ds.all (isDigitIn base) then (digitsValue base ds).toFloat else nan
  match cs with
  | [] => 0
  | '0' :: x :: ds =>
    if x == 'x' || x == 'X' then prefixed 16 ds
    else if x == 'o' || x == 'O' then prefixed 8 ds
    else if x == 'b' || x == 'B' then prefixed 2 ds
    else (readDecimal cs).getD nan
  | _ =>
    let (neg, body) := match cs with
      | '-' :: b => (true, b)
      | '+' :: b => (false, b)
      | b => (false, b)
    let v := if body == "Infinity".toList then some infinity else readDecimal body
    match v with
    | some v => if neg then -v else v
    | none => nan

/-- The longest prefix of `cs` that reads as a decimal literal, as in `parseFloat`. -/
def leadingDecimal (cs : List Char) : Float :=
  let (neg, body) := match cs with
    | '-' :: b => (true, b)
    | '+' :: b => (false, b)
    | b => (false, b)
  let v :=
    if "Infinity".toList.isPrefixOf body then some infinity
    else
      let intDigits := body.takeWhile Char.isDigit
      let rest := body.dropWhile Char.isDigit
      let (fracDigits, rest) := match rest with
        | '.' :: more => (more.takeWhile Char.isDigit, more.dropWhile Char.isDigit)
        | _ => ([], rest)
      if intDigits.isEmpty && fracDigits.isEmpty then none
      else
        let e : Int := match rest with
          | c :: more =>
            if c == 'e' || c == 'E' then
              let (eneg, ds) := match more with
                | '+' :: ds => (false, ds)
                | '-' :: ds => (true, ds)
                | ds => (false, ds)
              let ds := ds.takeWhile Char.isDigit
              if ds.isEmpty then 0
              else if eneg then -Int.ofNat (digitsValue 10 ds) else Int.ofNat (digitsValue 10 ds)
            else 0
          | [] => 0
        some (scientific (digitsValue 10 (intDigits ++ fracDigits)) (e - Int.ofNat fracDigits.length))
  match v with
  | some v => if neg then -v else v
  | none => nan

/-- `parseFloat`: the decimal at the start of the text after blanks. -/
def parseFloatText (s : String) : Float :=
  leadingDecimal (s.toList.dropWhile isTrimmed)

/-- `parseInt`: the digits of the base at the start of the text after blanks and a sign; base
zero means ten, or sixteen after `0x`. -/
def parseIntText (s : String) (radix : Int) : Float :=
  let cs := s.toList.dropWhile isTrimmed
  let (neg, cs) := match cs with
    | '-' :: b => (true, b)
    | '+' :: b => (false, b)
    | b => (false, b)
  let hasHexPrefix := match cs with
    | '0' :: x :: _ => x == 'x' || x == 'X'
    | _ => false
  let (base, cs) :=
    if radix == 0 then (if hasHexPrefix then (16, cs.drop 2) else (10, cs))
    else if radix == 16 && hasHexPrefix then (16, cs.drop 2)
    else (radix.toNat, cs)
  if base < 2 || base > 36 then nan
  else
    let ds := cs.takeWhile (isDigitIn base)
    if ds.isEmpty then nan
    else
      let v := if base == 10 then scientific (digitsValue 10 ds) 0 else (digitsValue base ds).toFloat
      if neg then -v else v

/-! ## Integer conversions -/

/-- A finite double truncated toward zero, as an integer. -/
def truncInt (x : Float) : Int :=
  if x.isNaN || x.isInf then 0
  else if x < 0 then -Int.ofNat (integerPart x) else Int.ofNat (integerPart x)

/-- The 32-bit two's-complement integer a number wraps to. -/
def toInt32 (x : Float) : Int :=
  let n := truncInt x % 4294967296
  if n >= 2147483648 then n - 4294967296 else n

/-- The 32-bit unsigned integer a number wraps to. -/
def toUint32 (x : Float) : Nat :=
  (truncInt x % 4294967296).toNat

/-- An integer as a double. -/
def intToFloat (n : Int) : Float :=
  if n < 0 then -(n.natAbs.toFloat) else n.toNat.toFloat

/-- Whether a double is an integer. -/
def isIntegral (x : Float) : Bool :=
  !x.isNaN && !x.isInf && x.floor == x

end TranscriptTest.Js
