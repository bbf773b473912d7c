import TranscriptTest.Decimal.Shortest

/-!
# Doubles in the conversions of `printf`

The conversions `%f`, `%e` and `%g` write the exact binary value of a double rounded to the
digits asked for, a tie going to the even digit. `%f` writes a fixed number of places, `%e` one
digit before the point and an exponent of at least two digits, and `%g` a number of significant
digits: in fixed form when the exponent is at least -4 and below that number, else in exponent
form, trailing zeros dropped either way. Infinities and NaN are `inf` and `nan`, in capitals for
the capital conversions. Six places or digits are the default.
-/

namespace TranscriptTest.Decimal

/-- `n / d` rounded to the nearest integer, a tie going to the even one. -/
def roundHalfEven (n d : Nat) : Nat :=
  let q := n / d
  let r := n % d
  if 2 * r > d then q + 1 else if 2 * r < d then q else if q % 2 == 0 then q else q + 1

/-- The magnitude of a double `m · 2^e` times `10^t`, rounded to an integer. -/
def scaledRound (b : Binary) (t : Int) : Nat :=
  roundHalfEven (b.mantissa * Nat.pow 2 b.exponent.toNat * Nat.pow 10 t.toNat)
    (Nat.pow 2 (-b.exponent).toNat * Nat.pow 10 (-t).toNat)

/-- The digits of a finite double's magnitude with `places` decimals: the integer part and the
decimals. -/
def fixedDigits (x : Float) (places : Nat) : List Char × List Char :=
  let ds := (toString (scaledRound (Binary.ofFloat x) places)).toList
  let ds := if ds.length <= places then List.replicate (places + 1 - ds.length) '0' ++ ds else ds
  (ds.take (ds.length - places), ds.drop (ds.length - places))

/-- The first `count` significant digits of a finite double's magnitude (at least one), rounded,
and the decimal exponent of the first; zero has zeros and exponent zero. -/
def significantDigits (x : Float) (count : Nat) : List Char × Int :=
  let count := max count 1
  let b := Binary.ofFloat x
  if b.mantissa == 0 then (List.replicate count '0', 0)
  else
    let mag := decimalMagnitude b.mantissa b.exponent
    let n := scaledRound b ((count : Int) - 1 - mag)
    let ds := (toString n).toList
    -- rounding up to the next power of ten adds a digit
    if ds.length > count then (ds.take count, mag + 1) else (ds, mag)

/-- Whether the sign bit of a double is set, NaN included. -/
def signBit (x : Float) : Bool :=
  x.toBits.toNat >= Nat.pow 2 63

/-- An exponent as `%e` writes it: a sign and at least two digits. -/
def exponentPart (upper : Bool) (e : Int) : String :=
  let ds := toString e.natAbs
  (if upper then "E" else "e") ++ (if e < 0 then "-" else "+") ++
    (if ds.length < 2 then "0" ++ ds else ds)

/-- Drops trailing zeros of a fraction, and the point when nothing is left after it. -/
def dropTrailingZeros (body : List Char) : List Char :=
  if body.contains '.' then
    let r := body.reverse.dropWhile (· == '0')
    (match r with
      | '.' :: rest => rest
      | _ => r).reverse
  else body

/-- The text of a finite double's magnitude under a conversion (`f`, `e` or `g`, either case),
without sign or padding; `alternate` keeps the point and, for `g`, the trailing zeros. -/
def magnitudeText (conv : Char) (alternate : Bool) (precision : Option Nat) (x : Float) :
    String :=
  let upper := conv.isUpper
  let fixed (places : Nat) : List Char :=
    let (ip, fp) := fixedDigits x places
    ip ++ (if places > 0 || alternate then '.' :: fp else [])
  -- the digits before the exponent, and the exponent
  let expo (places : Nat) : List Char × List Char :=
    let (ds, e) := significantDigits x (places + 1)
    let (first, rest) := (ds.take 1, ds.drop 1)
    (first ++ (if places > 0 || alternate then '.' :: rest else []), (exponentPart upper e).toList)
  let trim (body : List Char) : List Char := if alternate then body else dropTrailingZeros body
  match conv.toLower with
  | 'f' => String.ofList (fixed (precision.getD 6))
  | 'e' =>
    let (m, e) := expo (precision.getD 6)
    String.ofList (m ++ e)
  | _ =>
    let p := match precision.getD 6 with
      | 0 => 1
      | p => p
    let (_, e) := significantDigits x p
    if e < p && e >= -4 then String.ofList (trim (fixed (p - 1 - e).toNat))
    else
      let (m, ex) := expo (p - 1)
      String.ofList (trim m ++ ex)

/-- A double under a conversion with its flags (`+` and space for the sign of positive
numbers, `#` for the alternate form), without padding. -/
def formatDouble (flags : List Char) (precision : Option Nat) (conv : Char) (x : Float) :
    String :=
  let sign := if signBit x then "-" else if flags.contains '+' then "+"
    else if flags.contains ' ' then " " else ""
  let upper := conv.isUpper
  let body :=
    if x.isNaN then (if upper then "NAN" else "nan")
    else if x.isInf then (if upper then "INF" else "inf")
    else magnitudeText conv (flags.contains '#') precision x
  sign ++ body

/-! ## Reading numbers -/

/-- The double nearest to `m · 10^e`; exponents far beyond the range of doubles give zero or
infinity without computing the power. -/
def nearestDouble (m : Nat) (e : Int) : Float :=
  if m == 0 then 0
  else if e > 400 then Float.ofScientific 1 false 400
  else if e + Int.ofNat (toString m).length < -400 then 0
  else if e >= 0 then Float.ofScientific m false e.toNat
  else Float.ofScientific m true (-e).toNat

/-- Whether a character is white space to the C library. -/
def isCSpace (c : Char) : Bool :=
  c == ' ' || c == '\t' || c == '\n' || c == '\x0b' || c == '\x0c' || c == '\r'

/-- The value of a digit in a base up to sixteen. -/
def digitIn (base : Nat) (c : Char) : Option Nat :=
  let v := if '0' <= c && c <= '9' then some (c.toNat - 48)
    else if 'a' <= c && c <= 'f' then some (c.toNat - 87)
    else if 'A' <= c && c <= 'F' then some (c.toNat - 55)
    else none
  v.bind fun d => if d < base then some d else none

/-- The digits of a base at the start of a text: their value, how many, and what follows. -/
def leadingDigits (base : Nat) : List Char -> Nat × Nat × List Char
  | c :: rest =>
    match digitIn base c with
    | some d =>
      let (v, n, after) := leadingDigits base rest
      (d * Nat.pow base n + v, n + 1, after)
    | none => (0, 0, c :: rest)
  | [] => (0, 0, [])

/-- Whether a text starts with a word, in any case. -/
def startsWithWord (cs : List Char) (w : String) : Bool :=
  (cs.take w.length).map Char.toLower == w.toList

/-- A signed exponent of digits after its letter, if there is one: its value and what follows. -/
def exponentOf (cs : List Char) : Option (Int × List Char) :=
  let (neg, ds) := match cs with
    | '+' :: ds => (false, ds)
    | '-' :: ds => (true, ds)
    | ds => (false, ds)
  let (v, n, after) := leadingDigits 10 ds
  if n == 0 then none else some (if neg then -(v : Int) else v, after)

/-- Reads the longest prefix of a text that is a number, as the C library's `strtod` does. -/
def readDoublePrefix (text : List Char) : Float × Bool × List Char :=
  let cs := text.dropWhile isCSpace
  let (neg, cs) := match cs with
    | '-' :: rest => (true, rest)
    | '+' :: rest => (false, rest)
    | _ => (false, cs)
  let signed (v : Float) : Float := if neg then -v else v
  if startsWithWord cs "infinity" then (signed (1 / 0), true, cs.drop 8)
  else if startsWithWord cs "inf" then (signed (1 / 0), true, cs.drop 3)
  else if startsWithWord cs "nan" then
    let after := cs.drop 3
    -- a parenthesized tail of letters, digits and underscores belongs to it
    let after := match after with
      | '(' :: more =>
        let inside := more.takeWhile (fun c => c.isAlphanum || c == '_')
        match more.drop inside.length with
        | ')' :: rest => rest
        | _ => after
      | _ => after
    (signed (0 / 0), true, after)
  else
    let hex := match cs with
      | '0' :: x :: rest =>
        if (x == 'x' || x == 'X') then
          let (iv, ni, r1) := leadingDigits 16 rest
          let (fv, nf, r2) := match r1 with
            | '.' :: more => leadingDigits 16 more
            | _ => (0, 0, r1)
          let r2 := if nf == 0 && (match r1 with | '.' :: _ => true | _ => false) && ni > 0 then r1.drop 1 else r2
          if ni + nf == 0 then none
          else
            let (e, r3) := match r2 with
              | p :: more => if p == 'p' || p == 'P' then (exponentOf more).getD (0, r2) else (0, r2)
              | [] => (0, [])
            let m := iv * Nat.pow 16 nf + fv
            some (signed ((Float.ofNat m).scaleB (e - 4 * (nf : Int))), true, r3)
        else none
      | _ => none
    match hex with
    | some r => r
    | none =>
      let (iv, ni, r1) := leadingDigits 10 cs
      let (fracDigits, r2) := match r1 with
        | '.' :: more => (more.takeWhile Char.isDigit, more.dropWhile Char.isDigit)
        | _ => ([], r1)
      let pointRead := match r1 with
        | '.' :: _ => true
        | _ => false
      if ni + fracDigits.length == 0 then (0, false, text)
      else
        let r2 := if pointRead then r2 else r1
        let (e, r3) := match r2 with
          | c :: more => if c == 'e' || c == 'E' then (exponentOf more).getD (0, r2) else (0, r2)
          | [] => (0, [])
        let (fv, nf, _) := leadingDigits 10 fracDigits
        let m := iv * Nat.pow 10 nf + fv
        (signed (nearestDouble m (e - nf)), true, r3)

end TranscriptTest.Decimal
