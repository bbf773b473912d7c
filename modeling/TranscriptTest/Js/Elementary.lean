/-!
# Elementary functions as scripts compute them

`Math.sin`, `Math.log` and the other elementary functions of scripts are not the platform's C
library: the script engine computes them with its own routines, whose last bit differs, on some
arguments, both from the correctly rounded result and from the C library. The functions here
follow those routines operation for operation, so that each result is the same double.
-/

namespace TranscriptTest.Js.Elementary

/-! ## Words of a double -/

/-- The high 32 bits of a double: sign, exponent and the top of the fraction. -/
def highWord (x : Float) : Nat := (x.toBits >>> 32).toNat

/-- The low 32 bits of a double's fraction. -/
def lowWord (x : Float) : Nat := (x.toBits &&& 0xFFFFFFFF).toNat

/-- The high word read as a signed 32-bit number: negative exactly when the sign bit is set. -/
def signedHigh (x : Float) : Int :=
  let h := highWord x
  if h >= 0x80000000 then (h : Int) - 0x100000000 else h

/-- The high word of `|x|`. -/
def absHigh (x : Float) : Nat := highWord x % 0x80000000

/-- The double with the given high and low words, each taken modulo 2³². -/
def ofWords (h : Int) (l : Nat) : Float :=
  Float.ofBits (UInt64.ofNat ((h % 0x100000000).toNat * 0x100000000 + l % 0x100000000))

/-- `x` with its low word replaced. -/
def setLow (x : Float) (l : Nat) : Float := ofWords (highWord x) l

/-- `x` with its high word replaced. -/
def setHigh (x : Float) (h : Int) : Float := ofWords h (lowWord x)

/-- Conversion to an integer by truncation toward zero, for doubles well inside the 64-bit
range. -/
def truncate (x : Float) : Int :=
  if x < 0 then -((-x).toUInt64.toNat : Int) else (x.toUInt64.toNat : Int)

/-- A small integer as a double. -/
def ofInt (k : Int) : Float :=
  if k < 0 then -(k.natAbs.toFloat) else k.natAbs.toFloat

/-- Not a number. -/
def notANumber : Float := 0 / 0

/-- Positive infinity. -/
def posInfinity : Float := 1 / 0

/-! ## Constants

Each constant is given by its bits, so that no decimal reading stands between it and the
routines' tables. -/

/-- π/2 rounded to a double. -/
def pio2Hi : Float := Float.ofBits 0x3FF921FB54442D18
/-- π/2 minus `pio2Hi`. -/
def pio2Lo : Float := Float.ofBits 0x3C91A62633145C07
/-- π/4 rounded to a double. -/
def pio4Hi : Float := Float.ofBits 0x3FE921FB54442D18
/-- π/4 minus `pio4Hi`. -/
def pio4Lo : Float := Float.ofBits 0x3C81A62633145C07
/-- π rounded to a double. -/
def piHi : Float := Float.ofBits 0x400921FB54442D18
/-- π minus `piHi`. -/
def piLo : Float := Float.ofBits 0x3CA1A62633145C07
/-- ln 2 rounded to a double. -/
def ln2 : Float := Float.ofBits 0x3FE62E42FEFA39EF
/-- The top 32 bits of ln 2, so that `k * ln2Hi` is exact for small `k`. -/
def ln2Hi : Float := Float.ofBits 0x3FE62E42FEE00000
/-- ln 2 minus `ln2Hi`. -/
def ln2Lo : Float := Float.ofBits 0x3DEA39EF35793C76
/-- 1/ln 2. -/
def invLn2 : Float := Float.ofBits 0x3FF71547652B82FE
/-- 2⁵⁴, to scale subnormal arguments up. -/
def two54 : Float := Float.ofBits 0x4350000000000000
/-- 2²⁴. -/
def two24 : Float := Float.ofBits 0x4170000000000000
/-- 2⁻²⁴. -/
def twoM24 : Float := Float.ofBits 0x3E70000000000000
/-- 2⁻¹⁰⁰⁰. -/
def twoM1000 : Float := Float.ofBits 0x0170000000000000
/-- 2¹⁰²³. -/
def two1023 : Float := Float.ofBits 0x7FE0000000000000

/-! ## Reduction modulo π/2 -/

/-- The bits of 2/π, 24 at a time. -/
def twoOverPi : Array Nat := #[
  0xA2F983, 0x6E4E44, 0x1529FC, 0x2757D1, 0xF534DD, 0xC0DB62,
  0x95993C, 0x439041, 0xFE5163, 0xABDEBB, 0xC561B7, 0x246E3A,
  0x424DD2, 0xE00649, 0x2EEA09, 0xD1921C, 0xFE1DEB, 0x1CB129,
  0xA73EE8, 0x8235F5, 0x2EBB44, 0x84E99C, 0x7026B4, 0x5F7E41,
  0x3991D6, 0x398353, 0x39F49C, 0x845F8B, 0xBDF928, 0x3B1FF8,
  0x97FFDE, 0x05980F, 0xEF2F11, 0x8B5A0A, 0x6D1F6D, 0x367ECF,
  0x27CB09, 0xB74F46, 0x3F669E, 0x5FEA2D, 0x7527BA, 0xC7EBE5,
  0xF17B3D, 0x0739F7, 0x8A5292, 0xEA6BFB, 0x5FB11F, 0x8D5D08,
  0x560330, 0x46FC7B, 0x6BABF0, 0xCFBC20, 0x9AF436, 0x1DA9E3,
  0x91615E, 0xE61B08, 0x659985, 0x5F14A0, 0x68408D, 0xFFD880,
  0x4D7327, 0x310606, 0x1556CA, 0x73A8C9, 0x60E27B, 0xC08C6B]

/-- π/2 in pieces of 24 bits, for the long reduction. -/
def pio2Pieces : Array Float := #[
  Float.ofBits 0x3FF921FB40000000, Float.ofBits 0x3E74442D00000000,
  Float.ofBits 0x3CF8469880000000, Float.ofBits 0x3B78CC5160000000,
  Float.ofBits 0x39F01B8380000000, Float.ofBits 0x387A252040000000,
  Float.ofBits 0x36E3822280000000, Float.ofBits 0x3569F31D00000000]

/-- The high words of the multiples `n·π/2` for `n` from 1 to 32: an argument whose high word
is one of them may lose many bits to cancellation in the short reduction. -/
def multiplesOfPio2 : Array Nat := #[
  0x3FF921FB, 0x400921FB, 0x4012D97C, 0x401921FB, 0x401F6A7A, 0x4022D97C,
  0x4025FDBB, 0x402921FB, 0x402C463A, 0x402F6A7A, 0x4031475C, 0x4032D97C,
  0x40346B9C, 0x4035FDBB, 0x40378FDB, 0x403921FB, 0x403AB41B, 0x403C463A,
  0x403DD85A, 0x403F6A7A, 0x40407E4C, 0x4041475C, 0x4042106C, 0x4042D97C,
  0x4043A28C, 0x40446B9C, 0x404534AC, 0x4045FDBB, 0x4046C6CB, 0x40478FDB,
  0x404858EB, 0x404921FB]

/-- The element of a table of doubles, zero past its end. -/
def entry (a : Array Float) (i : Nat) : Float := a.getD i 0

/-- `Σ_{j ≤ jx} x[j]·f[jx + i − j]`, summed from `j = 0` up. -/
def convolve (x f : Array Float) (jx i : Nat) : Float :=
  (List.range (jx + 1)).foldl (fun s j => s + entry x j * entry f (jx + i - j)) 0

/-- The 24-bit pieces of `q[0..jz]`, most significant first reversed as the routine stores
them, and the remaining value `z` (the integer and fraction above the pieces). -/
def distill (q : Array Float) (jz : Nat) : Array Nat × Float := Id.run do
  let mut iq : Array Nat := Array.replicate 20 0
  let mut z := entry q jz
  for t in [0:jz] do
    let j := jz - t
    let fw := ofInt (truncate (twoM24 * z))
    iq := iq.set! t (truncate (z - two24 * fw)).toNat
    z := entry q (j - 1) + fw
  return (iq, z)

/-- Reduces `x·2^(e0)`, `x` up to three 24-bit pieces, modulo π/2 with enough bits of 2/π:
the quadrant modulo 8 and the remainder as a head and a tail. -/
def reduceLong (x : Array Float) (e0 : Int) (nx : Nat) : Int × Float × Float := Id.run do
  let jk : Nat := 4
  let jx : Nat := nx - 1
  let jv : Nat := (max 0 ((e0 - 3) / 24)).toNat
  let q0 : Int := e0 - 24 * ((jv : Int) + 1)
  let mut f : Array Float := Array.replicate 20 0
  for i in [0:jx + jk + 1] do
    let j : Int := (jv : Int) - jx + i
    f := f.set! i (if j < 0 then 0 else (twoOverPi.getD j.toNat 0).toFloat)
  let mut q : Array Float := Array.replicate 20 0
  for i in [0:jk + 1] do
    q := q.set! i (convolve x f jx i)
  let mut jz := jk
  let mut iq : Array Nat := Array.replicate 20 0
  let mut z : Float := 0
  let mut n : Int := 0
  let mut ih : Nat := 0
  for _ in [0:8] do
    let (iq1, z1) := distill q jz
    iq := iq1
    z := z1.scaleB q0
    z := z - 8.0 * (z * 0.125).floor
    n := truncate z
    z := z - ofInt n
    ih := 0
    if q0 > 0 then
      let sh := (24 - q0).toNat
      let i := iq.getD (jz - 1) 0 >>> sh
      n := n + i
      iq := iq.set! (jz - 1) (iq.getD (jz - 1) 0 - (i <<< sh))
      ih := iq.getD (jz - 1) 0 >>> (23 - q0).toNat
    else if q0 == 0 then
      ih := iq.getD (jz - 1) 0 >>> 23
    else if z ≥ 0.5 then
      ih := 2
    if ih > 0 then
      n := n + 1
      let mut carry := false
      for i in [0:jz] do
        let j := iq.getD i 0
        if !carry then
          if j != 0 then
            carry := true
            iq := iq.set! i (0x1000000 - j)
        else
          iq := iq.set! i (0xFFFFFF - j)
      if q0 == 1 then iq := iq.set! (jz - 1) (iq.getD (jz - 1) 0 &&& 0x7FFFFF)
      if q0 == 2 then iq := iq.set! (jz - 1) (iq.getD (jz - 1) 0 &&& 0x3FFFFF)
      if ih == 2 then
        z := 1 - z
        if carry then z := z - (1.0 : Float).scaleB q0
    -- All the pieces below the first `jk` vanished: take more bits of 2/π and start over.
    let lowZero := (List.range (jz - jk)).all fun t => iq.getD (jk + t) 0 == 0
    if z == 0 && lowZero then
      let k := 1 + ((List.range jk).takeWhile fun t => iq.getD (jk - 1 - t) 0 == 0).length
      for i in [jz + 1:jz + k + 1] do
        f := f.set! (jx + i) (twoOverPi.getD (jv + i) 0).toFloat
        q := q.set! i (convolve x f jx i)
      jz := jz + k
    else
      break
  -- Drop the vanished pieces, or split the rest of `z` into pieces.
  let mut qe := q0
  if z == 0 then
    jz := jz - 1
    qe := qe - 24
    for _ in [0:20] do
      if iq.getD jz 0 == 0 && jz > 0 then
        jz := jz - 1
        qe := qe - 24
  else
    z := z.scaleB (-q0)
    if z ≥ two24 then
      let fw := ofInt (truncate (twoM24 * z))
      iq := iq.set! jz (truncate (z - two24 * fw)).toNat
      jz := jz + 1
      qe := qe + 24
      iq := iq.set! jz (truncate fw).toNat
    else
      iq := iq.set! jz (truncate z).toNat
  -- The pieces as doubles, then times π/2.
  let mut fw : Float := (1.0 : Float).scaleB qe
  for t in [0:jz + 1] do
    let i := jz - t
    q := q.set! i (fw * (iq.getD i 0).toFloat)
    fw := fw * twoM24
  let mut fq : Array Float := Array.replicate 20 0
  for t in [0:jz + 1] do
    let i := jz - t
    let mut s : Float := 0
    for k in [0:min 4 (jz - i) + 1] do
      s := s + entry pio2Pieces k * entry q (i + k)
    fq := fq.set! (jz - i) s
  let mut sum : Float := 0
  for t in [0:jz + 1] do
    sum := sum + entry fq (jz - t)
  let y0 := if ih == 0 then sum else -sum
  let mut rest := entry fq 0 - sum
  for i in [1:jz + 1] do
    rest := rest + entry fq i
  let y1 := if ih == 0 then rest else -rest
  return (n % 8, y0, y1)

/-- `x` reduced modulo π/2: the quadrant `n` and `x − n·π/2` as a head and a tail whose sum is
the remainder to about 100 bits. -/
def reducePio2 (x : Float) : Int × Float × Float :=
  let hx := signedHigh x
  let ix := absHigh x
  let pio2One := Float.ofBits 0x3FF921FB54400000
  let pio2OneTail := Float.ofBits 0x3DD0B4611A626331
  let pio2Two := Float.ofBits 0x3DD0B4611A600000
  let pio2TwoTail := Float.ofBits 0x3BA3198A2E037073
  let pio2Three := Float.ofBits 0x3BA3198A2E000000
  let pio2ThreeTail := Float.ofBits 0x397B839A252049C1
  let invPio2 := Float.ofBits 0x3FE45F306DC9C883
  if ix <= 0x3FE921FB then (0, x, 0)
  else if ix < 0x4002D97C then
    if hx > 0 then
      let z := x - pio2One
      if ix != 0x3FF921FB then
        let y0 := z - pio2OneTail
        (1, y0, (z - y0) - pio2OneTail)
      else
        let z := z - pio2Two
        let y0 := z - pio2TwoTail
        (1, y0, (z - y0) - pio2TwoTail)
    else
      let z := x + pio2One
      if ix != 0x3FF921FB then
        let y0 := z + pio2OneTail
        (-1, y0, (z - y0) + pio2OneTail)
      else
        let z := z + pio2Two
        let y0 := z + pio2TwoTail
        (-1, y0, (z - y0) + pio2TwoTail)
  else if ix ≤ 0x413921FB then
    let t := x.abs
    let n := truncate (t * invPio2 + 0.5)
    let fn := ofInt n
    let r := t - fn * pio2One
    let w := fn * pio2OneTail
    let (r, w, y0) :=
      if n < 32 && ix != multiplesOfPio2.getD (n.toNat - 1) 0 then (r, w, r - w)
      else
        let j : Int := (ix >>> 20 : Nat)
        let y0 := r - w
        let i := j - ((highWord y0 >>> 20) &&& 0x7FF : Nat)
        if i > 16 then
          let t := r
          let w := fn * pio2Two
          let r := t - w
          let w := fn * pio2TwoTail - ((t - r) - w)
          let y0 := r - w
          let i := j - ((highWord y0 >>> 20) &&& 0x7FF : Nat)
          if i > 49 then
            let t := r
            let w := fn * pio2Three
            let r := t - w
            let w := fn * pio2ThreeTail - ((t - r) - w)
            (r, w, r - w)
          else (r, w, y0)
        else (r, w, y0)
    let y1 := (r - y0) - w
    if hx < 0 then (-n, -y0, -y1) else (n, y0, y1)
  else if ix >= 0x7FF00000 then (0, x - x, x - x)
  else
    let e0 : Int := ((ix >>> 20 : Nat) : Int) - 1046
    let z := ofWords ((ix : Int) - e0 * 0x100000) (lowWord x)
    let tx0 := ofInt (truncate z)
    let z := (z - tx0) * two24
    let tx1 := ofInt (truncate z)
    let tx2 := (z - tx1) * two24
    let nx := if tx2 != 0 then 3 else if tx1 != 0 then 2 else 1
    let (n, y0, y1) := reduceLong #[tx0, tx1, tx2] e0 nx
    if hx < 0 then (-n, -y0, -y1) else (n, y0, y1)

/-! ## Sine, cosine and tangent -/

/-- The sine of `x + y` for `|x| ≤ π/4`, `y` the tail of `x` (used when `tail` is set). -/
def kernelSin (x y : Float) (tail : Bool) : Float :=
  if absHigh x < 0x3E400000 then x
  else
    let s1 := Float.ofBits 0xBFC5555555555549
    let s2 := Float.ofBits 0x3F8111111110F8A6
    let s3 := Float.ofBits 0xBF2A01A019C161D5
    let s4 := Float.ofBits 0x3EC71DE357B1FE7D
    let s5 := Float.ofBits 0xBE5AE5E68A2B9CEB
    let s6 := Float.ofBits 0x3DE5D93A5ACFD57C
    let z := x * x
    let v := z * x
    let r := s2 + z * (s3 + z * (s4 + z * (s5 + z * s6)))
    if !tail then x + v * (s1 + z * r)
    else x - ((z * (0.5 * y - v * r) - y) - v * s1)

/-- The cosine of `x + y` for `|x| ≤ π/4`. -/
def kernelCos (x y : Float) : Float :=
  let ix := absHigh x
  if ix < 0x3E400000 then 1
  else
    let c1 := Float.ofBits 0x3FA555555555554C
    let c2 := Float.ofBits 0xBF56C16C16C15177
    let c3 := Float.ofBits 0x3EFA01A019CB1590
    let c4 := Float.ofBits 0xBE927E4F809C52AD
    let c5 := Float.ofBits 0x3E21EE9EBDB4B1C4
    let c6 := Float.ofBits 0xBDA8FAE9BE8838D4
    let z := x * x
    let r := z * (c1 + z * (c2 + z * (c3 + z * (c4 + z * (c5 + z * c6)))))
    if ix < 0x3FD33333 then 1 - (0.5 * z - (z * r - x * y))
    else
      let qx := if ix > 0x3FE90000 then 0.28125 else ofWords ((ix : Int) - 0x00200000) 0
      let hz := 0.5 * z - qx
      let a := 1 - qx
      a - (hz - (z * r - x * y))

/-- The coefficients of the tangent's odd polynomial. -/
def tanCoefficients : Array Float := #[
  Float.ofBits 0x3FD5555555555563, Float.ofBits 0x3FC111111110FE7A,
  Float.ofBits 0x3FABA1BA1BB341FE, Float.ofBits 0x3F9664F48406D637,
  Float.ofBits 0x3F8226E3E96E8493, Float.ofBits 0x3F6D6D22C9560328,
  Float.ofBits 0x3F57DBC8FEE08315, Float.ofBits 0x3F4344D8F2F26501,
  Float.ofBits 0x3F3026F71A8D1068, Float.ofBits 0x3F147E88A03792A6,
  Float.ofBits 0x3F12B80F32F0A7E9, Float.ofBits 0xBEF375CBDB605373,
  Float.ofBits 0x3EFB2A7074BF7AD4]

/-- `-1/(x + r)` to nearly full precision, `x + r` rounding to `w`: the quotient is split so
that its head times the head of `w` is exact. -/
def negInverse (x r w : Float) : Float :=
  let z := setLow w 0
  let v := r - (z - x)
  let a := -1.0 / w
  let t := setLow a 0
  let s := 1.0 + t * z
  t + a * (s + t * v)

/-- The tangent of `x + y` for `|x| ≤ π/4` when `odd` is false, and `-1/tan` when it is set. -/
def kernelTan (x y : Float) (odd : Bool) : Float :=
  let hx := signedHigh x
  let ix := absHigh x
  if ix < 0x3E300000 then
    if ix == 0 && lowWord x == 0 && odd then 1 / x.abs
    else if !odd then x
    else negInverse x y (x + y)
  else
    let big := ix >= 0x3FE59428
    let (x, y) :=
      if big then
        let (x, y) := if hx < 0 then (-x, -y) else (x, y)
        ((pio4Hi - x) + (pio4Lo - y), 0.0)
      else (x, y)
    let t := entry tanCoefficients
    let z := x * x
    let w := z * z
    let r := t 1 + w * (t 3 + w * (t 5 + w * (t 7 + w * (t 9 + w * t 11))))
    let v := z * (t 2 + w * (t 4 + w * (t 6 + w * (t 8 + w * (t 10 + w * t 12)))))
    let s := z * x
    let r := y + z * (s * (r + v) + y)
    let r := r + t 0 * s
    let w := x + r
    if big then
      let v : Float := if odd then -1 else 1
      (if hx < 0 then -1.0 else 1.0) * (v - 2.0 * (x - (w * w / (w + v) - r)))
    else if !odd then w
    else negInverse x r w

/-- `Math.sin`. -/
def sin (x : Float) : Float :=
  let ix := absHigh x
  if ix <= 0x3FE921FB then kernelSin x 0 false
  else if ix >= 0x7FF00000 then x - x
  else
    let (n, y0, y1) := reducePio2 x
    match n % 4 with
    | 0 => kernelSin y0 y1 true
    | 1 => kernelCos y0 y1
    | 2 => -kernelSin y0 y1 true
    | _ => -kernelCos y0 y1

/-- `Math.cos`. -/
def cos (x : Float) : Float :=
  let ix := absHigh x
  if ix <= 0x3FE921FB then kernelCos x 0
  else if ix >= 0x7FF00000 then x - x
  else
    let (n, y0, y1) := reducePio2 x
    match n % 4 with
    | 0 => kernelCos y0 y1
    | 1 => -kernelSin y0 y1 true
    | 2 => -kernelCos y0 y1
    | _ => kernelSin y0 y1 true

/-- `Math.tan`. -/
def tan (x : Float) : Float :=
  let ix := absHigh x
  if ix <= 0x3FE921FB then kernelTan x 0 false
  else if ix >= 0x7FF00000 then x - x
  else
    let (n, y0, y1) := reducePio2 x
    kernelTan y0 y1 (n % 2 == 1)

/-! ## Inverse trigonometric functions -/

/-- The rational function `R(t)` of the arcsine: `asin x = x + x·R(x²)` near zero. -/
def asinRatio (t : Float) : Float :=
  let pS0 := Float.ofBits 0x3FC5555555555555
  let pS1 := Float.ofBits 0xBFD4D61203EB6F7D
  let pS2 := Float.ofBits 0x3FC9C1550E884455
  let pS3 := Float.ofBits 0xBFA48228B5688F3B
  let pS4 := Float.ofBits 0x3F49EFE07501B288
  let pS5 := Float.ofBits 0x3F023DE10DFDF709
  let qS1 := Float.ofBits 0xC0033A271C8A2D4B
  let qS2 := Float.ofBits 0x40002AE59C598AC8
  let qS3 := Float.ofBits 0xBFE6066C1B8D0159
  let qS4 := Float.ofBits 0x3FB3B8C5B12E9282
  let p := t * (pS0 + t * (pS1 + t * (pS2 + t * (pS3 + t * (pS4 + t * pS5)))))
  let q := 1 + t * (qS1 + t * (qS2 + t * (qS3 + t * qS4)))
  p / q

/-- `Math.asin`. -/
def asin (x : Float) : Float :=
  let hx := signedHigh x
  let ix := absHigh x
  if ix ≥ 0x3FF00000 then
    if ix == 0x3FF00000 && lowWord x == 0 then x * pio2Hi + x * pio2Lo
    else (x - x) / (x - x)
  else if ix < 0x3FE00000 then
    if ix < 0x3E400000 then x
    else x + x * asinRatio (x * x)
  else
    let w := 1 - x.abs
    let t := w * 0.5
    let r := asinRatio t
    let s := t.sqrt
    let t :=
      if ix >= 0x3FEF3333 then pio2Hi - (2.0 * (s + s * r) - pio2Lo)
      else
        let w := setLow s 0
        let c := (t - w * w) / (s + w)
        let p := 2.0 * s * r - (pio2Lo - 2.0 * c)
        let q := pio4Hi - 2.0 * w
        pio4Hi - (p - q)
    if hx > 0 then t else -t

/-- `Math.acos`. -/
def acos (x : Float) : Float :=
  let hx := signedHigh x
  let ix := absHigh x
  if ix ≥ 0x3FF00000 then
    if ix == 0x3FF00000 && lowWord x == 0 then
      if hx > 0 then 0 else piHi + 2.0 * pio2Lo
    else (x - x) / (x - x)
  else if ix < 0x3FE00000 then
    if ix <= 0x3C600000 then pio2Hi + pio2Lo
    else pio2Hi - (x - (pio2Lo - x * asinRatio (x * x)))
  else if hx < 0 then
    let z := (1 + x) * 0.5
    let s := z.sqrt
    let w := asinRatio z * s - pio2Lo
    piHi - 2.0 * (s + w)
  else
    let z := (1 - x) * 0.5
    let s := z.sqrt
    let df := setLow s 0
    let c := (z - df * df) / (s + df)
    let w := asinRatio z * s + c
    2.0 * (df + w)

/-- The arctangents of 0.5, 1, 1.5 and ∞, as heads and tails. -/
def atanHeads : Array Float := #[
  Float.ofBits 0x3FDDAC670561BB4F, Float.ofBits 0x3FE921FB54442D18,
  Float.ofBits 0x3FEF730BD281F69B, Float.ofBits 0x3FF921FB54442D18]

/-- The tails of `atanHeads`. -/
def atanTails : Array Float := #[
  Float.ofBits 0x3C7A2B7F222F65E2, Float.ofBits 0x3C81A62633145C07,
  Float.ofBits 0x3C7007887AF0CBBD, Float.ofBits 0x3C91A62633145C07]

/-- The coefficients of the arctangent's polynomial. -/
def atanCoefficients : Array Float := #[
  Float.ofBits 0x3FD555555555550D, Float.ofBits 0xBFC999999998EBC4,
  Float.ofBits 0x3FC24924920083FF, Float.ofBits 0xBFBC71C6FE231671,
  Float.ofBits 0x3FB745CDC54C206E, Float.ofBits 0xBFB3B0F2AF749A6D,
  Float.ofBits 0x3FB10D66A0D03D51, Float.ofBits 0xBFADDE2D52DEFD9A,
  Float.ofBits 0x3FA97B4B24760DEB, Float.ofBits 0xBFA2B4442C6A6C2F,
  Float.ofBits 0x3F90AD3AE322DA11]

/-- `Math.atan`: the argument is moved near one of 0, 0.5, 1, 1.5 and ∞, whose arctangents
are known, and the rest is a polynomial. -/
def atan (x : Float) : Float :=
  let hx := signedHigh x
  let ix := absHigh x
  if ix ≥ 0x44100000 then
    if x.isNaN then x + x
    else if hx > 0 then entry atanHeads 3 + entry atanTails 3
    else -(entry atanHeads 3) - entry atanTails 3
  else if ix < 0x3FDC0000 && ix < 0x3E400000 then x
  else
    let (id, x) : Int × Float :=
      if ix < 0x3FDC0000 then (-1, x)
      else
        let x := x.abs
        if ix < 0x3FF30000 then
          if ix < 0x3FE60000 then (0, (2.0 * x - 1) / (2.0 + x))
          else (1, (x - 1) / (x + 1))
        else if ix < 0x40038000 then (2, (x - 1.5) / (1 + 1.5 * x))
        else (3, -1.0 / x)
    let a := entry atanCoefficients
    let z := x * x
    let w := z * z
    let s1 := z * (a 0 + w * (a 2 + w * (a 4 + w * (a 6 + w * (a 8 + w * a 10)))))
    let s2 := w * (a 1 + w * (a 3 + w * (a 5 + w * (a 7 + w * a 9))))
    if id < 0 then x - x * (s1 + s2)
    else
      let z := entry atanHeads id.toNat - ((x * (s1 + s2) - entry atanTails id.toNat) - x)
      if hx < 0 then -z else z

/-- `Math.atan2(y, x)`: the angle of the point `(x, y)`. -/
def atan2 (y x : Float) : Float :=
  let hx := signedHigh x
  let ix := absHigh x
  let lx := lowWord x
  let hy := signedHigh y
  let iy := absHigh y
  let ly := lowWord y
  if x.isNaN || y.isNaN then x + y
  else if hx == 0x3FF00000 && lx == 0 then atan y
  else
    let m : Nat := (if hy < 0 then 1 else 0) + (if hx < 0 then 2 else 0)
    let pio4 := pio4Hi
    let pio2 := pio2Hi
    if iy == 0 && ly == 0 then
      match m with
      | 0 | 1 => y
      | 2 => piHi
      | _ => -piHi
    else if ix == 0 && lx == 0 then (if hy < 0 then -pio2 else pio2)
    else if ix == 0x7FF00000 then
      if iy == 0x7FF00000 then
        match m with
        | 0 => pio4
        | 1 => -pio4
        | 2 => 3.0 * pio4
        | _ => -3.0 * pio4
      else
        match m with
        | 0 => 0
        | 1 => -0.0
        | 2 => piHi
        | _ => -piHi
    else if iy == 0x7FF00000 then (if hy < 0 then -pio2 else pio2)
    else
      let k : Int := ((iy : Int) - ix) / 0x100000
      let (z, m) :=
        if k > 60 then (pio2 + 0.5 * piLo, m % 2)
        else if hx < 0 && k < -60 then (0.0, m)
        else (atan (y / x).abs, m)
      match m with
      | 0 => z
      | 1 => -z
      | 2 => piHi - (z - piLo)
      | _ => (z - piLo) - piHi

/-! ## Exponentials -/

/-- `e^x` once `|x|` is known to be below about 709.78: `x = k·ln 2 + r` with `|r| ≤ ln 2 / 2`,
`e^r` from a rational approximation, and `k` put into the exponent. -/
def expReduced (x : Float) (xsb : Bool) (hx : Nat) : Float :=
  let p1 := Float.ofBits 0x3FC555555555553E
  let p2 := Float.ofBits 0xBF66C16C16BEBD93
  let p3 := Float.ofBits 0x3F11566AAF25DE2C
  let p4 := Float.ofBits 0xBEBBBD41C5D26BF1
  let p5 := Float.ofBits 0x3E66376972BEA4D0
  let finish (x hi lo : Float) (k : Int) : Float :=
    let t := x * x
    let twopk :=
      if k >= -1021 then ofWords (0x3FF00000 + k * 0x100000) 0
      else ofWords (0x3FF00000 + (k + 1000) * 0x100000) 0
    let c := x - t * (p1 + t * (p2 + t * (p3 + t * (p4 + t * p5))))
    if k == 0 then 1 - ((x * c) / (c - 2.0) - x)
    else
      let y := 1 - ((lo - (x * c) / (2.0 - c)) - hi)
      if k >= -1021 then (if k == 1024 then y * 2.0 * two1023 else y * twopk)
      else y * twopk * twoM1000
  if hx > 0x3FD62E42 then
    if hx < 0x3FF0A2B2 then
      if x == 1 then Float.ofBits 0x4005BF0A8B145769
      else
        let hi := if xsb then x + ln2Hi else x - ln2Hi
        let lo := if xsb then -ln2Lo else ln2Lo
        finish (hi - lo) hi lo (if xsb then -1 else 1)
    else
      let k := truncate (invLn2 * x + (if xsb then -0.5 else 0.5))
      let t := ofInt k
      let hi := x - t * ln2Hi
      let lo := t * ln2Lo
      finish (hi - lo) hi lo k
  else if hx < 0x3E300000 then 1 + x
  else finish x 0 0 0

/-- `Math.exp`. -/
def exp (x : Float) : Float :=
  let xsb := highWord x >= 0x80000000
  let hx := absHigh x
  if hx ≥ 0x40862E42 then
    if hx ≥ 0x7FF00000 then
      if x.isNaN then x + x else if !xsb then x else 0
    else if x > Float.ofBits 0x40862E42FEFA39EF then posInfinity
    else if x < Float.ofBits 0xC0874910D52D3051 then twoM1000 * twoM1000
    else expReduced x xsb hx
  else expReduced x xsb hx

/-- `Math.expm1`: `e^x − 1` without the cancellation near zero. -/
def expm1 (x : Float) : Float :=
  let xsb := highWord x >= 0x80000000
  let hx := absHigh x
  let q1 := Float.ofBits 0xBFA11111111110F4
  let q2 := Float.ofBits 0x3F5A01A019FE5585
  let q3 := Float.ofBits 0xBF14CE199EAADBB7
  let q4 := Float.ofBits 0x3ED0CFCA86E65239
  let q5 := Float.ofBits 0xBE8AFDB76E09C32D
  let body (x c : Float) (k : Int) : Float :=
    let hfx := 0.5 * x
    let hxs := x * hfx
    let r1 := 1 + hxs * (q1 + hxs * (q2 + hxs * (q3 + hxs * (q4 + hxs * q5))))
    let t := 3.0 - r1 * hfx
    let e := hxs * ((r1 - t) / (6.0 - x * t))
    if k == 0 then x - (x * e - hxs)
    else
      let twopk := ofWords (0x3FF00000 + k * 0x100000) 0
      let e := (x * (e - c) - c)
      let e := e - hxs
      if k == -1 then 0.5 * (x - e) - 0.5
      else if k == 1 then
        if x < -0.25 then -2.0 * (e - (x + 0.5)) else 1 + 2.0 * (x - e)
      else if k ≤ -2 || k > 56 then
        let y := 1 - (e - x)
        let y := if k == 1024 then y * 2.0 * two1023 else y * twopk
        y - 1
      else if k < 20 then
        let t := ofWords (0x3FF00000 - (0x200000 / Nat.pow 2 k.toNat : Nat)) 0
        let y := t - (e - x)
        y * twopk
      else
        let t := ofWords ((0x3FF - k) * 0x100000) 0
        let y := x - (e + t)
        let y := y + 1
        y * twopk
  let reduce (x : Float) : Float :=
    if hx > 0x3FD62E42 then
      let (hi, lo, k) : Float × Float × Int :=
        if hx < 0x3FF0A2B2 then
          if !xsb then (x - ln2Hi, ln2Lo, 1) else (x + ln2Hi, -ln2Lo, -1)
        else
          let k := truncate (invLn2 * x + (if !xsb then 0.5 else -0.5))
          let t := ofInt k
          (x - t * ln2Hi, t * ln2Lo, k)
      let x' := hi - lo
      body x' ((hi - x') - lo) k
    else if hx < 0x3C900000 then x
    else body x 0 0
  if hx ≥ 0x4043687A then
    if hx ≥ 0x40862E42 && hx ≥ 0x7FF00000 then
      if x.isNaN then x + x else if !xsb then x else -1
    else if hx >= 0x40862E42 && x > Float.ofBits 0x40862E42FEFA39EF then posInfinity
    else if xsb then -1
    else reduce x
  else reduce x

/-! ## Logarithms -/

/-- The coefficients of the logarithm's series in `s = f/(2+f)`. -/
def logCoefficients : Array Float := #[
  Float.ofBits 0x3FE5555555555593, Float.ofBits 0x3FD999999997FA04,
  Float.ofBits 0x3FD2492494229359, Float.ofBits 0x3FCC71C51D8E78AF,
  Float.ofBits 0x3FC7466496CB03DE, Float.ofBits 0x3FC39A09D078C69F,
  Float.ofBits 0x3FC2F112DF3E5244]

/-- `log x` for a positive normal `x` whose exponent was lowered by `-k0` (from scaling a
subnormal up), or `x + x` for infinity and NaN. -/
def logNormal (x : Float) (k0 : Int) : Float :=
  let hx := highWord x
  if hx >= 0x7FF00000 then x + x
  else
    let lg := entry logCoefficients
    let k := k0 + ((hx >>> 20 : Nat) : Int) - 1023
    let hx := hx &&& 0x000FFFFF
    let i := (hx + 0x95F64) &&& 0x100000
    let x := setHigh x (hx ||| (i ^^^ 0x3FF00000))
    let k := k + (i >>> 20 : Nat)
    let f := x - 1.0
    let dk := ofInt k
    if (0x000FFFFF &&& (2 + hx)) < 3 then
      if f == 0 then (if k == 0 then 0 else dk * ln2Hi + dk * ln2Lo)
      else
        let r := f * f * (0.5 - Float.ofBits 0x3FD5555555555555 * f)
        if k == 0 then f - r else dk * ln2Hi - ((r - dk * ln2Lo) - f)
    else
      let s := f / (2.0 + f)
      let z := s * s
      let w := z * z
      let t1 := w * (lg 1 + w * (lg 3 + w * lg 5))
      let t2 := z * (lg 0 + w * (lg 2 + w * (lg 4 + w * lg 6)))
      let r := t2 + t1
      if hx ≥ 0x6147A && hx ≤ 0x6B851 then
        let hfsq := 0.5 * f * f
        if k == 0 then f - (hfsq - s * (hfsq + r))
        else dk * ln2Hi - ((hfsq - (s * (hfsq + r) + dk * ln2Lo)) - f)
      else if k == 0 then f - s * (f - r)
      else dk * ln2Hi - ((s * (f - r) - dk * ln2Lo) - f)

/-- `Math.log`. -/
def log (x : Float) : Float :=
  let hx := signedHigh x
  if hx < 0x00100000 then
    if absHigh x == 0 && lowWord x == 0 then -posInfinity
    else if hx < 0 then notANumber
    else logNormal (x * two54) (-54)
  else logNormal x 0

/-- `log(1 + f) − f + f²/2` for `f` in the reduced range, without the leading terms. -/
def log1pTail (f : Float) : Float :=
  let lg := entry logCoefficients
  let s := f / (2.0 + f)
  let z := s * s
  let w := z * z
  let t1 := w * (lg 1 + w * (lg 3 + w * lg 5))
  let t2 := z * (lg 0 + w * (lg 2 + w * (lg 4 + w * lg 6)))
  let r := t2 + t1
  let hfsq := 0.5 * f * f
  s * (hfsq + r)

/-- The exponent `k` and the fraction `x·2^(−k)` in `[√2/2, √2)` of a positive normal double,
whose exponent was lowered by `-k0`. -/
def splitNormal (x : Float) (k0 : Int) : Int × Float :=
  let hx := highWord x
  let k := k0 + ((hx >>> 20 : Nat) : Int) - 1023
  let hx := hx &&& 0x000FFFFF
  let i := (hx + 0x95F64) &&& 0x100000
  (k + (i >>> 20 : Nat), setHigh x (hx ||| (i ^^^ 0x3FF00000)))

/-- `log₂ x` for a positive normal `x`. -/
def log2Normal (x : Float) (k0 : Int) : Float :=
  let hx := highWord x
  if hx >= 0x7FF00000 then x + x
  else if hx == 0x3FF00000 && lowWord x == 0 then 0
  else
    let ivln2hi := Float.ofBits 0x3FF7154765200000
    let ivln2lo := Float.ofBits 0x3DE705FC2EEFA200
    let (k, x) := splitNormal x k0
    let y := ofInt k
    let f := x - 1.0
    let hfsq := 0.5 * f * f
    let r := log1pTail f
    let hi := setLow (f - hfsq) 0
    let lo := (f - hi) - hfsq + r
    let valHi := hi * ivln2hi
    let valLo := (lo + hi) * ivln2lo + lo * ivln2hi
    let w := y + valHi
    let valLo := valLo + ((y - w) + valHi)
    valLo + w

/-- `Math.log2`. -/
def log2 (x : Float) : Float :=
  let hx := signedHigh x
  if hx < 0x00100000 then
    if absHigh x == 0 && lowWord x == 0 then -posInfinity
    else if hx < 0 then notANumber
    else log2Normal (x * two54) (-54)
  else log2Normal x 0

/-- `log₁₀ x` for a positive normal `x`: `k·log₁₀ 2 + log₁₀ m` with `x = 2^k·m`. -/
def log10Normal (x : Float) (k0 : Int) : Float :=
  let hx := highWord x
  if hx >= 0x7FF00000 then x + x
  else if hx == 0x3FF00000 && lowWord x == 0 then 0
  else
    let ivln10 := Float.ofBits 0x3FDBCB7B1526E50E
    let log10of2Hi := Float.ofBits 0x3FD34413509F6000
    let log10of2Lo := Float.ofBits 0x3D59FEF311F12B36
    let k := k0 + ((hx >>> 20 : Nat) : Int) - 1023
    let i : Nat := if k < 0 then 1 else 0
    let hx := (hx &&& 0x000FFFFF) ||| ((0x3FF - i) <<< 20)
    let y := ofInt (k + i)
    let x := setHigh x hx
    let z := y * log10of2Lo + ivln10 * log x
    z + y * log10of2Hi

/-- `Math.log10`. -/
def log10 (x : Float) : Float :=
  let hx := signedHigh x
  if hx < 0x00100000 then
    if absHigh x == 0 && lowWord x == 0 then -posInfinity
    else if hx < 0 then notANumber
    else log10Normal (x * two54) (-54)
  else log10Normal x 0

/-- `Math.log1p`: `log(1 + x)` without the loss of digits near zero. -/
def log1p (x : Float) : Float :=
  let hx := signedHigh x
  let ax := absHigh x
  let lg := entry logCoefficients
  let finish (f c : Float) (k : Int) (hu : Nat) : Float :=
    let dk := ofInt k
    let hfsq := 0.5 * f * f
    if hu == 0 then
      if f == 0 then (if k == 0 then 0 else dk * ln2Hi + (c + dk * ln2Lo))
      else
        let r := hfsq * (1.0 - Float.ofBits 0x3FE5555555555555 * f)
        if k == 0 then f - r else dk * ln2Hi - ((r - (dk * ln2Lo + c)) - f)
    else
      let s := f / (2.0 + f)
      let z := s * s
      let r := z * (lg 0 + z * (lg 1 + z * (lg 2 + z * (lg 3 + z * (lg 4 + z * (lg 5 +
        z * lg 6))))))
      if k == 0 then f - (hfsq - s * (hfsq + r))
      else dk * ln2Hi - ((hfsq - (s * (hfsq + r) + (dk * ln2Lo + c))) - f)
  if hx < 0x3FDA827A && ax ≥ 0x3FF00000 then
    if x == -1.0 then -posInfinity else (x - x) / (x - x)
  else if hx < 0x3FDA827A && ax < 0x3E200000 then
    if ax < 0x3C900000 then x else x - x * x * 0.5
  else if hx < 0x3FDA827A && (hx > 0 || hx ≤ (0xBFD2BEC4 : Int) - 0x100000000) then
    finish x 0 0 1
  else if hx >= 0x7FF00000 then x + x
  else
    let (u, c) :=
      if hx < 0x43400000 then
        let u := 1.0 + x
        let k := ((highWord u >>> 20 : Nat) : Int) - 1023
        let c := if k > 0 then 1.0 - (u - x) else x - (u - 1.0)
        (u, c / u)
      else (x, 0)
    let k := ((highWord u >>> 20 : Nat) : Int) - 1023
    let hu := highWord u &&& 0x000FFFFF
    if hu < 0x6A09E then
      finish (setHigh u ((hu ||| 0x3FF00000 : Nat) : Int) - 1.0) c k hu
    else
      finish (setHigh u ((hu ||| 0x3FE00000 : Nat) : Int) - 1.0) c (k + 1) ((0x00100000 - hu) / 4)

/-! ## Hyperbolic functions -/

/-- `Math.sinh`. -/
def sinh (x : Float) : Float :=
  let h : Float := if x < 0 then -0.5 else 0.5
  let ax := x.abs
  if ax < 22 then
    if ax < Float.ofBits 0x3E30000000000000 then x
    else
      let t := expm1 ax
      if ax < 1 then h * (2.0 * t - t * t / (t + 1.0)) else h * (t + t / (t + 1.0))
  else if ax < Float.ofBits 0x40862E4200000000 then h * exp ax
  else if ax ≤ Float.ofBits 0x408633CE8FB9F87D then
    let w := exp (0.5 * ax)
    let t := h * w
    t * w
  else x * Float.ofBits 0x7FAC7B1F3CAC7433

/-- `Math.cosh`. -/
def cosh (x : Float) : Float :=
  let ix := absHigh x
  if ix < 0x3FD62E43 then
    let t := expm1 x.abs
    let w := 1 + t
    if ix < 0x3C800000 then w else 1 + (t * t) / (w + w)
  else if ix < 0x40360000 then
    let t := exp x.abs
    0.5 * t + 0.5 / t
  else if ix < 0x40862E42 then 0.5 * exp x.abs
  else if x.abs ≤ Float.ofBits 0x408633CE8FB9F87D then
    let w := exp (0.5 * x.abs)
    let t := 0.5 * w
    t * w
  else if ix >= 0x7FF00000 then x * x
  else posInfinity

/-- `Math.tanh`. -/
def tanh (x : Float) : Float :=
  let jx := signedHigh x
  let ix := absHigh x
  if ix ≥ 0x7FF00000 then
    if jx >= 0 then 1 / x + 1 else 1 / x - 1
  else
    let z :=
      if ix < 0x40360000 then
        if ix < 0x3E300000 then none
        else if ix ≥ 0x3FF00000 then
          let t := expm1 (2 * x.abs)
          some (1 - 2 / (t + 2))
        else
          let t := expm1 (-2 * x.abs)
          some (-t / (t + 2))
      else some 1
    match z with
    | none => x
    | some z => if jx >= 0 then z else -z

/-- `Math.asinh`. -/
def asinh (x : Float) : Float :=
  let hx := signedHigh x
  let ix := absHigh x
  if ix >= 0x7FF00000 then x + x
  else if ix < 0x3E300000 then x
  else
    let w :=
      if ix > 0x41B00000 then log x.abs + ln2
      else if ix > 0x40000000 then
        let t := x.abs
        log (2.0 * t + 1 / ((x * x + 1).sqrt + t))
      else
        let t := x * x
        log1p (x.abs + t / (1 + (1 + t).sqrt))
    if hx > 0 then w else -w

/-- `Math.acosh`. -/
def acosh (x : Float) : Float :=
  let hx := signedHigh x
  if hx < 0x3FF00000 then (x - x) / (x - x)
  else if hx ≥ 0x41B00000 then
    if hx >= 0x7FF00000 then x + x else log x + ln2
  else if hx == 0x3FF00000 && lowWord x == 0 then 0
  else if hx > 0x40000000 then
    let t := x * x
    log (2.0 * x - 1 / (x + (t - 1).sqrt))
  else
    let t := x - 1
    log1p (t + (2.0 * t + t * t).sqrt)

/-- `Math.atanh`. -/
def atanh (x : Float) : Float :=
  let hx := signedHigh x
  let ix := absHigh x
  if x.isNaN || ix > 0x3FF00000 || (ix == 0x3FF00000 && lowWord x != 0) then
    (x - x) / (x - x)
  else if ix == 0x3FF00000 then (if x > 0 then posInfinity else -posInfinity)
  else if ix < 0x3E300000 then x
  else
    let x := setHigh x ix
    let t :=
      if ix < 0x3FE00000 then
        let t := x + x
        0.5 * log1p (t + t * x / (1 - x))
      else 0.5 * log1p ((x + x) / (1 - x))
    if hx >= 0 then t else -t

/-! ## Cube root -/

/-- `Math.cbrt`: a first guess from the exponent, a polynomial step to 23 bits, rounding away
from zero to 23 bits, then one Newton step. -/
def cbrt (x : Float) : Float :=
  let hx0 := highWord x
  let sign := hx0 &&& 0x80000000
  let hx := hx0 ^^^ sign
  if hx >= 0x7FF00000 then x + x
  else if hx < 0x00100000 && hx == 0 && lowWord x == 0 then x
  else
    let p0 := Float.ofBits 0x3FFE03E60F61E692
    let p1 := Float.ofBits 0xBFFE28E092F02420
    let p2 := Float.ofBits 0x3FF9F1604A49D6C2
    let p3 := Float.ofBits 0xBFE844CBBEE751D9
    let p4 := Float.ofBits 0x3FC2B000D4E4EDD7
    let t :=
      if hx < 0x00100000 then
        let t := two54 * x
        ofWords ((sign ||| ((highWord t &&& 0x7FFFFFFF) / 3 + 696219795) : Nat)) 0
      else ofWords ((sign ||| (hx / 3 + 715094163) : Nat)) 0
    let r := (t * t) * (t / x)
    let t := t * ((p0 + r * (p1 + r * p2)) + ((r * r) * r) * (p3 + r * p4))
    let t := Float.ofBits ((t.toBits + 0x80000000) &&& 0xFFFFFFFFC0000000)
    let s := t * t
    let r := x / s
    let w := t + t
    let r := (r - t) / (w + r)
    t + t * r

/-! ## Hypotenuse -/

/-- `Math.hypot`: infinity if any number is, else NaN if any is; otherwise the squares, scaled by
the largest magnitude, summed with compensation. -/
def hypot (xs : List Float) : Float :=
  let mags := xs.map fun x => if x.isNaN then 0 else x.abs
  let top := mags.foldl (fun m a => if a > m then a else m) 0
  if top.isInf then posInfinity
  else if xs.any Float.isNaN then notANumber
  else if top == 0 then 0
  else
    let (sum, _) := mags.foldl (fun (acc : Float × Float) a =>
      let (sum, comp) := acc
      let n := a / top
      let summand := n * n - comp
      let pre := sum + summand
      (pre, (pre - sum) - summand)) (0, 0)
    sum.sqrt * top

end TranscriptTest.Js.Elementary
