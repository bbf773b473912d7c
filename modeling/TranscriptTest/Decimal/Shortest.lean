/-!
# Shortest decimal digits of a double

A finite double is `m · 2^e` with `m < 2^53`. The reals that read back as it form an interval
around it: halfway to each neighbour, ends included when `m` is even (ties read back to the even
mantissa). The shortest decimal is found by trying 1, 2, … 17 significant digits: at each length
the two decimals nearest the value are its floor and ceiling on that grid, and the first length
where one of them lies in the interval wins. Of two that do, the nearer wins; an exact tie goes
to the even digit string. Everything is exact `Nat` arithmetic.
-/

namespace TranscriptTest

/-- A decimal `digits · 10^exponent`; `digits` has no trailing zeros unless it is zero. -/
structure Decimal where
  digits : Nat
  exponent : Int
  deriving Inhabited, BEq

namespace Decimal

/-- A double split into sign, mantissa and binary exponent: `(-1)^sign · m · 2^e`. -/
structure Binary where
  negative : Bool
  mantissa : Nat
  exponent : Int
  /-- The mantissa is a power of two above the smallest normal, so the neighbour below is
  half as far away as the one above. -/
  narrowBelow : Bool
  deriving Inhabited

/-- Reads the bits of a finite double. -/
def Binary.ofFloat (f : Float) : Binary :=
  let bits := f.toBits.toNat
  let negative := bits / Nat.pow 2 63 == 1
  let biased := (bits / Nat.pow 2 52) % 2048
  let fraction := bits % Nat.pow 2 52
  if biased == 0 then ⟨negative, fraction, -1074, false⟩
  else ⟨negative, fraction + Nat.pow 2 52, Int.ofNat biased - 1075, fraction == 0 && biased > 1⟩

/-- `floor (m · 2^e · 10^t)`. -/
def floorScaled (m : Nat) (e t : Int) : Nat :=
  m * Nat.pow 2 e.toNat * Nat.pow 10 t.toNat / (Nat.pow 2 (-e).toNat * Nat.pow 10 (-t).toNat)

/-- Compares `c · 10^t` with `m · 2^e`. -/
def compareScaled (c : Nat) (t : Int) (m : Nat) (e : Int) : Ordering :=
  compare (c * Nat.pow 10 t.toNat * Nat.pow 2 (-e).toNat) (m * Nat.pow 2 e.toNat * Nat.pow 10 (-t).toNat)

/-- Number of decimal digits of a positive number. -/
def digitCount (n : Nat) : Nat :=
  (toString n).length

/-- `floor (log10 (m · 2^e))` for `m > 0`. -/
def decimalMagnitude (m : Nat) (e : Int) : Int :=
  let whole := floorScaled m e 0
  if whole > 0 then (digitCount whole : Int) - 1
  else
    -- the value is below one: find the first power of ten that lifts it to one or more
    let rec search : Nat -> Nat -> Int
      | 0, j => -(j : Int)
      | fuel + 1, j => if floorScaled m e j > 0 then -(j : Int) else search fuel (j + 1)
    search 400 1

/-- Removes trailing zeros, raising the exponent. -/
def normalize : Nat -> Int -> Nat -> Decimal
  | 0, x, _ => ⟨0, x⟩
  | d, x, 0 => ⟨d, x⟩
  | d, x, fuel + 1 => if d % 10 == 0 then normalize (d / 10) (x + 1) fuel else ⟨d, x⟩

/-- The shortest decimal that reads back as the positive double `m · 2^e`. -/
def shortestOf (b : Binary) : Decimal :=
  let m := b.mantissa
  let e := b.exponent
  if m == 0 then ⟨0, 0⟩
  else
    -- the interval in quarter units of the last place: (lo, hi) · 2^(e-2)
    let lo := if b.narrowBelow then 4 * m - 1 else 4 * m - 2
    let hi := 4 * m + 2
    let closed := m % 2 == 0
    let inside (c : Nat) (t : Int) : Bool :=
      let cl := compareScaled c t lo (e - 2)
      let ch := compareScaled c t hi (e - 2)
      (cl == .gt || (closed && cl == .eq)) && (ch == .lt || (closed && ch == .eq))
    let mag := decimalMagnitude m e
    let rec tryLength : Nat -> Nat -> Decimal
      | 0, _ => ⟨m, 0⟩
      | fuel + 1, p =>
        let t : Int := (p : Int) - 1 - mag
        let down := floorScaled m e t
        let up := down + 1
        match inside down (-t), inside up (-t) with
        | true, true =>
          -- the nearer of the two; the midpoint compared with the value
          match compareScaled (2 * down + 1) (-t) (8 * m) (e - 2) with
          | .lt => normalize up (-t) 400
          | .gt => normalize down (-t) 400
          | .eq => if down % 2 == 0 then normalize down (-t) 400 else normalize up (-t) 400
        | true, false => normalize down (-t) 400
        | false, true => normalize up (-t) 400
        | false, false => tryLength fuel (p + 1)
    tryLength 17 1

/-- The shortest decimal of a finite double's magnitude. -/
def ofFloat (f : Float) : Decimal :=
  shortestOf (Binary.ofFloat f)

/-- The digits of a decimal as characters. -/
def digitChars (d : Decimal) : List Char :=
  (toString d.digits).toList

end Decimal

end TranscriptTest
