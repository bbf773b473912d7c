/-!
# Script text as UTF-16 units

A script string is a sequence of UTF-16 units, while text here is a sequence of code points,
which cannot hold a surrogate on its own. A surrogate without its partner is therefore kept as a
stand-in character: unit `u` from U+D800 to U+DFFF is the code point `0x10F800 + (u - 0xD800)`,
one of the last 2048 code points, which scripts otherwise never meet. The stand-ins keep the
order of the units they stand for, so a range of surrogates is a range of stand-ins.
-/

namespace TranscriptTest.Js

/-- The first stand-in: the one for U+D800. -/
def standInBase : Nat := 0x10F800

/-- Whether a unit is a high (leading) surrogate. -/
def isHighSurrogate (u : Nat) : Bool := 0xD800 <= u && u < 0xDC00

/-- Whether a unit is a low (trailing) surrogate. -/
def isLowSurrogate (u : Nat) : Bool := 0xDC00 <= u && u < 0xE000

/-- The code point a surrogate pair encodes. -/
def pairCodePoint (hi lo : Nat) : Nat := 0x10000 + (hi - 0xD800) * 0x400 + (lo - 0xDC00)

/-- The character of a unit or code point: a surrogate becomes its stand-in, and a value beyond
the last code point the replacement character. -/
def unitChar (n : Nat) : Char :=
  if 0xD800 <= n && n < 0xE000 then Char.ofNat (standInBase + (n - 0xD800))
  else if n < 0x110000 then Char.ofNat n
  else '�'

/-- The surrogate a stand-in keeps; `none` for any other character. -/
def standIn? (c : Char) : Option Nat :=
  if c.toNat >= standInBase then some (c.toNat - standInBase + 0xD800) else none

/-- The UTF-16 units of one character. -/
def charUnits (c : Char) : List Nat :=
  match standIn? c with
  | some u => [u]
  | none =>
    let n := c.toNat
    if n < 0x10000 then [n]
    else [0xD800 + (n - 0x10000) / 0x400, 0xDC00 + (n - 0x10000) % 0x400]

/-- The number of UTF-16 units of one character. -/
def charWidth (c : Char) : Nat :=
  if c.toNat < 0x10000 || c.toNat >= standInBase then 1 else 2

/-- The UTF-16 units of a text. -/
def unitList (s : String) : List Nat :=
  s.toList.flatMap charUnits

/-- The characters of UTF-16 units: a high surrogate followed by a low one is one character,
any other surrogate a stand-in. -/
def decodeUnits : List Nat -> List Char
  | [] => []
  | u :: tail@(w :: rest) =>
    if isHighSurrogate u && isLowSurrogate w then Char.ofNat (pairCodePoint u w) :: decodeUnits rest
    else unitChar u :: decodeUnits tail
  | [u] => [unitChar u]

/-- Characters with each stand-in high surrogate that is followed by a stand-in low surrogate
joined with it into the character of the pair. -/
def joinHalves : List Char -> List Char
  | a :: b :: more =>
    match standIn? a, standIn? b with
    | some hi, some lo =>
      if isHighSurrogate hi && isLowSurrogate lo then
        Char.ofNat (pairCodePoint hi lo) :: joinHalves more
      else a :: joinHalves (b :: more)
    | _, _ => a :: joinHalves (b :: more)
  | cs => cs

/-- Two texts one after the other, as a script joins strings: a high surrogate at the end of the
first and a low one at the start of the second become one character. -/
def joinText (a b : String) : String :=
  if a.isEmpty || b.isEmpty then a ++ b
  else
    match standIn? a.back, standIn? b.front with
    | some hi, some lo =>
      if isHighSurrogate hi && isLowSurrogate lo then
        String.ofList (a.toList.dropLast ++ Char.ofNat (pairCodePoint hi lo) :: b.toList.drop 1)
      else a ++ b
    | _, _ => a ++ b

/-- A text put together from pieces, with the halves of pairs that met at the seams joined. -/
def settle (s : String) : String :=
  if s.toList.any fun c => (standIn? c).isSome then String.ofList (joinHalves s.toList) else s

end TranscriptTest.Js
