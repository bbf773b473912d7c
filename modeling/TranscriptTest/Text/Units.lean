/-!
# UTF-16 units and the 31-polynomial hash

A character above U+FFFF is two UTF-16 units (a surrogate pair). The hash of a text is the
polynomial with base 31 over its UTF-16 units, taken modulo 2^32.
-/

namespace TranscriptTest.Text

/-- The UTF-16 units of one character. -/
def utf16Units (c : Char) : List Nat :=
  let n := c.toNat
  if n < 0x10000 then [n]
  else
    let m := n - 0x10000
    [0xD800 + m / 0x400, 0xDC00 + m % 0x400]

/-- The UTF-16 units of a text. -/
def units16 (s : String) : List Nat :=
  s.toList.flatMap utf16Units

/-- `h * 31 + u` for each unit in turn, modulo 2^32. -/
def hash31 (s : String) : UInt32 :=
  (units16 s).foldl (fun h u => h * 31 + u.toUInt32) 0

/-- Lower-case hexadecimal digits of a number, at least `width` of them (zeros in front). -/
def hexPadded (width : Nat) (n : Nat) : String :=
  let digits := Nat.toDigits 16 n
  String.ofList (List.replicate (width - digits.length) '0' ++ digits)

end TranscriptTest.Text
