import TranscriptTest.Python.Value

/-!
# Formatting numbers and text

The format specification mini-language of `format`, `str.format` and formatted string literals
(`[[fill]align][sign][#][0][width][,|_][.precision][type]`), and the number conversions that
`%`-formatting shares with it.
-/

namespace TranscriptTest.Python

open TranscriptTest.Decimal

/-- A parsed format specification. -/
structure FormatSpec where
  fill : Char := ' '
  /-- `<`, `>`, `^` or `=`, if given. -/
  align : Option Char := none
  /-- `+`, `-` or ` `. -/
  sign : Char := '-'
  alternate : Bool := false
  zero : Bool := false
  width : Nat := 0
  /-- `,` or `_`, if given. -/
  grouping : Option Char := none
  precision : Option Nat := none
  /-- The presentation type, if given. -/
  kind : Option Char := none
  deriving Inhabited

/-- Reads a format specification, or nothing if it is not one. -/
def parseSpec (s : String) : Option FormatSpec := do
  let cs := s.toList
  let isAlign (c : Char) := c == '<' || c == '>' || c == '^' || c == '='
  let (fill, align, cs) := match cs with
    | f :: a :: rest => if isAlign a then (f, some a, rest)
      else if isAlign f then (' ', some f, a :: rest) else (' ', none, cs)
    | [a] => if isAlign a then (' ', some a, []) else (' ', none, cs)
    | [] => (' ', none, [])
  let (sign, cs) := match cs with
    | c :: rest => if c == '+' || c == '-' || c == ' ' then (c, rest) else ('-', cs)
    | [] => ('-', [])
  let cs := match cs with
    | 'z' :: rest => rest
    | _ => cs
  let (alternate, cs) := match cs with
    | '#' :: rest => (true, rest)
    | _ => (false, cs)
  let (zero, cs) := match cs with
    | '0' :: rest => (true, rest)
    | _ => (false, cs)
  let widthDigits := cs.takeWhile Char.isDigit
  let cs := cs.drop widthDigits.length
  let width := (String.ofList widthDigits).toNat?.getD 0
  let (grouping, cs) := match cs with
    | ',' :: rest => (some ',', rest)
    | '_' :: rest => (some '_', rest)
    | _ => (none, cs)
  let (precision, cs) <- match cs with
    | '.' :: rest =>
      let ds := rest.takeWhile Char.isDigit
      if ds.isEmpty then none else some (some ((String.ofList ds).toNat!), rest.drop ds.length)
    | _ => some (none, cs)
  let (kind, cs) := match cs with
    | c :: rest => (some c, rest)
    | [] => (none, [])
  if !cs.isEmpty then none
  pure { fill, align, sign, alternate, zero, width, grouping, precision, kind }

/-- Pads text to a width: on the right for `<`, the left for `>`, both sides for `^` (the extra
one on the right), and between the sign and the digits for `=`. -/
def pad (spec : FormatSpec) (defaultAlign : Char) (signPart body : String) : String :=
  let zeroPadded := spec.zero && spec.align.isNone
  let fill := if zeroPadded then '0' else spec.fill
  let align := if zeroPadded then '=' else spec.align.getD defaultAlign
  let len := signPart.length + body.length
  if len >= spec.width then signPart ++ body
  else
    let n := spec.width - len
    let fills (k : Nat) := String.ofList (List.replicate k fill)
    match align with
    | '<' => signPart ++ body ++ fills n
    | '^' => fills (n / 2) ++ signPart ++ body ++ fills (n - n / 2)
    | '=' => signPart ++ fills n ++ body
    | _ => fills n ++ signPart ++ body

/-- Inserts a separator into digits every `size` places from the right. -/
def groupEvery (sep : Char) (size : Nat) (digits : String) : String :=
  let cs := digits.toList.reverse
  let rec go : Nat -> List Char -> List Char -> List Char
    | _, acc, [] => acc
    | k, acc, c :: rest =>
      if k > 0 && k % size == 0 then go (k + 1) (c :: sep :: acc) rest else go (k + 1) (c :: acc) rest
  String.ofList (go 0 [] cs)

/-- Groups the integer part of a number written with digits, a point and more. -/
def groupNumber (sep : Option Char) (text : String) : String :=
  match sep with
  | none => text
  | some c =>
    let whole := text.toList.takeWhile Char.isDigit
    groupEvery c 3 (String.ofList whole) ++ String.ofList (text.toList.drop whole.length)

/-! ## Exact rounding of doubles -/

/-- `m · 2^e · 10^p` rounded to an integer, halves to even. -/
def roundScaled (m : Nat) (e : Int) (p : Int) : Nat :=
  let num := m * Nat.pow 2 e.toNat * Nat.pow 10 p.toNat
  let den := Nat.pow 2 (-e).toNat * Nat.pow 10 (-p).toNat
  let q := num / den
  let r := num % den
  if 2 * r > den || (2 * r == den && q % 2 == 1) then q + 1 else q

/-- The magnitude of a finite double as an exact `m · 2^e`. -/
def exactParts (x : Float) : Nat × Int :=
  let b := Binary.ofFloat x
  (b.mantissa, b.exponent)

/-- Digits of a non-negative double rounded to `places` after the point, as text. -/
def fixedDigits (x : Float) (places : Nat) : String :=
  let (m, e) := exactParts x
  let n := roundScaled m e places
  let text := toString n
  let text := if text.length ≤ places then
      String.ofList (List.replicate (places + 1 - text.length) '0') ++ text else text
  if places == 0 then text
  else (text.take (text.length - places)).toString ++ "." ++ (text.drop (text.length - places)).toString

/-- The decimal exponent of a positive double: the `k` with `10^k ≤ x < 10^(k+1)`. -/
def decimalExponent (x : Float) : Int :=
  let (m, e) := exactParts x
  let d := Decimal.ofFloat x
  let guess : Int := (toString d.digits).length - 1 + d.exponent
  -- the guess from the shortest digits is off by at most one
  if compareScaled 1 guess m e == .gt then guess - 1
  else if compareScaled 1 (guess + 1) m e != .gt then guess + 1
  else guess

/-- The digits of a positive double rounded to `precision + 1` significant digits, with its
decimal exponent after rounding. -/
def scientificDigits (x : Float) (precision : Nat) : String × Int :=
  let (m, e) := exactParts x
  let k := decimalExponent x
  let n := roundScaled m e ((precision : Int) - k)
  if (toString n).length > precision + 1 then (toString (n / 10), k + 1) else (toString n, k)

/-- Scientific notation of a non-negative double with `precision` digits after the point. -/
def scientificText (x : Float) (precision : Nat) (upper alternate : Bool) : String :=
  let (digits, k) := if x == 0 then (String.ofList (List.replicate (precision + 1) '0'), 0)
    else scientificDigits x precision
  let mantissa := if precision == 0 then digits ++ (if alternate then "." else "")
    else (digits.take 1).toString ++ "." ++ (digits.drop 1).toString
  let expText := toString k.natAbs
  let expText := if expText.length < 2 then "0" ++ expText else expText
  mantissa ++ (if upper then "E" else "e") ++ (if k < 0 then "-" else "+") ++ expText

/-- Drops trailing zeros after a point, and the point if nothing is left after it. -/
def stripFraction (text : String) : String :=
  if !text.contains '.' then text
  else
    let cs := text.toList.reverse.dropWhile (· == '0')
    let cs := match cs with
      | '.' :: rest => rest
      | _ => cs
    String.ofList cs.reverse

/-- General notation with `precision` significant digits: scientific when the exponent is below
-4 or reaches the precision, else fixed; trailing zeros go unless `alternate`. -/
def generalText (x : Float) (precision : Nat) (upper alternate : Bool) : String :=
  let p := if precision == 0 then 1 else precision
  let k : Int := if x == 0 then 0 else (scientificDigits x (p - 1)).2
  if k < -4 || k ≥ p then
    let text := scientificText x (p - 1) upper alternate
    if alternate then text
    else
      let (mantissa, rest) := (text.toList.takeWhile (fun c => c != 'e' && c != 'E'),
        text.toList.dropWhile (fun c => c != 'e' && c != 'E'))
      stripFraction (String.ofList mantissa) ++ String.ofList rest
  else
    let text := fixedDigits x ((p : Int) - 1 - k).toNat
    if alternate then (if text.contains '.' then text else text ++ ".") else stripFraction text

/-- The upper case of ASCII letters in a text, for `F`, `E`, `G` and `X`. -/
def asciiUpper (s : String) : String :=
  String.ofList (s.toList.map Char.toUpper)

/-- The sign a number is written with under a specification. -/
def signText (spec : FormatSpec) (negative : Bool) : String :=
  if negative then "-" else if spec.sign == '+' then "+" else if spec.sign == ' ' then " " else ""

/-- Formats a float under a specification whose type is a float type (or none). -/
def formatFloat (spec : FormatSpec) (x : Float) : String :=
  let negative := x < 0 || (x == 0 && 1 / x < 0)
  let a := if x < 0 then -x else if x == 0 then 0 else x
  let kind := spec.kind.getD ' '
  let upper := kind == 'F' || kind == 'E' || kind == 'G'
  let body :=
    if x.isNaN then (if upper then "NAN" else "nan")
    else if x.isInf then (if upper then "INF" else "inf")
    else match kind with
      | 'f' | 'F' =>
        let t := fixedDigits a (spec.precision.getD 6)
        if spec.alternate && !t.contains '.' then t ++ "." else t
      | 'e' | 'E' => scientificText a (spec.precision.getD 6) upper spec.alternate
      | 'g' | 'G' | 'n' => generalText a (spec.precision.getD 6) upper spec.alternate
      | '%' =>
        let t := fixedDigits (a * 100) (spec.precision.getD 6)
        (if spec.alternate && !t.contains '.' then t ++ "." else t) ++ "%"
      | _ =>
        match spec.precision with
        | none =>
          let r := floatRepr a
          r
        | some p =>
          let t := generalText a p false spec.alternate
          if t.contains '.' || t.contains 'e' then t else t ++ ".0"
  let body := if x.isNaN || x.isInf then body else groupNumber spec.grouping body
  pad spec '>' (signText spec (negative && !x.isNaN)) body

/-- Formats an integer under a specification: decimal, hexadecimal, octal, binary or a
character, or as a float for the float types. -/
def formatInt (spec : FormatSpec) (n : Int) : Except String String :=
  let kind := spec.kind.getD 'd'
  if ['e', 'E', 'f', 'F', 'g', 'G', '%'].contains kind then
    .ok (formatFloat spec (intToFloat n))
  else
    let a := n.natAbs
    let (digits, prefixText, groupSize) := match kind with
      | 'x' => (String.ofList (Nat.toDigits 16 a), "0x", 4)
      | 'X' => (asciiUpper (String.ofList (Nat.toDigits 16 a)), "0X", 4)
      | 'o' => (String.ofList (Nat.toDigits 8 a), "0o", 4)
      | 'b' => (String.ofList (Nat.toDigits 2 a), "0b", 4)
      | _ => (toString a, "", 3)
    if kind == 'c' then
      .ok (pad spec '>' "" (Char.ofNat a).toString)
    else if !(['d', 'n', 'x', 'X', 'o', 'b'].contains kind) then
      .error ("Unknown format code '" ++ kind.toString ++ "' for object of type 'int'")
    else
      let digits := match spec.grouping with
        | some c => groupEvery c groupSize digits
        | none => digits
      let signPart := signText spec (n < 0) ++ (if spec.alternate then prefixText else "")
      .ok (pad spec '>' signPart digits)

/-- Formats text under a specification: cut to the precision, aligned left by default. -/
def formatText (spec : FormatSpec) (s : String) : Except String String :=
  match spec.kind with
  | none | some 's' =>
    let s := match spec.precision with
      | some p => String.ofList (s.toList.take p)
      | none => s
    if spec.align == some '=' then .error "'=' alignment not allowed in string format specifier"
    else .ok (pad { spec with zero := false, fill := if spec.zero && spec.align.isNone then '0' else spec.fill,
                              align := spec.align.orElse fun _ => if spec.zero then some '<' else none } '<' "" s)
  | some k => .error ("Unknown format code '" ++ k.toString ++ "' for object of type 'str'")

end TranscriptTest.Python
