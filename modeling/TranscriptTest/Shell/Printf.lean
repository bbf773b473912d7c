import TranscriptTest.Text.Bytes
import TranscriptTest.Decimal.Format

/-!
# Formatted output of the shell

`printf` and `echo` write as the Debian shell does: escapes in `echo` arguments and `%b`, octal
escapes without a leading zero in formats, numbers read as the C library reads them. A format is
applied again while arguments remain; missing arguments are empty or zero.
-/

namespace TranscriptTest.Shell

open TranscriptTest.Text TranscriptTest.Decimal

/-- Whether a character is an octal digit. -/
def isOctal (c : Char) : Bool := '0' <= c && c <= '7'

/-- The escape after a backslash in a `printf` format: the character it stands for and what
follows. -/
def formatEscape (cs : List Char) : Char × List Char :=
  match cs with
  | '\\' :: rest => ('\\', rest)
  | 'a' :: rest => ('\x07', rest)
  | 'b' :: rest => ('\x08', rest)
  | 'f' :: rest => ('\x0c', rest)
  | 'n' :: rest => ('\n', rest)
  | 'r' :: rest => ('\r', rest)
  | 't' :: rest => ('\t', rest)
  | 'v' :: rest => ('\x0b', rest)
  | c :: _ =>
    if isOctal c then
      let ds := (cs.takeWhile isOctal).take 3
      (byteChar (ds.foldl (fun n d => 8 * n + (d.toNat - 48)) 0), cs.drop ds.length)
    else ('\\', cs)
  | [] => ('\\', [])

/-- The escapes of `echo` arguments and `%b`: as in formats, with `\0` before up to three
octal digits, and `\c` ending all output. -/
def expandEscapes : Nat -> List Char -> List Char × Bool
  | 0, _ => ([], true)
  | _, [] => ([], true)
  | _ + 1, '\\' :: 'c' :: _ => ([], false)
  | fuel + 1, '\\' :: rest =>
    let rest := match rest with
      | '0' :: d :: more => if isOctal d then d :: more else rest
      | _ => rest
    let (c, after) := formatEscape rest
    let (more, go) := expandEscapes fuel after
    (c :: more, go)
  | fuel + 1, c :: rest =>
    let (more, go) := expandEscapes fuel rest
    (c :: more, go)

/-- The integer at the start of a text as the C library's `strtoimax` reads it with base zero:
blanks, a sign, then `0x` and hexadecimal digits, `0` and octal digits, or decimal digits. -/
def leadingInteger (cs : List Char) : Nat × Bool × Bool × List Char :=
  let cs := cs.dropWhile isCSpace
  let (neg, cs) := match cs with
    | '-' :: rest => (true, rest)
    | '+' :: rest => (false, rest)
    | _ => (false, cs)
  match cs with
  | '0' :: x :: rest =>
    if (x == 'x' || x == 'X') && (rest.head?.bind (digitIn 16)).isSome then
      let (v, _, after) := leadingDigits 16 rest
      (v, neg, true, after)
    else
      let (v, _, after) := leadingDigits 8 (x :: rest)
      (v, neg, true, after)
  | _ =>
    let (v, n, after) := leadingDigits 10 cs
    (v, neg, n > 0, after)

/-- A number argument of an integer conversion of `printf` (`unsigned` for `u`, `o`, `x`): a quote
and a character give its first byte, else the leading integer, clamped to the conversion. -/
def printfNumber (arg : String) (unsigned : Bool) : Int × Bool :=
  match arg.toList with
  | [] => (0, true)
  | '\'' :: rest | '"' :: rest => ((rest.head?.map charByte).getD 0, true)
  | cs =>
    let (v, neg, read, after) := leadingInteger cs
    if !read then (0, false)
    else if unsigned then
      let top := Nat.pow 2 64 - 1
      if v > top then (top, false) else (if neg then -(v : Int) else v, after.isEmpty)
    else
      let limit := if neg then Nat.pow 2 63 else Nat.pow 2 63 - 1
      let inRange := v <= limit
      let v := min v limit
      (if neg then -(v : Int) else v, inRange && after.isEmpty)

/-- A number argument of a floating conversion of `printf`: a quote and a character give its
first byte, else the leading number as `strtod` reads it. -/
def printfDouble (arg : String) : Float × Bool :=
  match arg.toList with
  | [] => (0, true)
  | '\'' :: rest | '"' :: rest => (((rest.head?.map charByte).getD 0).toFloat, true)
  | cs =>
    let (x, read, after) := readDoublePrefix cs
    if !read then (0, false) else (x, after.isEmpty)

/-- A conversion of a `printf` format: flags, width, precision and the conversion character. -/
structure Conversion where
  flags : List Char
  width : Option Nat
  precision : Option Nat
  conv : Char

/-- Pads a text to a width: with blanks on the left, on the right with the `-` flag, or with
zeros after the sign with the `0` flag. -/
def padField (spec : Conversion) (zeroOk : Bool) (text : String) : String :=
  match spec.width with
  | none => text
  | some w =>
    let n := text.length
    if n >= w then text
    else if spec.flags.contains '-' then text ++ String.ofList (List.replicate (w - n) ' ')
    else if zeroOk && spec.flags.contains '0' && spec.precision.isNone then
      let (sign, digits) := match text.toList with
        | c :: rest => if c == '-' || c == '+' || c == ' ' then (c.toString, String.ofList rest) else ("", text)
        | [] => ("", text)
      let (pre, digits) := if digits.startsWith "0x" || digits.startsWith "0X" then
          (String.ofList (digits.toList.take 2), String.ofList (digits.toList.drop 2))
        else ("", digits)
      sign ++ pre ++ String.ofList (List.replicate (w - n) '0') ++ digits
    else String.ofList (List.replicate (w - n) ' ') ++ text

/-- Digits of a natural number in a base, lower or upper case. -/
def baseDigits (base : Nat) (upper : Bool) (n : Nat) : String :=
  let digit (d : Nat) : Char :=
    if d < 10 then Char.ofNat (48 + d) else Char.ofNat ((if upper then 55 else 87) + d)
  String.ofList ((Nat.toDigits base n).map fun c => digit (c.toNat - (if c.isDigit then 48 else 87)))

/-- An integer conversion. -/
def formatInteger (spec : Conversion) (n : Int) : String :=
  let unsignedOf (n : Int) : Nat := (n % 18446744073709551616).toNat
  let withPrecision (digits : String) : String :=
    match spec.precision with
    | some p =>
      if p == 0 && digits == "0" then ""
      else String.ofList (List.replicate (p - digits.length) '0') ++ digits
    | none => digits
  let text := match spec.conv with
    | 'd' | 'i' =>
      let digits := withPrecision (toString n.natAbs)
      let sign := if n < 0 then "-" else if spec.flags.contains '+' then "+"
        else if spec.flags.contains ' ' then " " else ""
      sign ++ digits
    | 'u' => withPrecision (toString (unsignedOf n))
    | 'o' =>
      let digits := withPrecision (baseDigits 8 false (unsignedOf n))
      if spec.flags.contains '#' && !digits.startsWith "0" then "0" ++ digits else digits
    | c =>
      let upper := c == 'X'
      let digits := withPrecision (baseDigits 16 upper (unsignedOf n))
      if spec.flags.contains '#' && n != 0 then (if upper then "0X" else "0x") ++ digits else digits
  padField spec true text

/-- Reads a conversion after `%`: flags, a width and a precision (each perhaps `*`, taken from
the arguments), and length letters, which are ignored. -/
def readConversion (cs : List Char) (args : List String) :
    Option (Conversion × List Char × List String) :=
  let flags := cs.takeWhile (fun c => c == '-' || c == '+' || c == ' ' || c == '#' || c == '0')
  let cs := cs.drop flags.length
  let (width, cs, args) := match cs with
    | '*' :: rest =>
      let (n, _) := printfNumber (args.headD "") false
      (some n.natAbs, rest, args.drop 1)
    | _ =>
      let ds := cs.takeWhile Char.isDigit
      (if ds.isEmpty then none else some (String.ofList ds).toNat!, cs.drop ds.length, args)
  let (precision, cs, args) := match cs with
    | '.' :: '*' :: rest =>
      let (n, _) := printfNumber (args.headD "") false
      (some n.toNat, rest, args.drop 1)
    | '.' :: rest =>
      let ds := rest.takeWhile Char.isDigit
      (some (String.ofList ds).toNat!, rest.drop ds.length, args)
    | _ => (none, cs, args)
  let cs := cs.dropWhile (fun c => "hjlLqtz".contains c)
  match cs with
  | c :: rest => some (⟨flags, width, precision, c⟩, rest, args)
  | [] => none

/-- The result of one pass of a `printf` format. -/
structure FormatPass where
  text : String
  args : List String
  /-- Whether the pass took arguments. -/
  used : Bool
  /-- Whether output goes on (a `\c` in a `%b` argument stops it). -/
  go : Bool := true
  /-- Whether a number argument was no number. -/
  failed : Bool := false

/-- One pass of a `printf` format over arguments. -/
def formatPass : Nat -> List Char -> List String -> FormatPass
  | 0, _, args => ⟨"", args, false, true, false⟩
  | _, [], args => ⟨"", args, false, true, false⟩
  | fuel + 1, '\\' :: rest, args =>
    let (c, after) := formatEscape rest
    let r := formatPass fuel after args
    { r with text := c.toString ++ r.text }
  | fuel + 1, '%' :: '%' :: rest, args =>
    let r := formatPass fuel rest args
    { r with text := "%" ++ r.text }
  | fuel + 1, '%' :: rest, args =>
    match readConversion rest args with
    | none => ⟨"%", args, false, true, false⟩
    | some (spec, after, args) =>
      let (arg, more, took) := match args with
        | a :: more => (a, more, true)
        | [] => ("", [], false)
      let (text, go, failed) : String × Bool × Bool := match spec.conv with
        | 's' =>
          let s := match spec.precision with
            | some p => String.ofList (arg.toList.take p)
            | none => arg
          (padField spec false s, true, false)
        | 'b' =>
          let (cs, go) := expandEscapes (arg.length + 1) arg.toList
          let s := match spec.precision with
            | some p => String.ofList (cs.take p)
            | none => String.ofList cs
          (padField spec false s, go, false)
        | 'c' => (padField spec false (String.ofList (arg.toList.take 1)), true, false)
        | 'd' | 'i' | 'u' | 'o' | 'x' | 'X' =>
          let (n, ok) := printfNumber arg (spec.conv != 'd' && spec.conv != 'i')
          (formatInteger spec n, true, !ok)
        | 'f' | 'F' | 'e' | 'E' | 'g' | 'G' =>
          let (x, ok) := printfDouble arg
          let body := formatDouble spec.flags spec.precision spec.conv x
          -- zeros pad a finite number even with a precision
          (padField { spec with precision := none } (!x.isNaN && !x.isInf) body, true, !ok)
        | _ => (padField spec false arg, true, false)
      if !go then ⟨text, more, true, false, failed⟩
      else
        let r := formatPass fuel after more
        { r with text := text ++ r.text, used := r.used || took, failed := r.failed || failed }
  | fuel + 1, c :: rest, args =>
    let r := formatPass fuel rest args
    { r with text := c.toString ++ r.text }

/-- The whole output of `printf`: the format applied again while arguments remain, and whether
a number argument was no number. -/
def formatAll (fmt : String) (args : List String) : String × Bool :=
  let rec go : Nat -> List String -> String × Bool
    | 0, _ => ("", false)
    | k + 1, args =>
      let r := formatPass (fmt.length + 1) fmt.toList args
      if r.go && r.used && !r.args.isEmpty then
        let (t, failed) := go k r.args
        (r.text ++ t, failed || r.failed)
      else (r.text, r.failed)
  go (args.length + 1) args

end TranscriptTest.Shell
