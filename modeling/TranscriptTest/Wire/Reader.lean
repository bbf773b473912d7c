import TranscriptTest.Decimal.Shortest
import TranscriptTest.Unicode.Printable

/-!
# Reading JSON text

A reader over the bytes of one JSON text that reports errors the way the interpreter-side
protocol describes them: a message, then `at line L column C`, where the column counts bytes
from the start of the line. Errors found at the character just read point at it; errors about
the character ahead point one past it. Some errors only learn their place later, when the value
around them is finished.
-/

namespace TranscriptTest.Wire

open TranscriptTest.Decimal

/-- A reading error: its message and, once known, its line and column. -/
structure ReadError where
  text : String
  place : Option (Nat × Nat) := none
  deriving Inhabited

/-- The message with its place. -/
def ReadError.render (e : ReadError) : String :=
  match e.place with
  | some (l, c) => e.text ++ " at line " ++ toString l ++ " column " ++ toString c
  | none => e.text

/-- The reader: the bytes, the index of the next byte, and errors that keep the index. -/
abbrev Reader := ReaderT ByteArray (ExceptT ReadError (StateM Nat))

/-- Line and column of a byte index. -/
def placeOf (bs : ByteArray) (i : Nat) : Nat × Nat :=
  let before := bs.toList.take i
  let lineStart := before.length - (before.reverse.takeWhile (· != 10)).length
  (1 + (before.filter (· == 10)).length, i - lineStart)

/-- The next byte, not consumed. -/
def peekByte : Reader (Option UInt8) := do
  let bs ← read
  let i ← get
  pure bs[i]?

/-- Consumes one byte. -/
def eat : Reader Unit :=
  modify (· + 1)

/-- Consumes and returns the next byte. -/
def nextByte : Reader (Option UInt8) := do
  let b ← peekByte
  if b.isSome then eat
  pure b

/-- An error at the last byte read. -/
def failHere (text : String) : Reader α := do
  let bs ← read
  let i ← get
  throw ⟨text, some (placeOf bs (min i bs.size))⟩

/-- An error at the byte ahead. -/
def failAhead (text : String) : Reader α := do
  let bs ← read
  let i ← get
  throw ⟨text, some (placeOf bs (min (i + 1) bs.size))⟩

/-- Gives an error without a place the place of the last byte read. -/
def placed (e : ReadError) : Reader ReadError := do
  match e.place with
  | some _ => pure e
  | none =>
    let bs ← read
    let i ← get
    pure { e with place := some (placeOf bs (min i bs.size)) }

/-- Runs a reader and returns its result or error, keeping what it consumed. -/
def attempt (r : Reader α) : Reader (Except ReadError α) :=
  tryCatch (Except.ok <$> r) (fun e => pure (.error e))

/-- Skips JSON blanks and returns the byte ahead. -/
def skipBlanks : Reader (Option UInt8) := do
  let bs ← read
  let rec go : Nat → Reader (Option UInt8)
    | 0 => peekByte
    | fuel + 1 => do
      match ← peekByte with
      | some b =>
        if b == 32 || b == 10 || b == 9 || b == 13 then do eat; go fuel else pure (some b)
      | none => pure none
  go bs.size

/-! ## Messages -/

def eofValue := "EOF while parsing a value"
def eofString := "EOF while parsing a string"
def eofList := "EOF while parsing a list"
def eofObject := "EOF while parsing an object"
def expectedValue := "expected value"
def expectedIdent := "expected ident"
def expectedColon := "expected `:`"
def expectedListEnd := "expected `,` or `]`"
def expectedObjectEnd := "expected `,` or `\x7d`"
def invalidEscape := "invalid escape"
def invalidNumber := "invalid number"
def outOfRange := "number out of range"
def controlInString := "control character (\\u0000-\\u001F) found while parsing a string"
def keyNotString := "key must be a string"
def loneSurrogate := "lone leading surrogate in hex escape"
def trailingComma := "trailing comma"
def trailingCharacters := "trailing characters"
def hexEnd := "unexpected end of hex escape"

/-! ## Strings -/

/-- Reads four hexadecimal digits of a `\u` escape. -/
def hexEscape : Reader Nat := do
  let bs ← read
  let i ← get
  if i + 4 ≤ bs.size then
    set (i + 4)
    let digits := (List.range 4).map fun k => bs[i + k]?
    let value := digits.foldl (fun acc b? => match acc, b? with
      | some a, some b => (hexValue (Char.ofNat b.toNat)).map (16 * a + ·)
      | _, _ => none) (some 0)
    match value with
    | some v => pure v
    | none => failHere invalidEscape
  else
    set bs.size
    failHere eofString
where
  hexValue (c : Char) : Option Nat :=
    if '0' ≤ c ∧ c ≤ '9' then some (c.toNat - 48)
    else if 'a' ≤ c ∧ c ≤ 'f' then some (c.toNat - 87)
    else if 'A' ≤ c ∧ c ≤ 'F' then some (c.toNat - 55)
    else none

/-- The UTF-8 bytes of a code point. -/
def codePointBytes (n : Nat) : ByteArray :=
  (Char.ofNat n).toString.toUTF8

/-- Reads the rest of a `\u` escape, joining a surrogate pair. -/
def unicodeEscape : Reader ByteArray := do
  let n ← hexEscape
  if 0xDC00 ≤ n ∧ n ≤ 0xDFFF then failHere loneSurrogate
  if n < 0xD800 ∨ 0xDBFF < n then return codePointBytes n
  -- a leading surrogate must be followed by `\u` and a trailing one
  match ← peekByte with
  | none => failHere eofString
  | some b => do
    eat
    if b != 92 then failHere hexEnd
  match ← peekByte with
  | none => failHere eofString
  | some b => do
    eat
    if b != 117 then failHere hexEnd
  let n2 ← hexEscape
  if n2 < 0xDC00 ∨ 0xDFFF < n2 then failHere loneSurrogate
  pure (codePointBytes (0x10000 + (n - 0xD800) * 0x400 + (n2 - 0xDC00)))

/-- Reads an escape after its backslash. -/
def escape : Reader ByteArray := do
  match ← nextByte with
  | none => failHere eofString
  | some b =>
    match b.toNat with
    | 34 => pure (ByteArray.mk #[34])
    | 92 => pure (ByteArray.mk #[92])
    | 47 => pure (ByteArray.mk #[47])
    | 98 => pure (ByteArray.mk #[8])
    | 102 => pure (ByteArray.mk #[12])
    | 110 => pure (ByteArray.mk #[10])
    | 114 => pure (ByteArray.mk #[13])
    | 116 => pure (ByteArray.mk #[9])
    | 117 => unicodeEscape
    | _ => failHere invalidEscape

/-- Reads a string after its opening quote. -/
def stringBody : Reader String := do
  let bs ← read
  let rec go : Nat → ByteArray → Reader ByteArray
    | 0, acc => pure acc
    | fuel + 1, acc => do
      match ← peekByte with
      | none => failHere eofString
      | some b =>
        eat
        if b == 34 then pure acc
        else if b == 92 then do
          let more ← escape
          go fuel (acc ++ more)
        else if b < 32 then failHere controlInString
        else go fuel (acc.push b)
  let bytes ← go (bs.size + 1) ByteArray.empty
  pure ((String.fromUTF8? bytes).getD "")

/-! ## Numbers

A number is read into a 64-bit significand and a decimal exponent. Digits that would overflow
the significand are dropped (an integer part then raises the exponent instead), and the value is
the significand as a double, multiplied or divided by a power of ten in one rounding step, or in
steps of `1e308` when the power is out of the table.
-/

/-- The largest significand. -/
def significandLimit : Nat := Nat.pow 2 64 - 1

/-- The largest exponent that is written out. -/
def exponentLimit : Nat := Nat.pow 2 31 - 1

/-- Whether a byte is an ASCII digit. -/
def isDigit (b : UInt8) : Bool := 48 ≤ b.toNat && b.toNat ≤ 57

/-- Reads digits onto `sig` while the significand stays in range; returns the significand and
how many digits were taken. -/
def significandDigits (sig : Nat) : Reader (Nat × Nat) := do
  let bs ← read
  let rec go : Nat → Nat → Nat → Reader (Nat × Nat)
    | 0, n, k => pure (n, k)
    | fuel + 1, n, k => do
      match ← peekByte with
      | some b =>
        if isDigit b && 10 * n + (b.toNat - 48) ≤ significandLimit then do
          eat; go fuel (10 * n + (b.toNat - 48)) (k + 1)
        else pure (n, k)
      | none => pure (n, k)
  go bs.size sig 0

/-- Skips digits; returns how many. -/
def skipDigits : Reader Nat := do
  let bs ← read
  let rec go : Nat → Nat → Reader Nat
    | 0, k => pure k
    | fuel + 1, k => do
      match ← peekByte with
      | some b => if isDigit b then do eat; go fuel (k + 1) else pure k
      | none => pure k
  go bs.size 0

/-- Whether the byte ahead is a digit. -/
def digitAhead : Reader Bool := do
  pure ((← peekByte).map isDigit == some true)

/-- Ten to the power `k`, rounded to a double. -/
def powerOfTen (k : Nat) : Float := Float.ofScientific 1 false k

/-- The double `f · 10^e`, or `none` when it overflows. -/
def scaleByTen (f : Float) (e : Int) : Option Float :=
  if e.natAbs ≤ 308 then
    if 0 ≤ e then
      let g := f * powerOfTen e.toNat
      if g.isInf then none else some g
    else some (f / powerOfTen e.natAbs)
  else if f == 0 then some f
  else if 0 ≤ e then none
  else scaleByTen (f / powerOfTen 308) (e + 308)
termination_by e.natAbs

/-- The value of a significand and exponent, with the sign; an overflow is an error. -/
def fromParts (positive : Bool) (sig : Nat) (e : Int) : Reader Float := do
  match scaleByTen sig.toUInt64.toFloat e with
  | some f => pure (if positive then f else -f)
  | none => failHere outOfRange

/-- Reads an exponent after `e` or `E`. -/
def exponentPart (positive : Bool) (sig : Nat) (start : Int) : Reader Float := do
  eat
  let up ← match ← peekByte with
    | some 43 => do eat; pure true
    | some 45 => do eat; pure false
    | _ => pure true
  let first ← match ← nextByte with
    | none => failHere eofValue
    | some c => if isDigit c then pure (c.toNat - 48) else failHere invalidNumber
  -- the digits are read until the exponent would leave its range
  let bs ← read
  let rec go : Nat → Nat → Reader (Option Nat)
    | 0, n => pure (some n)
    | fuel + 1, n => do
      match ← peekByte with
      | some b =>
        if isDigit b then do
          eat
          let m := 10 * n + (b.toNat - 48)
          if m > exponentLimit then pure none else go fuel m
        else pure (some n)
      | none => pure (some n)
  match ← go bs.size first with
  | some n =>
    let e : Int := if up then start + n else start - n
    -- the exponent saturates at the ends of its range
    let e := max (-(exponentLimit + 1 : Int)) (min exponentLimit e)
    fromParts positive sig e
  | none =>
    if sig != 0 && up then failHere outOfRange
    discard skipDigits
    pure (if positive then 0.0 else -0.0)

/-- Reads a fraction after `.`, and an exponent if one follows. -/
def fractionPart (positive : Bool) (sig : Nat) (start : Int) : Reader Float := do
  eat
  let (sig, k) ← significandDigits sig
  if ← digitAhead then
    discard skipDigits
  else if k == 0 then
    match ← peekByte with
    | some _ => failAhead invalidNumber
    | none => failAhead eofValue
  match ← peekByte with
  | some 101 | some 69 => exponentPart positive sig (start - k)
  | _ => fromParts positive sig (start - k)

/-- A number as an unexpected value. -/
inductive NumberValue where
  | unsigned (n : Nat)
  | signed (n : Int)
  | float (f : Float)

/-- Shortest text of a double that keeps a point or an exponent: `1.5`, `100000.0`, `1e+16`,
`1.5e-7`; an exponent always has its sign. -/
def floatText (f : Float) : String :=
  if f.isNaN then "NaN"
  else if f.isInf then (if f < 0 then "-inf" else "inf")
  else
    let d := Decimal.ofFloat f
    let sign := if (Binary.ofFloat f).negative then "-" else ""
    let ds := d.digitChars
    let len : Int := ds.length
    let k : Int := d.exponent
    let kk := len + k
    let body : String :=
      if d.digits == 0 then "0.0"
      else if 0 ≤ k ∧ kk ≤ 16 then
        String.ofList ds ++ String.ofList (List.replicate k.toNat '0') ++ ".0"
      else if 0 < kk ∧ kk ≤ 16 then
        String.ofList (ds.take kk.toNat) ++ "." ++ String.ofList (ds.drop kk.toNat)
      else if -5 < kk ∧ kk ≤ 0 then
        "0." ++ String.ofList (List.replicate (-kk).toNat '0') ++ String.ofList ds
      else
        let e := kk - 1
        let expText := (if e ≥ 0 then "e+" else "e") ++ toString e
        if ds.length == 1 then String.ofList ds ++ expText
        else String.ofList (ds.take 1) ++ "." ++ String.ofList (ds.drop 1) ++ expText
    sign ++ body

/-- How a number is named in an "invalid type" message. -/
def NumberValue.describe : NumberValue → String
  | .unsigned n => "integer `" ++ toString n ++ "`"
  | .signed n => "integer `" ++ toString n ++ "`"
  | .float f => "floating point `" ++ floatText f ++ "`"

/-- Reads a number after its optional minus sign (`positive` tells which). -/
def number (positive : Bool) : Reader NumberValue := do
  match ← nextByte with
  | none => failHere eofValue
  | some b =>
    if b == 48 then
      if ← digitAhead then failAhead invalidNumber
      afterInteger 0
    else if isDigit b then do
      let (sig, _) ← significandDigits (b.toNat - 48)
      if ← digitAhead then do
        -- the integer is too long: its remaining digits only scale it
        let extra ← skipDigits
        .float <$> afterDigits sig extra
      else afterInteger sig
    else failHere invalidNumber
where
  /-- Fraction or exponent after digits whose value is `sig · 10^start`. -/
  afterDigits (sig : Nat) (start : Int) : Reader Float := do
    match ← peekByte with
    | some 46 => fractionPart positive sig start
    | some 101 | some 69 => exponentPart positive sig start
    | _ => fromParts positive sig start
  /-- What follows an integer that fits. -/
  afterInteger (sig : Nat) : Reader NumberValue := do
    match ← peekByte with
    | some 46 | some 101 | some 69 => .float <$> afterDigits sig 0
    | _ =>
      if positive then pure (.unsigned sig)
      else if sig == 0 then pure (.float (-0.0))
      else if sig ≤ Nat.pow 2 63 then pure (.signed (-(sig : Int)))
      else pure (.float (-sig.toUInt64.toFloat))

/-! ## Values that are skipped -/

/-- Reads the rest of a literal such as `ull` after `n`. -/
def ident (rest : List UInt8) : Reader Unit := do
  for expected in rest do
    match ← nextByte with
    | none => failHere eofValue
    | some b => if b != expected then failHere expectedIdent

/-- Skips an exponent at its `e` or `E`, checking only its syntax. -/
def skipExponent : Reader Unit := do
  eat
  match ← peekByte with
  | some 43 | some 45 => eat
  | _ => pure ()
  match ← nextByte with
  | some b => if isDigit b then discard skipDigits else failHere invalidNumber
  | none => failHere invalidNumber

/-- Skips a number, checking only its syntax: a skipped number is never out of range. -/
def skipNumber : Reader Unit := do
  if (← peekByte) == some 45 then eat
  match ← nextByte with
  | some 48 => if ← digitAhead then failAhead invalidNumber
  | some b => if isDigit b then discard skipDigits else failHere invalidNumber
  | none => failHere invalidNumber
  match ← peekByte with
  | some 46 =>
    eat
    if (← skipDigits) == 0 then failAhead invalidNumber
    match ← peekByte with
    | some 101 | some 69 => skipExponent
    | _ => pure ()
  | some 101 | some 69 => skipExponent
  | _ => pure ()

/-- Skips an escape after its backslash; a skipped `\u` escape may be any four hexadecimal
digits, a lone surrogate included. -/
def skipEscape : Reader Unit := do
  match ← nextByte with
  | none => failHere eofString
  | some b =>
    if [34, 92, 47, 98, 102, 110, 114, 116].contains b.toNat then pure ()
    else if b.toNat == 117 then discard hexEscape
    else failHere invalidEscape

/-- Skips a string after its opening quote; a control character is reported where it stands. -/
def skipString : Reader Unit := do
  let bs ← read
  let rec go : Nat → Reader Unit
    | 0 => pure ()
    | fuel + 1 => do
      match ← peekByte with
      | none => failHere eofString
      | some b =>
        if b == 34 then eat
        else if b == 92 then do eat; skipEscape; go fuel
        else if b < 32 then failHere controlInString
        else do eat; go fuel
  go (bs.size + 1)

/-- Skips any JSON value, checking its syntax; `fuel` bounds the nesting. -/
def skipValue : Nat → Reader Unit
  | 0 => failHere eofValue
  | fuel + 1 => do
    match ← skipBlanks with
    | none => failAhead eofValue
    | some b =>
      match b.toNat with
      | 110 => do eat; ident [117, 108, 108]
      | 116 => do eat; ident [114, 117, 101]
      | 102 => do eat; ident [97, 108, 115, 101]
      | 34 => do eat; skipString
      | 91 => do
        eat
        match ← skipBlanks with
        | some 93 => eat
        | _ => skipItems fuel true
      | 123 => do
        eat
        match ← skipBlanks with
        | some 125 => eat
        | _ => skipMembers fuel true
      | n => if n == 45 || (48 ≤ n ∧ n ≤ 57) then skipNumber else failAhead expectedValue
where
  /-- Skips the items of an array after its `[`. -/
  skipItems (fuel : Nat) (first : Bool) : Reader Unit := do
    let bs ← read
    let rec go : Nat → Bool → Reader Unit
      | 0, _ => pure ()
      | k + 1, first => do
        if !first then
          match ← skipBlanks with
          | some 44 => eat
          | some 93 => do eat; return
          | some _ => failAhead expectedListEnd
          | none => failAhead eofList
        skipValue fuel
        match ← skipBlanks with
        | some 93 => do eat; return
        | _ => go k false
    go (bs.size + 1) first
  /-- Skips the members of an object after its `{`. -/
  skipMembers (fuel : Nat) (first : Bool) : Reader Unit := do
    let bs ← read
    let rec go : Nat → Bool → Reader Unit
      | 0, _ => pure ()
      | k + 1, first => do
        if !first then
          match ← skipBlanks with
          | some 44 => eat
          | some 125 => do eat; return
          | some _ => failAhead expectedObjectEnd
          | none => failAhead eofObject
        match ← skipBlanks with
        | some 34 => eat
        | some _ => failAhead keyNotString
        | none => failAhead eofValue
        skipString
        match ← skipBlanks with
        | some 58 => eat
        | some _ => failAhead expectedColon
        | none => failAhead eofObject
        skipValue fuel
        match ← skipBlanks with
        | some 125 => do eat; return
        | _ => go k false
    go (bs.size + 1) first

/-! ## Unexpected values -/

/-- Reads the value ahead to name its type in an "invalid type" message, expecting `what`. -/
def invalidType (what : String) : Reader α := do
  let unexpected ← match ← peekByte with
    | some 110 => do eat; ident [117, 108, 108]; pure "null"
    | some 116 => do eat; ident [114, 117, 101]; pure "boolean `true`"
    | some 102 => do eat; ident [97, 108, 115, 101]; pure "boolean `false`"
    | some 45 => do eat; pure (← number false).describe
    | some 34 => do
      eat
      let s ← stringBody
      pure ("string " ++ Unicode.debugQuote s)
    | some 91 => pure "sequence"
    | some 123 => pure "map"
    | some b =>
      if 48 ≤ b.toNat ∧ b.toNat ≤ 57 then pure (← number true).describe
      else failAhead expectedValue
    | none => failAhead expectedValue
  throw (← placed ⟨"invalid type: " ++ unexpected ++ ", expected " ++ what, none⟩)

/-- Reads a string value. -/
def stringValue : Reader String := do
  match ← skipBlanks with
  | some 34 => do eat; stringBody
  | some _ => invalidType "a string"
  | none => failAhead eofValue

/-- Reads a string or `null`. -/
def optionalString : Reader (Option String) := do
  match ← skipBlanks with
  | some 110 => do eat; ident [117, 108, 108]; pure none
  | _ => some <$> stringValue

end TranscriptTest.Wire
