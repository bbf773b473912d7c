/-!
# YAML nodes

A YAML document is read into nodes: scalars with the style they were written in, sequences and
mappings (entries in document order), each perhaps with a tag. A plain scalar without a tag is
resolved by the core schema: `~`, `null` and the empty scalar are null, `true` and `false` in
three spellings are booleans, then integers (decimal, `0x`, `0o`, `0b`, with a sign) and finite
floats; everything else, and every quoted or block scalar, is a string. A tag of the core schema
asks for its kind and refuses a text that is not of it; a local tag (one that starts with `!`)
leaves a plain scalar to the schema.
-/

namespace TranscriptTest.Yaml

/-- How a scalar was written. -/
inductive Style where
  | plain
  | singleQuoted
  | doubleQuoted
  | literal
  | folded
  deriving Inhabited, BEq

/-- A scalar: its text after escapes and folding, its style, and its tag. -/
structure Scalar where
  text : String
  style : Style := .plain
  tag : Option String := none
  deriving Inhabited, BEq

/-- A YAML node; collections keep their tag too. -/
inductive Node where
  | scalar (s : Scalar)
  | seq (items : List Node) (tag : Option String)
  | map (entries : List (Node × Node)) (tag : Option String)
  deriving Inhabited

/-- The empty plain scalar, which is null. -/
def Node.null : Node := .scalar ⟨"", .plain, none⟩

/-- The node with a tag put on it, when there is one. -/
def Node.withTag (tag : Option String) (n : Node) : Node :=
  match tag with
  | none => n
  | some _ =>
    match n with
    | .scalar s => .scalar { s with tag }
    | .seq items _ => .seq items tag
    | .map entries _ => .map entries tag

/-- The tag of a node. -/
def Node.tag : Node -> Option String
  | .scalar s => s.tag
  | .seq _ t => t
  | .map _ t => t

/-- The full name of a tag of the core schema, as `!!name` stands for. -/
def coreTag (name : String) : String := "tag:yaml.org,2002:" ++ name

/-- Whether a tag is local: it starts with `!` and names something. -/
def isLocalTag (t : String) : Bool := t.startsWith "!" && t.length > 1

/-- What a scalar means. -/
inductive Resolved where
  | null
  | bool (b : Bool)
  | nat (n : Nat)
  | negative (n : Int)
  | float
  | str (s : String)
  /-- A text its tag refuses. -/
  | invalid
  deriving Inhabited, BEq

/-- Whether a plain scalar is null. -/
def isNullText (t : String) : Bool :=
  t == "" || t == "~" || t == "null" || t == "Null" || t == "NULL"

/-- A boolean spelled in one of the core schema's forms. -/
def boolText? (t : String) : Option Bool :=
  if t == "true" || t == "True" || t == "TRUE" then some true
  else if t == "false" || t == "False" || t == "FALSE" then some false
  else none

/-- The value of a string of digits in a base; `none` if it is empty or has another
character. -/
def digitsValue? (base : Nat) (cs : List Char) : Option Nat :=
  if cs.isEmpty then none
  else cs.foldl (fun acc c => acc.bind fun a =>
    let d := if '0' <= c ∧ c <= '9' then c.toNat - 48
      else if 'a' <= c ∧ c <= 'z' then c.toNat - 87
      else if 'A' <= c ∧ c <= 'Z' then c.toNat - 55
      else 99
    if d < base then some (base * a + d) else none) (some 0)

/-- An unsigned integer: an optional `+`, then `0x`, `0o` or `0b` digits or decimal digits; a
decimal with a leading zero is a string. -/
def unsignedText? (t : List Char) : Option Nat :=
  let u := match t with
    | '+' :: r => r
    | r => r
  let radix (base : Nat) (r : List Char) : Option Nat :=
    match r with
    | '+' :: _ | '-' :: _ => none
    | _ => digitsValue? base r
  match u with
  | '0' :: 'x' :: r => radix 16 r
  | '0' :: 'o' :: r => radix 8 r
  | '0' :: 'b' :: r => radix 2 r
  | '+' :: _ | '-' :: _ => none
  | '0' :: _ :: _ => if u.all Char.isDigit then none else digitsValue? 10 u
  | _ => digitsValue? 10 u

/-- A negative integer: `-` then the digits of an unsigned one. -/
def negativeText? (t : List Char) : Option Int :=
  match t with
  | '-' :: r =>
    match r with
    | '0' :: 'x' :: d => (digitsValue? 16 d).map fun n => -(n : Int)
    | '0' :: 'o' :: d => (digitsValue? 8 d).map fun n => -(n : Int)
    | '0' :: 'b' :: d => (digitsValue? 2 d).map fun n => -(n : Int)
    | '0' :: _ :: _ => if r.all Char.isDigit then none else (digitsValue? 10 r).map fun n => -(n : Int)
    | _ => (digitsValue? 10 r).map fun n => -(n : Int)
  | _ => none

/-- Whether a text is digits after a leading zero, perhaps signed: such a text is a string, not
a number. -/
def isZeroLedDigits (t : List Char) : Bool :=
  let u := match t with
    | '+' :: r => r
    | '-' :: r => r
    | r => r
  match u with
  | '0' :: r@(_ :: _) => r.all Char.isDigit
  | _ => false

/-- The value of decimal digits. -/
def decimalValue (cs : List Char) : Nat :=
  cs.foldl (fun n c => 10 * n + (c.toNat - 48)) 0

/-- Whether `m · 10^e` rounds to a finite double: below the midpoint between the largest finite
double and `2^1024`. -/
def decimalIsFinite (m : Nat) (e : Int) : Bool :=
  let limit := Nat.pow 2 1024 - Nat.pow 2 970
  if m == 0 then true
  else
    let digits := (Nat.toDigits 10 m).length
    if (digits : Int) - 1 + e >= 309 then false
    else if (digits : Int) + e <= 308 then true
    else if e >= 0 then m * Nat.pow 10 e.toNat < limit
    else m < limit * Nat.pow 10 (-e).toNat

/-- Whether a text is a finite float (sign, digits with at most one point, exponent, not rounding
to infinity) or a spelling of the infinities and NaN. -/
def isFloatText (t : List Char) : Bool :=
  let u := match t with
    | '+' :: r => r
    | '-' :: r => r
    | r => r
  if [".inf", ".Inf", ".INF"].contains (String.ofList u) then true
  else if [".nan", ".NaN", ".NAN"].contains (String.ofList t) then true
  else
    let (mant, rest) := u.span fun c => c.isDigit || c == '.'
    let points := mant.count '.'
    let digits := mant.filter Char.isDigit
    let fraction := ((mant.dropWhile (· != '.')).drop 1).length
    let exponent : Option Int := match rest with
      | [] => some 0
      | c :: e =>
        if c == 'e' || c == 'E' then
          let (neg, e) := match e with
            | '+' :: r => (false, r)
            | '-' :: r => (true, r)
            | r => (false, r)
          if !e.isEmpty && e.all Char.isDigit then
            some (if neg then -(decimalValue e : Int) else decimalValue e)
          else none
        else none
    match exponent with
    | some e =>
      points <= 1 && !digits.isEmpty && decimalIsFinite (decimalValue digits) (e - fraction)
    | none => false

/-- What a plain scalar without a tag means under the core schema. -/
def resolvePlain (t : String) : Resolved :=
  if isNullText t then .null
  else match boolText? t with
    | some b => .bool b
    | none =>
      match unsignedText? t.toList with
      | some n => .nat n
      | none =>
        match negativeText? t.toList with
        | some n => .negative n
        | none =>
          if !isZeroLedDigits t.toList && isFloatText t.toList then .float else .str t

/-- What a scalar means: the kind its core tag names, refusing other texts; the schema's reading
of a plain scalar without a tag or with a local one; else a string. -/
def Scalar.resolve (s : Scalar) : Resolved :=
  match s.tag with
  | none => if s.style == .plain then resolvePlain s.text else .str s.text
  | some t =>
    if t == coreTag "bool" then
      match boolText? s.text with
      | some b => .bool b
      | none => .invalid
    else if t == coreTag "int" then
      match unsignedText? s.text.toList, negativeText? s.text.toList with
      | some n, _ => .nat n
      | none, some n => .negative n
      | none, none => .invalid
    else if t == coreTag "float" then
      if isFloatText s.text.toList then .float else .invalid
    else if t == coreTag "null" then
      if isNullText s.text && !s.text.isEmpty then .null else .invalid
    else if t.startsWith "!" && s.style == .plain then resolvePlain s.text
    else .str s.text

/-- How an optional value reads a node: `some false` for null (a plain null scalar or the null
tag), `some true` for a value, `none` when the null tag refuses its text. -/
def Node.presence : Node -> Option Bool
  | .scalar s =>
    if s.style != .plain then some true
    else match s.tag with
      | some t =>
        if t == coreTag "null" then
          if isNullText s.text && !s.text.isEmpty then some false else none
        else some true
      | none => some (!isNullText s.text)
  | _ => some true

/-- Whether a node is the empty plain scalar, which stands for an empty collection. -/
def Node.isEmptyPlain : Node -> Bool
  | .scalar s => s.style == .plain && s.text.isEmpty
  | _ => false

end TranscriptTest.Yaml
