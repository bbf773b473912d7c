import TranscriptTest.Python.Format
import TranscriptTest.Python.Json
import TranscriptTest.Sort.TimSort

/-!
# The built-in library

The built-in functions (`print`, `len`, `int`, `sorted`, ...), the methods of strings, lists,
dictionaries, sets and the standard files, and the `sys`, `json` and `math` modules.
-/

namespace TranscriptTest.Python

/-- What the library asks of the evaluator. -/
structure Host where
  call : Value -> List Value -> List (String × Value) -> Run Value
  /-- Every value an iterable gives. -/
  iterate : Value -> Run (Array Value)
  /-- An iterator over an iterable. -/
  iter : Value -> Run Value
  /-- The next value of an iterator, if it has one. -/
  next : Value -> Run (Option Value)
  str : Value -> Run String
  repr : Value -> Run String
  eq : Value -> Value -> Run Bool
  lt : Value -> Value -> Run Bool
  truthy : Value -> Run Bool
  getAttr : Value -> String -> Run Value
  getItem : Value -> Value -> Run Value
  len : Value -> Run Nat
  contains : Value -> Value -> Run Bool
  binop : BinOp -> Value -> Value -> Run Value
  setAttr : Value -> String -> Value -> Run Unit

/-! ## Arguments -/

/-- A keyword argument, if given. -/
def kwarg (kwargs : List (String × Value)) (name : String) : Option Value :=
  kwargs.lookup name

/-- An argument by position or keyword. -/
def argOr (args : List Value) (kwargs : List (String × Value)) (i : Nat) (name : String) :
    Option Value :=
  match args[i]? with
  | some v => some v
  | none => kwarg kwargs name

/-- An integer argument. -/
def intArg (v : Value) : Run Int := do
  match v with
  | .int n => pure n
  | .bool b => pure (if b then 1 else 0)
  | other => typeError ("'" ++ (<- typeName other) ++ "' object cannot be interpreted as an integer")

/-- A string argument. -/
def strArg (what : String) (v : Value) : Run String := do
  match v with
  | .str s => pure s
  | other => typeError (what ++ " must be str, not " ++ (<- typeName other))

/-! ## Text -/

/-- The characters `str.isspace` counts as white space. -/
def isPySpace (c : Char) : Bool :=
  let n := c.toNat
  (9 <= n && n <= 13) || (0x1C <= n && n <= 0x20) || n == 0x85 || n == 0xA0 || n == 0x1680 ||
    (0x2000 <= n && n <= 0x200A) || n == 0x2028 || n == 0x2029 || n == 0x202F || n == 0x205F ||
    n == 0x3000

/-- The characters that end lines for `splitlines`. -/
def isLineBoundary (c : Char) : Bool :=
  let n := c.toNat
  (10 <= n && n <= 13) || (0x1C <= n && n <= 0x1E) || n == 0x85 || n == 0x2028 || n == 0x2029

def pyLetterTable : Unicode.RangeTable := (Unicode.category? "L").getD default
def pyDecimalTable : Unicode.RangeTable := (Unicode.category? "Nd").getD default
def pyNumberTable : Unicode.RangeTable := (Unicode.category? "N").getD default

/-- Whether a character has case: it changes under upper or lower case. -/
def isCased (c : Char) : Bool :=
  Unicode.upperOf c != [c] || Unicode.lowerOf c != [c]

/-- Whether a character is upper case: lower case changes it. -/
def isUpperCase (c : Char) : Bool := Unicode.lowerOf c != [c]

/-- Whether a character is lower case: upper case changes it. -/
def isLowerCase (c : Char) : Bool := Unicode.upperOf c != [c] && Unicode.lowerOf c == [c]

/-- Upper case, with the full mappings (`ß` becomes `SS`). -/
def pyUpper (s : String) : String :=
  String.ofList (s.toList.flatMap Unicode.upperOf)

/-- Lower case, with final sigma: a capital sigma after a letter and not before one becomes `ς`. -/
def pyLower (s : String) : String :=
  let cs := s.toList
  let rec go : Option Char -> List Char -> List Char
    | _, [] => []
    | prev, c :: rest =>
      if c == 'Σ' && (prev.map isCased).getD false && !((rest.head?.map isCased).getD false) then
        'ς' :: go (some c) rest
      else Unicode.lowerOf c ++ go (some c) rest
  String.ofList (go none cs)

/-- `str.title`: each cased run starts upper case and goes on lower case. -/
def pyTitle (s : String) : String :=
  let rec go : Bool -> List Char -> List Char
    | _, [] => []
    | afterCased, c :: rest =>
      if isCased c then
        (if afterCased then Unicode.lowerOf c else Unicode.upperOf c) ++ go true rest
      else c :: go false rest
  String.ofList (go false s.toList)

/-- `str.capitalize`: the first character upper case, the rest lower case. -/
def pyCapitalize (s : String) : String :=
  match s.toList with
  | [] => ""
  | c :: rest => String.ofList (Unicode.upperOf c) ++ pyLower (String.ofList rest)

/-- `str.swapcase`. -/
def pySwapcase (s : String) : String :=
  String.ofList (s.toList.flatMap fun c =>
    if isUpperCase c then Unicode.lowerOf c else if isLowerCase c then Unicode.upperOf c else [c])

/-- Splits on runs of white space, at most `limit` times (none: no limit). -/
def splitWhitespace (s : String) (limit : Option Nat) : List String :=
  let rec go : Nat -> Option Nat -> List Char -> List String
    | 0, _, _ => []
    | fuel + 1, limit, cs =>
      let cs := cs.dropWhile isPySpace
      if cs.isEmpty then []
      else if limit == some 0 then
        [String.ofList (cs.reverse.dropWhile isPySpace).reverse]
      else
        let word := cs.takeWhile (!isPySpace ·)
        String.ofList word :: go fuel (limit.map (· - 1)) (cs.drop word.length)
  go (s.length + 1) limit s.toList

/-- Splits on a separator, at most `limit` times. -/
def splitOn (s sep : String) (limit : Option Nat) : List String :=
  let parts := s.splitOn sep
  match limit with
  | none => parts
  | some k =>
    if parts.length <= k + 1 then parts
    else parts.take k ++ [sep.intercalate (parts.drop k)]

/-- Splits from the right on a separator, at most `limit` times. -/
def rsplitOn (s sep : String) (limit : Option Nat) : List String :=
  let parts := s.splitOn sep
  match limit with
  | none => parts
  | some k =>
    if parts.length <= k + 1 then parts
    else [sep.intercalate (parts.take (parts.length - k))] ++ parts.drop (parts.length - k)

/-- Splits from the right on runs of white space. -/
def rsplitWhitespace (s : String) (limit : Option Nat) : List String :=
  (splitWhitespace (String.ofList s.toList.reverse) limit).reverse.map
    fun w => String.ofList w.toList.reverse

/-- `str.splitlines(keepends)`. -/
def splitLines (s : String) (keep : Bool) : List String :=
  let rec go : Nat -> List Char -> List Char -> List String
    | 0, _, _ => []
    | _, acc, [] => if acc.isEmpty then [] else [String.ofList acc.reverse]
    | fuel + 1, acc, '\r' :: '\n' :: rest =>
      String.ofList (if keep then ('\n' :: '\r' :: acc).reverse else acc.reverse) :: go fuel [] rest
    | fuel + 1, acc, c :: rest =>
      if isLineBoundary c then
        String.ofList (if keep then (c :: acc).reverse else acc.reverse) :: go fuel [] rest
      else go fuel (c :: acc) rest
  go (s.length + 2) [] s.toList

/-- Strips characters from either end: white space, or the characters given. -/
def stripChars (s : String) (chars : Option String) (left right : Bool) : String :=
  let drop (c : Char) := match chars with
    | some cs => cs.contains c
    | none => isPySpace c
  let cs := s.toList
  let cs := if left then cs.dropWhile drop else cs
  let cs := if right then (cs.reverse.dropWhile drop).reverse else cs
  String.ofList cs

/-- Where a substring first occurs at or after a position, in characters. -/
def findFrom (hay needle : List Char) (start : Nat) : Option Nat :=
  let rec go : Nat -> Nat -> List Char -> Option Nat
    | 0, _, _ => none
    | fuel + 1, i, rest =>
      if needle.isPrefixOf rest then some i
      else match rest with
        | [] => none
        | _ :: more => go fuel (i + 1) more
  go (hay.length + 2) start (hay.drop start)

/-- Every place a substring occurs, without overlaps. -/
def occurrences (hay needle : List Char) : List Nat :=
  let rec go : Nat -> Nat -> List Nat
    | 0, _ => []
    | fuel + 1, from_ =>
      match findFrom hay needle from_ with
      | some i => i :: go fuel (i + Nat.max needle.length 1)
      | none => []
  go (hay.length + 2) 0

/-- Resolves start and end arguments of a search against a length, as slices do. -/
def sliceBounds (len : Nat) (start stop : Option Int) : Nat × Nat :=
  let fix (i : Int) : Nat := if i < 0 then (Int.toNat (i + len)) else Nat.min i.toNat len
  (fix (start.getD 0), fix (stop.getD len))

/-- An optional integer argument (`None` counts as absent). -/
def optInt (v : Option Value) : Run (Option Int) := do
  match v with
  | none | some .none => pure none
  | some x => some <$> intArg x

/-! ## Numbers from text -/

/-- The value of a digit character of any script, if it is one. -/
def digitOf (c : Char) : Option Nat :=
  if c.isDigit then some (c.toNat - '0'.toNat)
  else if pyDecimalTable.contains c then
    match pyDecimalTable.ranges.find? fun (lo, hi) => lo <= c.toNat && c.toNat <= hi with
    | some (lo, _) => some ((c.toNat - lo) % 10)
    | none => none
  else if 'a' <= c && c <= 'z' then some (c.toNat - 'a'.toNat + 10)
  else if 'A' <= c && c <= 'Z' then some (c.toNat - 'A'.toNat + 10)
  else none

/-- Reads an integer in a base (0: from its prefix), with underscores between digits. -/
def parseIntText (s : String) (base : Nat) : Option Int := do
  let cs := (stripChars s none true true).toList
  let (neg, cs) := match cs with
    | '-' :: rest => (true, rest)
    | '+' :: rest => (false, rest)
    | _ => (false, cs)
  let lowerPrefix := (cs.take 2).map Char.toLower
  let (base, cs) :=
    if (base == 16 || base == 0) && lowerPrefix == ['0', 'x'] then (16, cs.drop 2)
    else if (base == 8 || base == 0) && lowerPrefix == ['0', 'o'] then (8, cs.drop 2)
    else if (base == 2 || base == 0) && lowerPrefix == ['0', 'b'] then (2, cs.drop 2)
    else (if base == 0 then 10 else base, cs)
  let cs := if cs.head? == some '_' && lowerPrefix.length == 2 && base != 10 then cs.drop 1 else cs
  if cs.isEmpty || cs.head? == some '_' || cs.getLast? == some '_' then none
  let mut value : Nat := 0
  let mut lastUnderscore := false
  for c in cs do
    if c == '_' then
      if lastUnderscore then none
      lastUnderscore := true
    else
      lastUnderscore := false
      let d <- digitOf c
      if d >= base then none
      value := value * base + d
  pure (if neg then -(value : Int) else value)

/-- Reads a float as `float()` does: an optional sign, then digits with a point and exponent, or
`inf`, `infinity` or `nan` in any case. -/
def parseFloatText (s : String) : Option Float := do
  let t := stripChars s none true true
  let lower := String.ofList (t.toList.map Char.toLower)
  let (neg, body) := match lower.toList with
    | '-' :: rest => (true, String.ofList rest)
    | '+' :: rest => (false, String.ofList rest)
    | _ => (false, lower)
  let x <- if body == "inf" || body == "infinity" then some (1.0 / 0.0)
    else if body == "nan" then some (0.0 / 0.0)
    else
      let cs := body.toList
      if cs.isEmpty then none
      -- underscores only between digits
      let ok := (List.range cs.length).all fun i =>
        cs[i]? != some '_' || (((cs[i - 1]?).map Char.isDigit).getD false && i > 0 &&
          ((cs[i + 1]?).map Char.isDigit).getD false)
      if !ok then none
      let cs := cs.filter (· != '_')
      let valid := cs.all fun c => c.isDigit || c == '.' || c == 'e' || c == '+' || c == '-'
      if !valid then none
      let (x, read, rest) := Decimal.readDoublePrefix cs
      if !read || !rest.isEmpty then none
      some x
  pure (if neg then -x else x)

/-! ## Rounding -/

/-- `round(x)` of a float: the nearest integer, halves to even. -/
def roundFloatToInt (x : Float) : Run Int := do
  if x.isNaN then valueError "cannot convert float NaN to integer"
  if x.isInf then raiseException "OverflowError" "cannot convert float infinity to integer"
  let (m, e) := exactParts x
  let n := roundScaled m e 0
  pure (if x < 0 then -(n : Int) else n)

/-- `round(x, n)` of a float: rounded to `n` places, halves to even on the exact value. -/
def roundFloatPlaces (x : Float) (places : Int) : Float :=
  if x.isNaN || x.isInf || x == 0 then x
  else
    let a := if x < 0 then -x else x
    let (m, e) := exactParts a
    let n := roundScaled m e places
    let text := toString n ++ "e" ++ (if places > 0 then "-" else "") ++ toString places.natAbs
    let (r, _, _) := Decimal.readDoublePrefix text.toList
    if x < 0 then -r else r

/-- `round(n, places)` of an integer: with negative places, to tens, hundreds, ..., halves to
even. -/
def roundIntPlaces (n : Int) (places : Int) : Int :=
  if places >= 0 then n
  else
    let unit : Int := Int.pow 10 (-places).toNat
    let q := Int.fdiv n unit
    let r := n - q * unit
    let q := if 2 * r > unit || (2 * r == unit && q % 2 != 0) then q + 1 else q
    q * unit

/-! ## Formatting values -/

/-- `format(value, spec)` for the built-in kinds of value. -/
def formatValue (h : Host) (v : Value) (spec : String) : Run String := do
  let some fs := parseSpec spec | valueError "Invalid format specifier"
  let lift (r : Except String String) : Run String := match r with
    | .ok s => pure s
    | .error e => valueError e
  match v with
  | .int n => lift (formatInt fs n)
  | .bool b =>
    if spec.isEmpty then pure (if b then "True" else "False") else lift (formatInt fs (if b then 1 else 0))
  | .float x =>
    match fs.kind with
    | none | some 'e' | some 'E' | some 'f' | some 'F' | some 'g' | some 'G' | some 'n' | some '%' =>
      pure (formatFloat fs x)
    | some k => valueError ("Unknown format code '" ++ k.toString ++ "' for object of type 'float'")
  | .str s => lift (formatText fs s)
  | _ =>
    if spec.isEmpty then h.str v
    else typeError ("unsupported format string passed to " ++ (<- typeName v) ++ ".__format__")

/-- `str.format`: replacement fields `{}`, `{0}`, `{name}`, with attribute and index lookups,
conversions and specifications; `{{` and `}}` are braces. -/
def formatMethod (h : Host) (fmt : String) (args : List Value) (kwargs : List (String × Value)) :
    Run String := do
  let cs := fmt.toList
  let mut out : String := ""
  let mut i := 0
  let mut auto := 0
  for _ in [0:cs.length + 1] do
    match cs[i]? with
    | none => break
    | some '\x7b' =>
      if cs[i + 1]? == some '\x7b' then
        out := out.push '\x7b'
        i := i + 2
      else
        -- the field up to its closing brace, with nested braces in the specification
        let mut j := i + 1
        let mut depth := 1
        for _ in [0:cs.length + 1] do
          match cs[j]? with
          | some '\x7b' => depth := depth + 1; j := j + 1
          | some '\x7d' =>
            depth := depth - 1
            if depth == 0 then break
            j := j + 1
          | some _ => j := j + 1
          | none => break
        if cs[j]? != some '\x7d' then valueError "expected '\x7d' before end of string"
        let field := (cs.drop (i + 1)).take (j - i - 1)
        let nameEnd := field.findIdx (fun c => c == '!' || c == ':')
        let name := field.take nameEnd
        let rest := field.drop nameEnd
        let (conversion, spec) := match rest with
          | '!' :: c :: more => (some c, match more with
            | ':' :: s => s
            | _ => [])
          | ':' :: s => (none, s)
          | _ => (none, [])
        -- the argument and the lookups after it
        let first := name.takeWhile fun c => c != '.' && c != '['
        let lookups := name.drop first.length
        let mut value ← if first.isEmpty then do
            let v := args[auto]?
            auto := auto + 1
            match v with
            | some v => pure v
            | none => throw (.raised (← newException "IndexError"
                #[.str ("Replacement index " ++ toString (auto - 1) ++ " out of range for positional args tuple")]))
          else if first.all Char.isDigit then
            match args[(String.ofList first).toNat!]? with
            | some v => pure v
            | none => throw (.raised (← newException "IndexError"
                #[.str ("Replacement index " ++ String.ofList first ++ " out of range for positional args tuple")]))
          else
            match kwargs.lookup (String.ofList first) with
            | some v => pure v
            | none => throw (.raised (<- newException "KeyError" #[.str (String.ofList first)]))
        let mut k := 0
        for _ in [0:lookups.length + 1] do
          match lookups[k]? with
          | some '.' =>
            let attr := (lookups.drop (k + 1)).takeWhile fun c => c != '.' && c != '['
            value <- h.getAttr value (String.ofList attr)
            k := k + 1 + attr.length
          | some '[' =>
            let key := (lookups.drop (k + 1)).takeWhile (· != ']')
            let keyValue := if key.all Char.isDigit && !key.isEmpty then Value.int (String.ofList key).toNat!
              else Value.str (String.ofList key)
            value <- h.getItem value keyValue
            k := k + 2 + key.length
          | _ => break
        let converted <- match conversion with
          | some 'r' => do pure (Value.str (<- h.repr value))
          | some 's' => do pure (Value.str (<- h.str value))
          | some 'a' => do pure (Value.str (<- h.repr value))
          | some c => valueError ("Unknown conversion specifier " ++ c.toString)
          | none => pure value
        -- a specification may itself hold fields
        let spec ← if spec.contains '\x7b' then
            formatMethodSpec (String.ofList spec) args kwargs
          else pure (String.ofList spec)
        out := out ++ (<- formatValue h converted spec)
        i := j + 1
    | some '\x7d' =>
      if cs[i + 1]? == some '\x7d' then
        out := out.push '\x7d'
        i := i + 2
      else valueError "Single '\x7d' encountered in format string"
    | some c =>
      out := out.push c
      i := i + 1
  pure out
where
  /-- A specification with fields: each `{name}` or `{n}` is replaced by its argument's text. -/
  formatMethodSpec (spec : String) (args : List Value) (kwargs : List (String × Value)) : Run String := do
    let mut out := ""
    for part in spec.splitOn "\x7b" do
      match part.splitOn "\x7d" with
      | [name, tail] =>
        let v := if name.all Char.isDigit && !name.isEmpty then args[name.toNat!]? else kwargs.lookup name
        out := out ++ (← match v with
          | some v => h.str v
          | none => pure "") ++ tail
      | _ => out := out ++ part
    pure out

/-- `%`-formatting of text: the conversions `sraiduxXoeEfFgGc%` with flags, widths and
precisions (`*` from the arguments), and `%(name)s` from a mapping. -/
def percentFormat (h : Host) (fmt : String) (arg : Value) : Run String := do
  let (items, mapping) <- match arg with
    | .tuple xs => pure (xs.toList, none)
    | .ref r => do
      match <- getObj r with
      | .dict _ => pure ([arg], some arg)
      | _ => pure ([arg], none)
    | v => pure ([v], none)
  let cs := fmt.toList
  let mut out := ""
  let mut i := 0
  let mut next := 0
  for _ in [0:cs.length + 1] do
    match cs[i]? with
    | none => break
    | some '%' =>
      let mut j := i + 1
      let mut key : Option String := none
      if cs[j]? == some '(' then
        let name := (cs.drop (j + 1)).takeWhile (· != ')')
        key := some (String.ofList name)
        j := j + 2 + name.length
      let flags := (cs.drop j).takeWhile fun c => c == '-' || c == '+' || c == ' ' || c == '#' || c == '0'
      j := j + flags.length
      let mut width : Nat := 0
      let mut leftAlign := flags.contains '-'
      if cs[j]? == some '*' then
        let w <- match items[next]? with
          | some v => intArg v
          | none => typeError "not enough arguments for format string"
        next := next + 1
        if w < 0 then leftAlign := true
        width := w.natAbs
        j := j + 1
      else
        let ds := (cs.drop j).takeWhile Char.isDigit
        width := (String.ofList ds).toNat?.getD 0
        j := j + ds.length
      let mut precision : Option Nat := none
      if cs[j]? == some '.' then
        j := j + 1
        if cs[j]? == some '*' then
          let p <- match items[next]? with
            | some v => intArg v
            | none => typeError "not enough arguments for format string"
          next := next + 1
          precision := some p.toNat
          j := j + 1
        else
          let ds := (cs.drop j).takeWhile Char.isDigit
          precision := some ((String.ofList ds).toNat?.getD 0)
          j := j + ds.length
      -- length modifiers are accepted and ignored
      if cs[j]? == some 'l' || cs[j]? == some 'h' || cs[j]? == some 'L' then j := j + 1
      let conv <- match cs[j]? with
        | some c => pure c
        | none => valueError "incomplete format"
      if conv == '%' then
        out := out ++ "%"
        i := j + 1
        continue
      let value <- match key, mapping with
        | some k, some m => h.getItem m (.str k)
        | some _, none => typeError "format requires a mapping"
        | none, _ =>
          match items[next]? with
          | some v => pure v
          | none => typeError "not enough arguments for format string"
      if key.isNone then next := next + 1
      let signChar := if flags.contains '+' then '+' else if flags.contains ' ' then ' ' else '-'
      let alternate := flags.contains '#'
      let zeroPad := flags.contains '0' && !leftAlign
      let alignChar : Option Char := if leftAlign then some '<' else none
      let spec : FormatSpec :=
        { sign := signChar, alternate := alternate, zero := zeroPad, width := width,
          precision := precision, align := alignChar }
      let text <- match conv with
        | 's' => do
          let s <- h.str value
          pure (pad { spec with zero := false } '>' "" (match precision with
            | some p => String.ofList (s.toList.take p)
            | none => s))
        | 'r' | 'a' => do
          let s <- h.repr value
          pure (pad { spec with zero := false } '>' "" (match precision with
            | some p => String.ofList (s.toList.take p)
            | none => s))
        | 'd' | 'i' | 'u' => do
          let n <- match value with
            | .int n => pure n
            | .bool b => pure (if b then 1 else 0)
            | .float x => floatToInt x
            | other => typeError ("%" ++ conv.toString ++ " format: a real number is required, not " ++ (<- typeName other))
          match formatInt { spec with kind := some 'd' } n with
          | .ok s => pure s
          | .error e => valueError e
        | 'x' | 'X' | 'o' => do
          let n <- match value with
            | .int n => pure n
            | .bool b => pure (if b then 1 else 0)
            | other => typeError ("%" ++ conv.toString ++ " format: an integer is required, not " ++ (<- typeName other))
          match formatInt { spec with kind := some conv } n with
          | .ok s => pure s
          | .error e => valueError e
        | 'e' | 'E' | 'f' | 'F' | 'g' | 'G' => do
          let x <- match value with
            | .int n => pure (intToFloat n)
            | .bool b => pure (if b then 1.0 else 0.0)
            | .float x => pure x
            | other => typeError ("must be real number, not " ++ (<- typeName other))
          pure (formatFloat { spec with kind := some conv, precision := some (precision.getD 6) } x)
        | 'c' => do
          match value with
          | .int n => pure (pad spec '>' "" (Char.ofNat n.toNat).toString)
          | .str s => pure (pad spec '>' "" s)
          | _ => typeError "%c requires an int or a unicode character"
        | c => valueError ("unsupported format character '" ++ c.toString ++ "' (0x" ++
            hexPadded c.toNat 1 ++ ") at index " ++ toString j)
      out := out ++ text
      i := j + 1
    | some c =>
      out := out.push c
      i := i + 1
  if mapping.isNone && next < items.length then
    typeError "not all arguments converted during string formatting"
  pure out

end TranscriptTest.Python
