import TranscriptTest.Python.Value
import TranscriptTest.Decimal.Format
import TranscriptTest.Python.Lexer

/-!
# The `json` module

`json.loads` reads JSON text into dictionaries, lists, strings, integers (of any size), floats,
booleans and `None`; it also takes `NaN`, `Infinity` and `-Infinity`, and a key given twice keeps
its last value. Errors are `JSONDecodeError`s whose message names what was expected and where:
`Expecting value: line 1 column 1 (char 0)`.
-/

namespace TranscriptTest.Python

open TranscriptTest.Decimal

/-- Where an offset of a text falls: its line and column, counted from one. -/
def lineColumn (cs : List Char) (offset : Nat) : Nat × Nat :=
  let before := cs.take offset
  let line := (before.filter (· == '\n')).length + 1
  let column := (before.reverse.takeWhile (· != '\n')).length + 1
  (line, column)

/-- Raises a `JSONDecodeError` for a message at an offset. -/
def jsonError {α : Type} (cs : List Char) (message : String) (offset : Nat) : Run α := do
  let (line, column) := lineColumn cs offset
  raiseException "JSONDecodeError" (message ++ ": line " ++ toString line ++ " column " ++
    toString column ++ " (char " ++ toString offset ++ ")")

/-- JSON whitespace. -/
def isJsonSpace (c : Char) : Bool :=
  c == ' ' || c == '\t' || c == '\n' || c == '\r'

/-- Skips whitespace from an offset. -/
def skipSpace (cs : Array Char) (i : Nat) : Nat :=
  let rec go : Nat -> Nat -> Nat
    | 0, j => j
    | fuel + 1, j => if (cs[j]?.map isJsonSpace).getD false then go fuel (j + 1) else j
  go (cs.size + 1) i

/-- Four hexadecimal digits at an offset. -/
def hex4 (cs : Array Char) (i : Nat) : Option Nat :=
  let ds := (List.range 4).map fun k => cs[i + k]?
  if ds.all Option.isSome then
    ds.foldl (fun acc d => match acc, d.bind hexDigit? with
      | some a, some v => some (a * 16 + v)
      | _, _ => none) (some 0)
  else none

/-- Reads a JSON string whose opening quote is at `start - 1`: the text and the offset after
the closing quote. -/
def jsonString (all : List Char) (cs : Array Char) (start : Nat) : Run (String × Nat) := do
  let mut i := start
  let mut out : List Char := []
  for _ in [0:cs.size + 1] do
    match cs[i]? with
    | none => jsonError all "Unterminated string starting at" (start - 1)
    | some '"' => return (String.ofList out.reverse, i + 1)
    | some '\\' =>
      match cs[i + 1]? with
      | some 'n' => out := '\n' :: out; i := i + 2
      | some 't' => out := '\t' :: out; i := i + 2
      | some 'r' => out := '\r' :: out; i := i + 2
      | some 'b' => out := '\x08' :: out; i := i + 2
      | some 'f' => out := '\x0c' :: out; i := i + 2
      | some '/' => out := '/' :: out; i := i + 2
      | some '\\' => out := '\\' :: out; i := i + 2
      | some '"' => out := '"' :: out; i := i + 2
      | some 'u' =>
        match hex4 cs (i + 2) with
        | none => jsonError all "Invalid \\uXXXX escape" (i + 1)
        | some u =>
          if 0xD800 ≤ u && u < 0xDC00 && cs[i + 6]? == some '\\' && cs[i + 7]? == some 'u' then
            match hex4 cs (i + 8) with
            | some lo =>
              if 0xDC00 ≤ lo && lo < 0xE000 then
                out := Char.ofNat (0x10000 + (u - 0xD800) * 0x400 + (lo - 0xDC00)) :: out
                i := i + 12
              else
                out := '�' :: out
                i := i + 6
            | none =>
              out := '�' :: out
              i := i + 6
          else
            out := (if 0xD800 <= u && u < 0xE000 then '�' else Char.ofNat u) :: out
            i := i + 6
      | _ => jsonError all "Invalid \\escape" i
    | some c =>
      if c.toNat < 0x20 then jsonError all "Invalid control character at" i
      out := c :: out
      i := i + 1
  jsonError all "Unterminated string starting at" (start - 1)

/-- Reads a JSON number at an offset: an integer when it has no fraction or exponent. -/
def jsonNumber (cs : Array Char) (start : Nat) : Option (Value × Nat) :=
  let rest := (cs.toList.drop start)
  let (neg, body) := match rest with
    | '-' :: more => (true, more)
    | _ => (false, rest)
  let whole := body.takeWhile Char.isDigit
  if whole.isEmpty then none
  else
    let whole := if whole.headD '0' == '0' then ['0'] else whole
    let after := body.drop whole.length
    let fraction := match after with
      | '.' :: more => let ds := more.takeWhile Char.isDigit; if ds.isEmpty then [] else '.' :: ds
      | _ => []
    let after := after.drop fraction.length
    let exponent := match after with
      | e :: more =>
        if e == 'e' || e == 'E' then
          let (sign, more') := match more with
            | '+' :: m => (['+'], m)
            | '-' :: m => (['-'], m)
            | _ => ([], more)
          let ds := more'.takeWhile Char.isDigit
          if ds.isEmpty then [] else e :: sign ++ ds
        else []
      | [] => []
    let length := (if neg then 1 else 0) + whole.length + fraction.length + exponent.length
    if fraction.isEmpty && exponent.isEmpty then
      let n : Int := (String.ofList whole).toNat!
      some (.int (if neg then -n else n), start + length)
    else
      let (x, _, _) := readDoublePrefix (whole ++ fraction ++ exponent)
      some (.float (if neg then -x else x), start + length)

/-- Puts a key into dictionary entries: a key already there keeps its place and takes the new
value. -/
def putEntry (entries : Array (Value × Value)) (k : String) (v : Value) : Array (Value × Value) :=
  match entries.findIdx? (fun (key, _) => match key with
    | .str s => s == k
    | _ => false) with
  | some i => entries.set! i (.str k, v)
  | none => entries.push (.str k, v)

/-- Reads one JSON value at an offset: the value and the offset after it. -/
def jsonValue (all : List Char) (cs : Array Char) : Nat -> Nat -> Run (Value × Nat)
  | 0, i => jsonError all "Expecting value" i
  | fuel + 1, i => do
    let i := skipSpace cs i
    match cs[i]? with
    | some '"' =>
      let (s, j) <- jsonString all cs (i + 1)
      pure (.str s, j)
    | some '\x7b' =>
      let mut entries : Array (Value × Value) := #[]
      let mut j := skipSpace cs (i + 1)
      if cs[j]? == some '\x7d' then
        return (.ref (<- alloc (.dict #[])), j + 1)
      for _ in [0:cs.size + 1] do
        if cs[j]? != some '"' then
          jsonError all "Expecting property name enclosed in double quotes" j
        let (k, after) <- jsonString all cs (j + 1)
        let colon := skipSpace cs after
        if cs[colon]? != some ':' then jsonError all "Expecting ':' delimiter" colon
        let (v, after) <- jsonValue all cs fuel (colon + 1)
        entries := putEntry entries k v
        let next := skipSpace cs after
        match cs[next]? with
        | some ',' => j := skipSpace cs (next + 1)
        | some '\x7d' => return (.ref (<- alloc (.dict entries)), next + 1)
        | _ => jsonError all "Expecting ',' delimiter" next
      jsonError all "Expecting value" j
    | some '[' =>
      let mut items : Array Value := #[]
      let mut j := skipSpace cs (i + 1)
      if cs[j]? == some ']' then
        return (.ref (<- alloc (.list #[])), j + 1)
      for _ in [0:cs.size + 1] do
        let (v, after) <- jsonValue all cs fuel j
        items := items.push v
        let next := skipSpace cs after
        match cs[next]? with
        | some ',' => j := skipSpace cs (next + 1)
        | some ']' => return (.ref (<- alloc (.list items)), next + 1)
        | _ => jsonError all "Expecting ',' delimiter" next
      jsonError all "Expecting value" j
    | _ =>
      let rest := cs.toList.drop i
      let word (w : String) := w.toList.isPrefixOf rest
      if word "null" then pure (.none, i + 4)
      else if word "true" then pure (.bool true, i + 4)
      else if word "false" then pure (.bool false, i + 5)
      else if word "NaN" then pure (.float (0.0 / 0.0), i + 3)
      else if word "Infinity" then pure (.float (1.0 / 0.0), i + 8)
      else if word "-Infinity" then pure (.float (-1.0 / 0.0), i + 9)
      else match jsonNumber cs i with
        | some r => pure r
        | none => jsonError all "Expecting value" i

/-- How deep JSON values may nest. -/
def jsonDepth : Nat := 1000

/-- `json.loads(text)`. -/
def jsonLoads (text : String) : Run Value := do
  let all := text.toList
  let cs := all.toArray
  let (v, j) <- jsonValue all cs jsonDepth 0
  let end_ := skipSpace cs j
  if end_ < cs.size then jsonError all "Extra data" end_
  pure v

/-- A string as JSON writes it: quoted, with `"`, `\` and control characters escaped, and,
when `ascii`, every character outside ASCII as `\uXXXX` (a surrogate pair beyond the basic
plane). -/
def jsonQuote (ascii : Bool) (s : String) : String :=
  let esc (c : Char) : String :=
    if c == '"' then "\\\"" else if c == '\\' then "\\\\"
    else if c == '\n' then "\\n" else if c == '\r' then "\\r" else if c == '\t' then "\\t"
    else if c == '\x08' then "\\b" else if c == '\x0c' then "\\f"
    else if c.toNat < 0x20 then "\\u" ++ hexPadded c.toNat 4
    else if ascii && c.toNat > 0x7E then
      if c.toNat ≥ 0x10000 then
        let v := c.toNat - 0x10000
        "\\u" ++ hexPadded (0xD800 + v / 0x400) 4 ++ "\\u" ++ hexPadded (0xDC00 + v % 0x400) 4
      else "\\u" ++ hexPadded c.toNat 4
    else c.toString
  "\"" ++ String.join (s.toList.map esc) ++ "\""

/-- A float as JSON writes it. -/
def jsonFloat (x : Float) : String :=
  if x.isNaN then "NaN" else if x.isInf then (if x > 0 then "Infinity" else "-Infinity")
  else floatRepr x

/-- The settings of `json.dumps`. -/
structure DumpOptions where
  indent : Option String := none
  itemSep : String := ", "
  keySep : String := ": "
  sortKeys : Bool := false
  ascii : Bool := true
  deriving Inhabited

/-- The text of a dictionary key. -/
def jsonKey (k : Value) : Run String := do
  match k with
  | .str s => pure s
  | .int n => intText n
  | .float x => pure (jsonFloat x)
  | .bool b => pure (if b then "true" else "false")
  | .none => pure "null"
  | other => typeError ("keys must be str, int, float, bool or None, not " ++ (<- typeName other))

/-- Writes a value as JSON at a nesting level. -/
def jsonDump (o : DumpOptions) : Nat -> Nat -> Value -> Run String
  | 0, _, _ => valueError "Circular reference detected"
  | fuel + 1, level, v => do
    let open_ (bracket : String) (parts : List String) (close : String) : String :=
      if parts.isEmpty then bracket ++ close
      else match o.indent with
        | none => bracket ++ o.itemSep.intercalate parts ++ close
        | some ind =>
          let inner := "\n" ++ String.join (List.replicate (level + 1) ind)
          let outer := "\n" ++ String.join (List.replicate level ind)
          bracket ++ inner ++ (o.itemSep ++ inner).intercalate parts ++ outer ++ close
    match v with
    | .none => pure "null"
    | .bool b => pure (if b then "true" else "false")
    | .int n => intText n
    | .float x => pure (jsonFloat x)
    | .str s => pure (jsonQuote o.ascii s)
    | .tuple items =>
      pure (open_ "[" (<- items.toList.mapM (jsonDump o fuel (level + 1))) "]")
    | .ref r =>
      match <- getObj r with
      | .list items => pure (open_ "[" (<- items.toList.mapM (jsonDump o fuel (level + 1))) "]")
      | .dict entries =>
        let keyed <- entries.toList.mapM fun (k, v) => do pure (<- jsonKey k, v)
        let keyed := if o.sortKeys then keyed.toArray.qsort (fun a b => a.1 < b.1) |>.toList
          else keyed
        let parts ← keyed.mapM fun (k, v) => do
          pure (jsonQuote o.ascii k ++ o.keySep ++ (<- jsonDump o fuel (level + 1) v))
        pure (open_ "\x7b" parts "\x7d")
      | _ => typeError ("Object of type " ++ (<- typeName v) ++ " is not JSON serializable")
    | _ => typeError ("Object of type " ++ (<- typeName v) ++ " is not JSON serializable")

end TranscriptTest.Python
