import TranscriptTest.Js.Builtin.Object
import TranscriptTest.Wire.JsonText

/-!
# `JSON`

`JSON.stringify` writes a value as JSON text: `toJSON` and a replacer function are applied
first, wrapped primitives are unwrapped, functions and `undefined` are left out of objects and
written as `null` in arrays, as are NaN and the infinities. A replacer that is an array lists
the only keys written of each object. With an indent, each member goes on a line of its own. A
structure that contains itself cannot be written.
-/

namespace TranscriptTest.Js

/-- A JSON string literal as scripts write it: escaped as on the wire, and a surrogate without
its partner as a `\uXXXX` escape in lower case, so that the text stays well formed. -/
def jsonQuote (s : String) : String :=
  "\"" ++ String.join (s.toList.map fun c => match standIn? c with
    | some u => "\\u" ++ Text.hexPadded 4 u
    | none => Wire.escapeChar c) ++ "\""

/-- Indentation: the gap for one level, and the current indentation. -/
structure JsonIndent where
  gap : String
  current : String

/-- The name of the constructor of an object, for the message about circular structures. -/
def ctorNameOf (ref : Nat) : Eval String := do
  let rec go : Nat -> Nat -> Eval String
    | 0, _ => pure "Object"
    | fuel + 1, r => do
      let o <- getObj r
      match o.findOwn? "constructor" with
      | some (.data (.obj c) _ _ _) =>
        match (<- getObj c).findOwn? "name" with
        | some (.data (.str n) _ _ _) => pure n
        | _ => pure "Object"
      | _ => match o.proto with
        | some p => go fuel p
        | none => pure "Object"
  go (<- heapBound) ref

/-- How a step of the path to an object is described. -/
def pathStep (key : String) (inArray : Bool) : String :=
  if inArray then "index " ++ key else "property '" ++ key ++ "'"

/-- The message for a structure that contains itself: the object the cycle starts at, the
steps around it, and the step that closes it. -/
def circularMessage (stack : List (Nat × String × Bool)) (target : Nat) (key : String) (inArray : Bool) :
    Eval String := do
  -- stack is innermost first: (object, key it was reached by, whether its holder is an array)
  let path := stack.reverse
  let fromStart := path.dropWhile (·.1 != target)
  match fromStart with
  | [] => pure "Converting circular structure to JSON"
  | (start, _, _) :: rest =>
    let mut lines := #["Converting circular structure to JSON",
      "    --> starting at object with constructor '" ++ (<- ctorNameOf start) ++ "'"]
    for (o, k, arr) in rest do
      lines := lines.push ("    |     " ++ pathStep k arr ++ " -> object with constructor '" ++ (<- ctorNameOf o) ++ "'")
    lines := lines.push ("    --- " ++ pathStep key inArray ++ " closes the circle")
    pure ("\n".intercalate lines.toList)

/-- What `JSON.stringify`'s second argument asks for: a function that replaces each value, or
a list of the only keys of objects to write. -/
structure JsonReplacer where
  fn : Option Value := none
  keys : Option (List String) := none

mutual

/-- The JSON text of `holder[key]`, or `none` when it is left out. -/
def jsonProperty : Nat -> Host -> JsonReplacer -> List (Nat × String × Bool) -> JsonIndent -> Value ->
    String -> Bool -> Value -> Eval (Option String)
  | 0, _, _, _, _, _, _, _, _ => raiseError .rangeError "Maximum call stack size exceeded"
  | fuel + 1, h, replacer, stack, ind, holder, key, inArray, v => do
    let withToJson (v : Value) : Eval Value := do
      let toJson <- h.get v "toJSON"
      if <- isCallable toJson then h.call toJson v [.str key] else pure v
    let v <- match v with
      | .obj _ => withToJson v
      | .bigint _ => withToJson v
      | _ => pure v
    let v <- match replacer.fn with
      | some f => h.call f holder [.str key, v]
      | none => pure v
    let v <- match v with
      | .obj r => match (<- getObj r).kind with
        | .boxed (.num _) => pure (.num (<- h.toNum v))
        | .boxed (.str _) => pure (.str (<- h.toStr v))
        | .boxed (.bool b) => pure (.bool b)
        | .boxed (.bigint n) => pure (.bigint n)
        | _ => pure v
      | _ => pure v
    match v with
    | .bigint _ => throwType "Do not know how to serialize a BigInt"
    | .symbol .. => pure none
    | .null => pure (some "null")
    | .bool b => pure (some (if b then "true" else "false"))
    | .str s => pure (some (jsonQuote s))
    | .num x => pure (some (if x.isNaN || x.isInf then "null" else numberText x))
    | .obj r =>
      let o <- getObj r
      if o.isCallable then return none
      if let .rawJson := o.kind then
        if let some (.data (.str t) _ _ _) := o.findOwn? "rawJSON" then return some t
      if stack.any (·.1 == r) then
        throwType (<- circularMessage stack r key inArray)
      let stack := (r, key, inArray) :: stack
      let inner : JsonIndent := ⟨ind.gap, ind.current ++ ind.gap⟩
      -- a proxy is an array when its target is
      match (<- getObj (<- proxyTarget proxyChain r)).kind with
      | .array _ =>
        let parts <- jsonItems fuel h replacer stack inner v (List.range (<- h.lengthOf v)) []
        if parts.isEmpty then pure (some "[]")
        else if ind.gap.isEmpty then pure (some ("[" ++ ",".intercalate parts ++ "]"))
        else
          let sep := ",\n" ++ inner.current
          pure (some ("[\n" ++ inner.current ++ sep.intercalate parts ++ "\n" ++ ind.current ++ "]"))
      | _ =>
        let keys <- match replacer.keys with
          | some ks => pure ks
          | none => h.enumerableKeysOf r
        let parts <- jsonMembers fuel h replacer stack inner v keys []
        if parts.isEmpty then pure (some "\x7b\x7d")
        else if ind.gap.isEmpty then pure (some ("\x7b" ++ ",".intercalate parts ++ "\x7d"))
        else
          let sep := ",\n" ++ inner.current
          pure (some ("\x7b\n" ++ inner.current ++ sep.intercalate parts ++ "\n" ++ ind.current ++ "\x7d"))
    | .undefined => pure none

/-- The JSON texts of an array's items; left-out items are `null`. -/
def jsonItems : Nat -> Host -> JsonReplacer -> List (Nat × String × Bool) -> JsonIndent -> Value ->
    List Nat -> List String -> Eval (List String)
  | 0, _, _, _, _, _, _, acc => pure acc.reverse
  | _ + 1, _, _, _, _, _, [], acc => pure acc.reverse
  | fuel + 1, h, replacer, stack, ind, arr, i :: rest, acc => do
    let v <- h.get arr (toString i)
    let t <- jsonProperty fuel h replacer stack ind arr (toString i) true v
    jsonItems fuel h replacer stack ind arr rest ((t.getD "null") :: acc)

/-- The `"key":value` members of an object; left-out values are skipped. -/
def jsonMembers : Nat -> Host -> JsonReplacer -> List (Nat × String × Bool) -> JsonIndent -> Value ->
    List String -> List String -> Eval (List String)
  | 0, _, _, _, _, _, _, acc => pure acc.reverse
  | _ + 1, _, _, _, _, _, [], acc => pure acc.reverse
  | fuel + 1, h, replacer, stack, ind, o, k :: rest, acc => do
    let v <- h.get o k
    match <- jsonProperty fuel h replacer stack ind o k false v with
    | some t =>
      let member := jsonQuote k ++ ":" ++ (if ind.gap.isEmpty then "" else " ") ++ t
      jsonMembers fuel h replacer stack ind o rest (member :: acc)
    | none => jsonMembers fuel h replacer stack ind o rest acc

end

/-- `JSON.stringify`. -/
def jsonStringify : NativeFn := fun h _ args _ => do
  let replacer <- match argAt args 1 with
    | .obj r =>
      let o <- getObj r
      if o.isCallable then pure { fn := some (Value.obj r) }
      else match o.kind with
        | .array items =>
          -- the keys listed: strings and numbers, wrapped or not, each once
          let mut keys : Array String := #[]
          for item in items do
            let key <- match item.getD .undefined with
              | .str s => pure (some s)
              | .num x => pure (some (numberText x))
              | .obj b => match (<- getObj b).kind with
                | .boxed (.str _) => pure (some (<- h.toStr (.obj b)))
                | .boxed (.num _) => pure (some (<- h.toStr (.obj b)))
                | _ => pure none
              | _ => pure none
            match key with
            | some k => if !keys.contains k then keys := keys.push k
            | none => pure ()
          pure { keys := some keys.toList }
        | _ => pure {}
    | _ => pure {}
  let space <- match argAt args 2 with
    | .obj b => match (<- getObj b).kind with
      | .boxed (.num _) => pure (Value.num (<- h.toNum (.obj b)))
      | .boxed (.str _) => pure (Value.str (<- h.toStr (.obj b)))
      | _ => pure (Value.obj b)
    | v => pure v
  let gap <- match space with
    | .num n => pure (String.ofList (List.replicate (min 10 (integerPart (max n 0))) ' '))
    | .str s => pure (String.ofList (s.toList.take 10))
    | _ => pure ""
  let wrapper <- newObject
  setField wrapper "" (argAt args 0)
  match <- jsonProperty 200 h replacer [] ⟨gap, ""⟩ (.obj wrapper) "" false (argAt args 0) with
  | some t => pure (.str t)
  | none => pure .undefined

/-! ## Reading JSON -/

/-- Why JSON text could not be read. -/
inductive JsonFault where
  | endOfInput
  | unexpected (c : Char) (pos : Nat)
  | unexpectedNumber (pos : Nat)
  | expectedName (pos : Nat)
  | expectedQuotedName (pos : Nat)
  | expectedColon (pos : Nat)
  | expectedCommaOrBrace (pos : Nat)
  | expectedCommaOrBracket (pos : Nat)
  | unterminatedString (pos : Nat)
  | badControl (pos : Nat)
  | badEscape (pos : Nat)
  | badUnicodeEscape (pos : Nat)
  | noDigitAfterMinus (pos : Nat)
  | missingExponent (pos : Nat)
  | unterminatedFraction (pos : Nat)
  | trailing (pos : Nat)

/-- The UTF-16 units of the first `pos` characters of a text: positions in messages count
units. -/
def unitOffset (cs : List Char) (pos : Nat) : Nat :=
  ((cs.take pos).map fun c => if c.toNat >= 0x10000 then 2 else 1).foldl (· + ·) 0

/-- The line and column of a place in JSON text, both from 1: a line break is a line feed, a
carriage return, or the two together. -/
def jsonLineColumn (cs : List Char) (pos : Nat) : Nat × Nat :=
  let rec go : List Char -> Nat -> Nat -> Nat -> Nat × Nat
    | [], _, line, col => (line, col)
    | _ :: _, 0, line, col => (line, col)
    | '\r' :: '\n' :: rest, n + 1, line, _ =>
      if n = 0 then (line + 1, 1) else go rest (n - 1) (line + 1) 1
    | c :: rest, n + 1, line, col =>
      if c == '\r' || c == '\n' then go rest n (line + 1) 1
      else go rest n line (col + (if c.toNat >= 0x10000 then 2 else 1))
  go cs pos 1 1

/-- The texts that are written whole in the message about an unexpected character. -/
def jsonSpecialTexts : List String := ["[object Object]", "undefined", "Infinity", "NaN"]

/-- The message of a JSON fault for a text. -/
def JsonFault.message (f : JsonFault) (text : String) : String :=
  let cs := text.toList
  let at_ (p : Nat) :=
    let (line, col) := jsonLineColumn cs p
    " at position " ++ toString (unitOffset cs p) ++ " (line " ++ toString line ++ " column " ++
      toString col ++ ")"
  let inJson (p : Nat) := " in JSON" ++ at_ p
  match f with
  | .endOfInput => "Unexpected end of JSON input"
  | .unexpected c pos =>
    let units := unitList text
    let len := units.length
    let upos := unitOffset cs pos
    let shown :=
      if len <= 20 then "\"" ++ text ++ "\""
      else
        let start := upos - min upos 10
        let stop := min len (upos + 10)
        let middle := ofUnits ((units.drop start).take (stop - start))
        (if start > 0 then "...\"" else "\"") ++ middle ++ (if stop < len then "\"..." else "\"")
    if jsonSpecialTexts.contains text then "\"" ++ text ++ "\" is not valid JSON"
    else "Unexpected token '" ++ String.singleton c ++ "', " ++ shown ++ " is not valid JSON"
  | .unexpectedNumber p => "Unexpected number" ++ inJson p
  | .expectedName p => "Expected property name or '\x7d'" ++ inJson p
  | .expectedQuotedName p => "Expected double-quoted property name" ++ inJson p
  | .expectedColon p => "Expected ':' after property name" ++ inJson p
  | .expectedCommaOrBrace p => "Expected ',' or '\x7d' after property value" ++ inJson p
  | .expectedCommaOrBracket p => "Expected ',' or ']' after array element" ++ inJson p
  | .unterminatedString p => "Unterminated string" ++ inJson p
  | .badControl p => "Bad control character in string literal" ++ inJson p
  | .badEscape p => "Bad escaped character" ++ inJson p
  | .badUnicodeEscape p => "Bad Unicode escape" ++ inJson p
  | .noDigitAfterMinus p => "No number after minus sign" ++ inJson p
  | .missingExponent p => "Exponent part is missing a number" ++ inJson p
  | .unterminatedFraction p => "Unterminated fractional number" ++ inJson p
  | .trailing p => "Unexpected non-whitespace character after JSON" ++ at_ p

/-- A JSON value as read, before it becomes script values. -/
inductive JsonTree where
  | null
  | bool (b : Bool)
  | num (x : Float)
  | str (s : String)
  | arr (items : List JsonTree)
  | obj (members : List (String × JsonTree))

/-- Skips JSON blanks. -/
def jsonBlanks (src : Array Char) (i : Nat) : Nat :=
  if h : i < src.size then
    let c := src[i]
    if c == ' ' || c == '\t' || c == '\n' || c == '\r' then jsonBlanks src (i + 1) else i
  else i
  termination_by src.size - i

/-- The place of the first of `n` characters from `i` that is not a hexadecimal digit. -/
def firstNonHex (src : Array Char) (i n : Nat) : Option Nat :=
  ((List.range n).find? fun k => !((digitValue (charAt src (i + k))).any (· < 16))).map (i + ·)

/-- Reads a JSON string's body after its quote: the text and where it ends. -/
def jsonString (src : Array Char) (i : Nat) (acc : List Char) : Except JsonFault (String × Nat) :=
  if h : i < src.size then
    let c := src[i]
    if c == '"' then .ok (String.ofList acc.reverse, i + 1)
    else if c.toNat < 0x20 then .error (.badControl i)
    else if c == '\\' then
      let e := charAt src (i + 1)
      let simple := if e == '"' then some '"' else if e == '\\' then some '\\' else if e == '/' then some '/'
        else if e == 'b' then some '\x08' else if e == 'f' then some '\x0C' else if e == 'n' then some '\n'
        else if e == 'r' then some '\r' else if e == 't' then some '\t' else none
      match simple with
      | some d => jsonString src (i + 2) (d :: acc)
      | none =>
        if i + 1 >= src.size then .error .endOfInput
        else if e == 'u' then
          match hexDigits src (i + 2) 4 with
          | some v =>
            let low := if charAt src (i + 6) == '\\' && charAt src (i + 7) == 'u' then hexDigits src (i + 8) 4 else none
            match low with
            | some w =>
              if 0xD800 ≤ v && v < 0xDC00 && 0xDC00 ≤ w && w < 0xE000 then
                jsonString src (i + 12) (Char.ofNat (0x10000 + (v - 0xD800) * 0x400 + (w - 0xDC00)) :: acc)
              else jsonString src (i + 6) (codePointChar v :: acc)
            | none => jsonString src (i + 6) (codePointChar v :: acc)
          | none => .error (.badUnicodeEscape ((firstNonHex src (i + 2) 4).getD (i + 2)))
        else if e.toNat > 0xFF then .error (.unexpected e (i + 1))
        else .error (.badEscape (i + 1))
    else jsonString src (i + 1) (c :: acc)
  else .error (.unterminatedString i)
  termination_by src.size - i

/-- Reads a JSON number at `i`: its value and where it ends. -/
def jsonNumber (src : Array Char) (i : Nat) : Except JsonFault (Float × Nat) :=
  let neg := charAt src i == '-'
  let j := if neg then i + 1 else i
  if !(charAt src j).isDigit then .error (.noDigitAfterMinus j)
  else if charAt src j == '0' && (charAt src (j + 1)).isDigit then .error (.unexpectedNumber (j + 1))
  else
    let intEnd := if charAt src j == '0' then j + 1 else (digitsFrom src 10 j []).2
    let (fracEnd, fracOk) :=
      if charAt src intEnd == '.' then
        let e := (digitsFrom src 10 (intEnd + 1) []).2
        (e, decide (e > intEnd + 1))
      else (intEnd, true)
    if !fracOk then .error (.unterminatedFraction fracEnd)
    else
      let (stop, expOk) :=
        if charAt src fracEnd == 'e' || charAt src fracEnd == 'E' then
          let k := if charAt src (fracEnd + 1) == '+' || charAt src (fracEnd + 1) == '-' then fracEnd + 2 else fracEnd + 1
          let e := (digitsFrom src 10 k []).2
          (e, decide (e > k))
        else (fracEnd, true)
      if !expOk then .error (.missingExponent stop)
      else .ok (textToNumber (slice src i stop), stop)

mutual

/-- Reads a JSON value at `i` (after blanks): the value and where it ends. -/
def jsonValue : Nat -> Array Char -> Nat -> Except JsonFault (JsonTree × Nat)
  | 0, _, i => .error (.unexpected ' ' i)
  | fuel + 1, src, i =>
    let i := jsonBlanks src i
    if i >= src.size then .error .endOfInput
    else
      let c := charAt src i
      let word (w : String) (v : JsonTree) : Except JsonFault (JsonTree × Nat) :=
        let cs := w.toList
        match (List.range cs.length).find? (fun k => charAt src (i + k) != cs[k]!) with
        | none => .ok (v, i + cs.length)
        | some k => if i + k >= src.size then .error .endOfInput else .error (.unexpected (charAt src (i + k)) (i + k))
      if c == '{' then jsonMembersFrom fuel src (i + 1) [] true
      else if c == '[' then jsonItemsFrom fuel src (i + 1) [] true
      else if c == '"' then (jsonString src (i + 1) []).map fun (s, j) => (.str s, j)
      else if c == '-' || c.isDigit then (jsonNumber src i).map fun (x, j) => (.num x, j)
      else if c == 't' then word "true" (.bool true)
      else if c == 'f' then word "false" (.bool false)
      else if c == 'n' then word "null" .null
      else .error (.unexpected c i)

/-- Reads array items after `[` or a comma. -/
def jsonItemsFrom : Nat -> Array Char -> Nat -> List JsonTree -> Bool -> Except JsonFault (JsonTree × Nat)
  | 0, _, i, _, _ => .error (.unexpected ' ' i)
  | fuel + 1, src, i, acc, first =>
    let i := jsonBlanks src i
    if first && charAt src i == ']' then .ok (.arr [], i + 1)
    else do
      let (v, j) <- jsonValue fuel src i
      let j := jsonBlanks src j
      let c := charAt src j
      if c == ',' then jsonItemsFrom fuel src (j + 1) (v :: acc) false
      else if c == ']' then .ok (.arr (v :: acc).reverse, j + 1)
      else .error (.expectedCommaOrBracket j)

/-- Reads object members after `{` or a comma. -/
def jsonMembersFrom : Nat -> Array Char -> Nat -> List (String × JsonTree) -> Bool ->
    Except JsonFault (JsonTree × Nat)
  | 0, _, i, _, _ => .error (.unexpected ' ' i)
  | fuel + 1, src, i, acc, first =>
    let i := jsonBlanks src i
    let c := charAt src i
    if first && c == '}' then .ok (.obj [], i + 1)
    else if c != '"' then .error (if first then .expectedName i else .expectedQuotedName i)
    else do
      let (k, j) <- jsonString src (i + 1) []
      let j := jsonBlanks src j
      if charAt src j != ':' then .error (.expectedColon j)
      else
        let (v, l) <- jsonValue fuel src (j + 1)
        let l := jsonBlanks src l
        let d := charAt src l
        if d == ',' then jsonMembersFrom fuel src (l + 1) ((k, v) :: acc) false
        else if d == '}' then .ok (.obj ((k, v) :: acc).reverse, l + 1)
        else .error (.expectedCommaOrBrace l)

end

/-- Reads a whole JSON text. -/
def readJson (text : String) : Except JsonFault JsonTree := do
  let src := text.toList.toArray
  let (v, j) <- jsonValue (4 * src.size + 8) src 0
  let j := jsonBlanks src j
  if j < src.size then .error (.trailing j) else pure v

/-- The script value of a JSON tree. -/
def JsonTree.toValue : Nat -> JsonTree -> Eval Value
  | 0, _ => pure .null
  | _ + 1, .null => pure .null
  | _ + 1, .bool b => pure (.bool b)
  | _ + 1, .num x => pure (.num x)
  | _ + 1, .str s => pure (.str s)
  | fuel + 1, .arr items => do
    let vs <- items.mapM (JsonTree.toValue fuel)
    newArray vs.toArray
  | fuel + 1, .obj members => do
    let ref <- newObject
    for (k, t) in members do
      defineData ref k (<- JsonTree.toValue fuel t) true true true
    pure (.obj ref)

/-- Passes `holder[key]` through a reviver, the values inside it first: an item or member the
reviver gives `undefined` for is deleted, any other answer replaces it. -/
def reviveProperty : Nat -> Host -> Value -> Value -> String -> Eval Value
  | 0, _, _, _, _ => raiseError .rangeError "Maximum call stack size exceeded"
  | fuel + 1, h, reviver, holder, key => do
    let v <- h.get holder key
    match v with
    | .obj r =>
      let keys <- match (<- getObj r).kind with
        | .array _ => pure ((List.range (<- h.lengthOf v)).map toString)
        | _ => ownEnumerableKeys r
      for k in keys do
        match <- reviveProperty fuel h reviver v k with
        | .undefined => let _ <- deleteProperty r k
        | nv => h.put v k nv
    | _ => pure ()
    h.call reviver holder [.str key, v]

/-- `JSON.parse`, with the values passed through the reviver when one is given. -/
def jsonParse : NativeFn := fun h _ args _ => do
  let text <- h.toStr (argAt args 0)
  match readJson text with
  | .ok t =>
    let v <- JsonTree.toValue (text.length + 2) t
    let reviver := argAt args 1
    if ← isCallable reviver then
      let root <- newObject
      setField root "" v
      reviveProperty (text.length + 2) h reviver (.obj root) ""
    else pure v
  | .error f => raiseError .syntaxError (f.message text)

/-- `JSON.rawJSON(text)`: an object `JSON.stringify` writes as the text itself. -/
def jsonRawJson : NativeFn := fun h _ args _ => do
  let text <- h.toStr (argAt args 0)
  let blank (c : Char) : Bool := c == '\t' || c == '\n' || c == '\r' || c == ' '
  let ends := text.toList.head?.any blank || text.toList.getLast?.any blank
  if text.isEmpty || ends then raiseError .syntaxError "Invalid value for JSON.rawJSON"
  match readJson text with
  | .error f => raiseError .syntaxError (f.message text)
  | .ok (.arr _) | .ok (.obj _) => raiseError .syntaxError "Invalid value for JSON.rawJSON"
  | .ok _ =>
    let ref <- alloc { kind := .rawJson, proto := none, extensible := false }
    defineData ref "rawJSON" (.str text) false true false
    pure (.obj ref)

/-- `JSON.isRawJSON(value)`: whether a value was made by `JSON.rawJSON`. -/
def jsonIsRawJson : NativeFn := fun _ _ args _ => do
  match argAt args 0 with
  | .obj r =>
    match (<- getObj r).kind with
    | .rawJson => pure (.bool true)
    | _ => pure (.bool false)
  | _ => pure (.bool false)

end TranscriptTest.Js
