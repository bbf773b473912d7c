import TranscriptTest.Js.Object
import TranscriptTest.Js.Builtin.Date

/-!
# Inspecting values

The debugging text of a value, used when a value's own text cannot be computed. Strings are
quoted, functions show their name, objects list their enumerable properties as `key: value`,
arrays their items with runs of holes counted, up to two levels deep; deeper objects show as
`[Object]` or `[Array]`, and an object met again inside itself as `[Circular *n]`, the object
itself then starting with `<ref *n>`.
-/

namespace TranscriptTest.Js

/-- The width inspection keeps lines within. -/
def breakLength : Nat := 80

/-- At most this many items of an array, a map or a set are listed. -/
def listedItems : Nat := 100

/-- Spaces. -/
def spaces (n : Nat) : String := String.ofList (List.replicate n ' ')

/-- How a character is written in a quoted string: controls and U+007F to U+009F as `\xHH` or
their short escapes, and a lone surrogate as `\uXXXX` in lower case. -/
def inspectEscape (quote : Char) (c : Char) : String :=
  if c == quote then "\\" ++ String.singleton c
  else if c == '\\' then "\\\\"
  else if c == '\n' then "\\n"
  else if c == '\t' then "\\t"
  else if c == '\r' then "\\r"
  else if c == '\x08' then "\\b"
  else if c == '\x0C' then "\\f"
  else if c.toNat < 0x20 || (0x7F ≤ c.toNat && c.toNat < 0xA0) then
    let h := Nat.toDigits 16 c.toNat
    "\\x" ++ (String.ofList (List.replicate (2 - h.length) '0' ++ h)).toUpper
  else match standIn? c with
    | some u => "\\u" ++ String.ofList (Nat.toDigits 16 u)
    | none => String.singleton c

/-- A string quoted the way inspection shows it: single quotes, or double quotes when the text
holds a single quote and no double quote, or backquotes when it holds both but no backquote and
no `${`. -/
def inspectQuote (s : String) : String :=
  let quote := if !(s.contains '\'') then '\''
    else if !(s.contains '"') then '"'
    else if !(s.contains '\x60') && (s.splitOn "$\x7b").length == 1 then '\x60'
    else '\''
  String.singleton quote ++ String.join (s.toList.map (inspectEscape quote)) ++ String.singleton quote

/-- The longest string shown whole; the units after these are only counted. -/
def maxStringLength : Nat := 10000

/-- A string inside an inspected object: quoted, and when longer than 16 units and the room
left, cut after each line break into quoted pieces joined by ` +`. -/
def inspectString (s : String) (indent : Nat) : String :=
  let total := unitLength s
  let (s, trailer) :=
    if total > maxStringLength then
      let left := total - maxStringLength
      (String.ofList (decodeUnits ((unitList s).take maxStringLength)),
        "... " ++ toString left ++ " more character" ++ (if left > 1 then "s" else ""))
    else (s, "")
  let len := min total maxStringLength
  if len > 16 && len + indent + 4 > breakLength then
    let pieces := (s.splitOn "\n").dropLast.map (· ++ "\n") ++ [(s.splitOn "\n").getLastD ""]
    let pieces := pieces.filter (!·.isEmpty)
    let pieces := if pieces.isEmpty then [""] else pieces
    (" +\n" ++ spaces (indent + 2)).intercalate (pieces.map inspectQuote) ++ trailer
  else inspectQuote s ++ trailer

/-- Whether a key prints without quotes: an ASCII letter or underscore, then letters, digits and
underscores. -/
def isPlainKey (k : String) : Bool :=
  let letter (c : Char) := ('a' <= c && c <= 'z') || ('A' <= c && c <= 'Z') || c == '_'
  match k.toList with
  | c :: rest => letter c && rest.all (fun c => letter c || c.isDigit)
  | [] => false

/-- A key as inspection shows it: a symbol's key as the symbol in brackets. -/
def inspectKey (k : String) : String :=
  match keySymbol? k with
  | some v => "[" ++ v.primitiveText ++ "]"
  | none => if isPlainKey k then k else inspectQuote k

/-- The name a function object carries. -/
def functionName (o : Obj) : String :=
  match o.findOwn? "name" with
  | some (.data (.str n) _ _ _) => n
  | _ => ""

/-- The name of the constructor an object was made by, found through its prototypes. -/
def constructorName : Nat -> Nat -> Eval (Option String)
  | 0, _ => pure none
  | fuel + 1, ref => do
    let o <- getObj ref
    let own <- match o.findOwn? "constructor" with
      | some (.data (.obj c) _ _ _) =>
        let co <- getObj c
        let n := functionName co
        pure (if co.isCallable && !n.isEmpty then some n else none)
      | _ => pure none
    match own with
    | some n => pure (some n)
    | none => match o.proto with
      | some p => constructorName fuel p
      | none => pure none

/-- The words before an object's brackets: its constructor's name, a size for collections, a tag
unlike the name; without prototype, the kind with `null prototype`. -/
def kindPrefix (ctor : Option String) (tag fallback size : String) : String :=
  match ctor with
  | none =>
    if tag != "" && tag != fallback then "[" ++ fallback ++ size ++ ": null prototype] [" ++ tag ++ "] "
    else "[" ++ fallback ++ size ++ ": null prototype] "
  | some c => if tag != "" && tag != c then c ++ size ++ " [" ++ tag ++ "] " else c ++ size ++ " "

/-! ## Errors -/

/-- Where `needle` first occurs in `hay` at or after `start`, counting characters. -/
def indexFrom (hay needle : List Char) (start : Nat) : Option Nat :=
  go (hay.drop start) start (hay.length + 1)
where
  go : List Char -> Nat -> Nat -> Option Nat
    | _, _, 0 => none
    | cs, i, fuel + 1 =>
      if needle.isPrefixOf cs then some i
      else match cs with
        | [] => none
        | _ :: rest => go rest (i + 1) fuel

/-- Whether `needle` occurs in `hay`. -/
def containsText (hay needle : String) : Bool :=
  (indexFrom hay.toList needle.toList 0).isSome

/-- The name a stack trace without a prototype starts with: a capitalised word (spaces,
brackets and dashes allowed) before `:` or before the first frame, or a whole text ending in
`Error`. -/
def leadingErrorName (stack : String) : String :=
  let cs := stack.toList
  let inClass (c : Char) : Bool := c.isAlphanum || c == '_' || c == ' ' || c == '[' || c == ']' ||
    c == '(' || c == ')' || c == '-'
  let word := cs.takeWhile inClass
  let rest := cs.drop word.length
  let framed := match rest with
    | ':' :: _ => true
    | '\n' :: more =>
      let blank := more.takeWhile Char.isWhitespace
      !blank.isEmpty && (more.drop blank.length).take 2 == ['a', 't']
    | _ => false
  match word with
  | c :: _ :: _ => if c.isUpper && framed then String.ofList word
    else if rest.isEmpty && stack.endsWith "Error" && word.all fun c => c != ' ' && c != '[' && c != ']' && c != '(' && c != ')'
    then stack else ""
  | _ => if rest.isEmpty && stack.endsWith "Error" then stack else ""

/-- The stack as inspection shows it when the error's name or maker is not the one its text
starts with: the maker's name goes first, with the error's name in brackets when it is not part
of it. -/
def improveStack (stack : String) (ctor : Option String) (name tag : String) : String :=
  let len := name.length
  let nextIsEnd := match stack.toList.drop len with
    | [] => true
    | ':' :: _ => true
    | '\n' :: _ => true
    | _ => false
  if ctor.isNone || (name.endsWith "Error" && stack.startsWith name && nextIsEnd) then
    let (fallback, len) := match ctor with
      | none =>
        let found := leadingErrorName stack
        (if found.isEmpty then "Error" else found, found.length)
      | some _ => ("Error", len)
    let pre := String.ofList (kindPrefix ctor tag fallback "").toList.dropLast
    let rest := String.ofList (stack.toList.drop len)
    if name == pre then stack
    else if containsText pre name then
      if len == 0 then pre ++ ": " ++ stack else pre ++ rest
    else pre ++ " [" ++ name ++ "]" ++ rest
  else stack

/-- The longest run of four or more lines two traces share, where the first has a line more than
three from its end: its length and start in the first. -/
def sharedFrames (a b : List String) : Nat × Nat :=
  go a 0 (a.length - 3)
where
  go : List String -> Nat -> Nat -> Nat × Nat
    | _, _, 0 => (0, 0)
    | [], _, _ => (0, 0)
    | x :: xs, i, fuel + 1 =>
      match b.idxOf? x with
      | some pos =>
        let restB := b.drop pos
        if restB.length > 3 then
          let len := ((x :: xs).zip restB).takeWhile (fun (p, q) => p == q) |>.length
          if len > 3 then (len, i) else go xs (i + 1) fuel
        else go xs (i + 1) fuel
      | none => go xs (i + 1) fuel

/-- The frames of a trace, with a run shared with the trace of the error's cause folded into one
line that counts it. -/
def foldCauseFrames (frames : List String) (causeStack : Option String) : List String :=
  match causeStack with
  | none => frames
  | some cs =>
    match indexFrom cs.toList "\n    at".toList 0 with
    | none => frames
    | some start =>
      let causeFrames := (String.ofList (cs.toList.drop (start + 1))).splitOn "\n"
      let (len, offset) := sharedFrames frames causeFrames
      if len > 0 then
        let skipped := len - 2
        frames.take (offset + 1) ++
          ["    ... " ++ toString skipped ++ " lines matching cause stack trace ..."] ++
          frames.drop (offset + 1 + skipped)
      else frames

/-- An error's stack as inspection shows it: improved as `improveStack` says, in brackets when
it has no frames, and indented to where it stands. -/
def errorStackText (stack : String) (ctor : Option String) (name tag : String)
    (message : Option String) (causeStack : Option String) (indent : Nat) : String :=
  let stack := improveStack stack ctor name tag
  let cs := stack.toList
  let pos := match message with
    | some m =>
      if m.isEmpty then 0
      else match indexFrom cs m.toList 0 with
        | some 0 | none => 0
        | some i => i + m.length
    | none => 0
  let shown := match indexFrom cs "\n    at".toList pos with
    | none => "[" ++ stack ++ "]"
    | some start =>
      let head := String.ofList (cs.take start)
      let frames := (String.ofList (cs.drop (start + 1))).splitOn "\n"
      head ++ "\n" ++ "\n".intercalate (foldCauseFrames frames causeStack)
  if indent == 0 then shown else shown.replace "\n" ("\n" ++ spaces indent)

/-- What stands for an object that lies too deep to be listed. -/
def tooDeepText (ctor : Option String) (tag : String) : String :=
  let p := kindPrefix ctor tag "Object" ""
  let p := String.ofList (p.toList.dropLast)
  match ctor with
  | none => p
  | some _ => "[" ++ p ++ "]"

/-- The text for a run of holes in an array. -/
def holeEntry (n : Nat) : String :=
  "<" ++ toString n ++ " empty item" ++ (if n == 1 then "" else "s") ++ ">"

/-- The text for items left out of a long list. -/
def moreItems (n : Nat) : String :=
  "... " ++ toString n ++ " more item" ++ (if n == 1 then "" else "s")

/-- Pads a text with spaces to a width, on the left or on the right. -/
def padTo (left : Bool) (width : Nat) (s : String) : String :=
  let gap := spaces (width - unitLength s)
  if left then gap ++ s else s ++ gap

/-- Sets an array's entries in rows of aligned columns when three or more short entries fit side
by side and none is far longer; `padLeft` aligns them right, as for numbers. -/
def groupRows (output : List String) (indent : Nat) (padLeft : Bool) : List String :=
  let total := output.length
  let counted := if listedItems < total then total - 1 else total
  let shown := output.take counted
  let dataLen := shown.map unitLength
  let totalLength := (dataLen.map (· + 2)).foldl (· + ·) 0
  let maxLength := dataLen.foldl max 0
  let actualMax := maxLength + 2
  if actualMax * 3 + indent < breakLength &&
      (totalLength.toFloat / actualMax.toFloat > 5 || maxLength ≤ 6) then
    let averageBias := Float.sqrt (actualMax.toFloat - totalLength.toFloat / total.toFloat)
    let biasedMax := max (actualMax.toFloat - 3 - averageBias) 1
    let square := (Float.sqrt (2.5 * biasedMax * counted.toFloat) / biasedMax + 0.5).floor
    let columns := min (min square.toUInt64.toNat ((breakLength - indent) / actualMax)) (min 12 15)
    if columns <= 1 then output
    else
      let widths := (List.range columns).map fun i =>
        ((List.range counted).filter (· % columns == i)).foldl (fun m j => max m (dataLen.getD j 0)) 0 + 2
      let rows := (List.range ((counted + columns - 1) / columns)).map fun r =>
        let cells := (shown.drop (r * columns)).take columns
        let n := cells.length
        String.join (cells.zipIdx.map fun (cell, k) =>
          if k + 1 < n then padTo padLeft (widths.getD k 0) (cell ++ ", ")
          else if padLeft then padTo true (widths.getD k 0 - 2) cell
          else cell)
      rows ++ (if listedItems < total then output.drop counted else [])
  else output

/-- Whether entries fit on one line that starts `start` columns in, as inspection counts it:
each entry with its separator, and no line break in `base`. -/
def fitsOnLine (output : List String) (start : Nat) (base : String) : Bool :=
  let first := output.length + start
  first + output.length <= breakLength &&
    first + (output.map unitLength).foldl (· + ·) 0 <= breakLength &&
    (base.isEmpty || !(base.contains '\n'))

/-- Lays out an object's entries between its brackets, after `base`: on one line when `flat`
allows it and the line fits, else one entry a line. -/
def layoutEntries (base opening closing : String) (output : List String) (indent : Nat)
    (isArray flat padLeft : Bool) : String :=
  let entries := output.length
  let grouped := if isArray && entries > 6 then groupRows output indent padLeft else output
  let prefixText := if base.isEmpty then "" else base ++ " "
  let start := grouped.length + indent + unitLength opening + unitLength base + 10
  let joined := ", ".intercalate grouped
  if flat && entries == grouped.length && fitsOnLine grouped start base && !(joined.contains '\n') then
    prefixText ++ opening ++ " " ++ joined ++ " " ++ closing
  else
    let pad := "\n" ++ spaces indent
    prefixText ++ opening ++ pad ++ "  " ++ (("," ++ pad ++ "  ").intercalate grouped) ++ pad ++ closing

/-- What inspecting carries from one part of a value to the next. -/
structure InspectState where
  /-- One more than the level of the last object whose entries were listed. -/
  current : Nat := 0
  /-- The objects met again inside themselves, in the order they were met; the first is `*1`. -/
  circular : List Nat := []
  /-- How many levels of objects are listed; deeper ones are only named. -/
  depth : Nat := 2

/-- The number an object met inside itself goes by. -/
def InspectState.circularIndex (st : InspectState) (ref : Nat) : Option Nat :=
  (st.circular.idxOf? ref).map (· + 1)

/-- How an object's entries are listed: an array's items, a map's or a set's entries, or only
its properties. -/
inductive Listing where
  | items (xs : Array (Option Value))
  | entries (es : List (Value × Option Value))
  /-- Entries already written out, as for the bytes of a buffer. -/
  | texts (ts : List String)
  | props

/-- The text of a function before any properties: `[Function: name]` or `[class Name]`, with
`extends` and the parent's name for a derived class. -/
def functionBase (ref : Nat) (o : Obj) (ctor : Option String) : Eval String := do
  let name := functionName o
  match o.kind with
  | .closure _ _ (.classCtor _) _ _ =>
    let parentName <- match o.proto with
      | some p => pure (functionName (<- getObj p))
      | none => pure ""
    let _ := ref
    let shown := if name.isEmpty then "(anonymous)" else name
    let nullNote := if ctor.isNone then " extends [null prototype]" else ""
    let extendsNote := if ctor.isSome && !parentName.isEmpty then " extends " ++ parentName else ""
    pure ("[class " ++ shown ++ extendsNote ++ nullNote ++ "]")
  | _ =>
    let kind := match o.kind with
      | .closure fn .. =>
        if fn.isGenerator then (if fn.isAsync then "AsyncGeneratorFunction" else "GeneratorFunction")
        else if fn.isAsync then "AsyncFunction" else "Function"
      | _ => "Function"
    let nullNote := if ctor.isNone then " (null prototype)" else ""
    pure ("[" ++ kind ++ nullNote ++ (if name.isEmpty then " (anonymous)" else ": " ++ name) ++ "]")

mutual

/-- The inspection text of a value `level` objects deep, `indent` columns in; `seen` holds the
objects being listed around it. -/
def inspectAt : Nat -> Value -> Nat -> Nat -> List Nat -> InspectState -> Eval (String × InspectState)
  | 0, _, _, _, _, st => pure ("[Object]", st)
  | fuel + 1, v, level, indent, seen, st =>
    match v with
    | .str s => pure (inspectString s indent, st)
    | .num x => pure (if isNegZero x then "-0" else numberText x, st)
    | .bigint n => pure (toString n ++ "n", st)
    | .obj ref => inspectObject fuel ref level indent seen st
    | _ => pure (v.primitiveText, st)

/-- The inspection text of an object. -/
def inspectObject : Nat -> Nat -> Nat -> Nat -> List Nat -> InspectState -> Eval (String × InspectState)
  | 0, _, _, _, _, st => pure ("[Object]", st)
  | fuel + 1, ref, level, indent, seen, st => do
    if seen.contains ref then
      let st := if st.circular.contains ref then st else { st with circular := st.circular ++ [ref] }
      return ("[Circular *" ++ toString ((st.circularIndex ref).getD 1) ++ "]", st)
    let o <- getObj ref
    -- a proxy shows as its target
    if let .proxy target _ _ revoked := o.kind then
      return ← (if revoked then pure ("<Revoked Proxy>", st)
        else inspectObject fuel target level indent seen st)
    let ctor <- if o.proto.isNone then pure none
      else pure (some ((<- constructorName (<- heapBound) ref).getD "Object"))
    let symbolKeys := (<- ownSymbolKeys ref).filter fun k => match ownSlot? o k with
      | some sl => sl.enumerable
      | none => false
    let keys := (<- ownEnumerableKeys ref) ++ symbolKeys
    let plainKeys := keys.filter fun k => (arrayIndex? k).isNone && k != "length"
    -- the tag is the object's `Symbol.toStringTag`, unless it is a listed property of its own
    let tagKey := wellKnownKey "toStringTag"
    let ownTag := match ownSlot? o tagKey with
      | some sl => sl.enumerable
      | none => false
    let tag <- match o.kind with
      | .iterator _ _ t | .walker _ _ _ t => pure t
      | _ =>
        match <- findSlot tagKey (<- heapBound) ref with
        | some (.data (.str t) _ _ _) => pure (if ownTag then "" else t)
        | _ => pure ""
    -- what the object is: the text before its brackets, the brackets, how its entries are
    -- listed, and the whole text when there is nothing to list
    let (base, opening, closing, listing, keys, whole) : String × String × String × Listing ×
        List String × Option String <- match o.kind with
      | .array xs =>
        let pre := if ctor == some "Array" then "" else kindPrefix ctor "" "Array" ("(" ++ toString xs.size ++ ")")
        pure ("", pre ++ "[", "]", .items xs, plainKeys,
          if xs.size == 0 && plainKeys.isEmpty then some (pre ++ "[]") else none)
      | .arguments =>
        let n := (keys.filterMap arrayIndex?).foldl (fun m i => max m (i + 1)) 0
        let xs ← (List.range n).mapM fun i => do
          match ownSlot? o (toString i) with
          | some (.data v _ _ _) => pure (some v)
          | _ => pure none
        pure ("", "[Arguments] [", "]", .items xs.toArray, plainKeys,
          if n == 0 && plainKeys.isEmpty then some "[Arguments] []" else none)
      | .map es =>
        let es := es.filterMap id
        let pre := kindPrefix ctor tag "Map" ("(" ++ toString es.size ++ ")")
        pure ("", pre ++ "\x7b", "\x7d", .entries (es.toList.map fun (k, v) => (k, some v)), keys,
          if es.size == 0 && keys.isEmpty then some (pre ++ "\x7b\x7d") else none)
      | .set xs =>
        let xs := xs.filterMap id
        let pre := kindPrefix ctor tag "Set" ("(" ++ toString xs.size ++ ")")
        pure ("", pre ++ "\x7b", "\x7d", .entries (xs.toList.map fun x => (x, none)), keys,
          if xs.size == 0 && keys.isEmpty then some (pre ++ "\x7b\x7d") else none)
      | .closure .. | .native .. | .bound .. =>
        let b <- functionBase ref o ctor
        pure (b, "\x7b", "\x7d", .props, keys, if keys.isEmpty then some b else none)
      | .error =>
        let bound <- heapBound
        let name := match <- findSlot "name" bound ref with
          | some (.data v _ _ _) => if v.isNullish then "Error" else v.primitiveText
          | _ => "Error"
        let message := match <- findSlot "message" bound ref with
          | some (.data (.str m) _ _ _) => some m
          | _ => none
        let stackOf (r : Nat) : Eval String := do
          match <- findSlot "stack" bound r with
          | some (.data v _ _ _) => if v.truthy then pure v.primitiveText else traceHeader r
          | _ => traceHeader r
        let stack <- stackOf ref
        -- the name, message and stack are not listed again when the stack shows them
        let shownAlready (k : String) : Eval Bool := do
          match <- findSlot k bound ref with
          | some (.data (.str t) _ _ _) => pure (containsText stack t)
          | _ => pure true
        let keys ← keys.filterM fun k => do
          if k == "name" || k == "message" || k == "stack" then pure !(<- shownAlready k) else pure true
        let keys := if (<- hasProperty ref "cause") && !keys.contains "cause" then keys ++ ["cause"] else keys
        let errorsListed <- match <- findSlot "errors" bound ref with
          | some (.data (.obj e) _ _ _) => do
            match (<- getObj e).kind with
            | .array _ => pure true
            | _ => pure false
          | _ => pure false
        let keys := if errorsListed && !keys.contains "errors" then keys ++ ["errors"] else keys
        let causeStack <- match <- findSlot "cause" bound ref with
          | some (.data (.obj c) _ _ _) => do
            match (<- getObj c).kind with
            | .error => pure (some (<- stackOf c))
            | _ => pure none
          | _ => pure none
        let b := errorStackText stack ctor name tag message causeStack indent
        pure (b, "\x7b", "\x7d", .props, keys, if keys.isEmpty then some b else none)
      | .boxed p =>
        -- the kind, with the constructor when that is another, then the value and the tag
        let (kindName, shown) := match p with
          | .num x => ("Number", if isNegZero x then "-0" else numberText x)
          | .str s => ("String", inspectQuote s)
          | .bool b => ("Boolean", if b then "true" else "false")
          | .bigint n => ("BigInt", toString n ++ "n")
          | .symbol _ d => ("Symbol", symbolText d)
          | other => ("", other.primitiveText)
        let maker := match ctor with
          | none => " (null prototype)"
          | some c => if c == kindName then "" else " (" ++ c ++ ")"
        let tagged := if tag != "" && some tag != ctor then " [" ++ tag ++ "]" else ""
        let b := if kindName.isEmpty then "[" ++ shown ++ "]"
          else "[" ++ kindName ++ maker ++ ": " ++ shown ++ "]" ++ tagged
        let keys := match p with
          | .str _ => plainKeys
          | _ => keys
        pure (b, "\x7b", "\x7d", .props, keys, if keys.isEmpty then some b else none)
      | .typedArray kind _ _ length =>
        let pre := kindPrefix ctor kind.name kind.name ("(" ++ toString length ++ ")")
        let xs := ((<- typedItems? ref).getD #[]).map some
        pure ("", pre ++ "[", "]", .items xs, plainKeys,
          if length == 0 && plainKeys.isEmpty then some (pre ++ "[]") else none)
      | .weakMap _ | .weakSet _ =>
        let name := match o.kind with
          | .weakMap _ => "WeakMap"
          | _ => "WeakSet"
        let pre := kindPrefix ctor "" name ""
        pure ("", pre ++ "\x7b", "\x7d", .texts ["<items unknown>"], keys, none)
      | .promise ps =>
        let pre := kindPrefix ctor tag "Promise" ""
        let shown (v : Value) : Eval String := do
          let (t, _) <- inspectAt fuel v (level + 1) (indent + 2) (ref :: seen) st
          pure t
        let text <- match ps with
          | .pending .. => pure "<pending>"
          | .fulfilled v => shown v
          | .rejected v => do pure ("<rejected> " ++ (<- shown v))
        pure ("", pre ++ "\x7b", "\x7d", .texts [text], keys, none)
      | .weakRef target =>
        let pre := kindPrefix ctor "" "WeakRef" ""
        let (t, _) <- inspectAt fuel (.obj target) (level + 1) (indent + 2) (ref :: seen) st
        pure ("", pre ++ "\x7b", "\x7d", .texts [t], keys, none)
      | .buffer bytes =>
        let pre := kindPrefix ctor "" "ArrayBuffer" ""
        let hex (b : UInt8) : String :=
          let t := String.ofList (Nat.toDigits 16 b.toNat)
          if t.length < 2 then "0" ++ t else t
        let shown := bytes.toList.take 50
        let more := if bytes.size > 50 then
            " ... " ++ toString (bytes.size - 50) ++ " more byte" ++ (if bytes.size == 51 then "" else "s")
          else ""
        let contents := "[Uint8Contents]: <" ++ " ".intercalate (shown.map hex) ++ more ++ ">"
        pure ("", pre ++ "\x7b", "\x7d",
          .texts [contents, "[byteLength]: " ++ toString bytes.size], keys, none)
      | .dataView buffer offset length =>
        let pre := kindPrefix ctor tag "DataView" ""
        let (b, _) <- inspectAt fuel (.obj buffer) (level + 1) (indent + 2) (ref :: seen) st
        pure ("", pre ++ "\x7b", "\x7d",
          .texts ["[byteLength]: " ++ toString length, "[byteOffset]: " ++ toString offset,
            "[buffer]: " ++ b], keys, none)
      | .regexp s f =>
        let pre := kindPrefix ctor tag "RegExp" ""
        let b := (if pre == "RegExp " then "" else pre) ++ "/" ++ s ++ "/" ++ f
        pure (b, "\x7b", "\x7d", .props, keys, if keys.isEmpty || level > st.depth then some b else none)
      | .date t =>
        let pre := kindPrefix ctor tag "Date" ""
        let b := (if pre == "Date " then "" else pre) ++ (if t.isNaN then "Invalid Date" else isoText t)
        pure (b, "\x7b", "\x7d", .props, keys, if keys.isEmpty then some b else none)
      | _ =>
        let pre := if ctor == some "Object" && tag.isEmpty then "" else kindPrefix ctor tag "Object" ""
        pure ("", pre ++ "\x7b", "\x7d", .props, keys,
          if keys.isEmpty then some (pre ++ "\x7b\x7d") else none)
    if let some text := whole then return (text, st)
    if level > st.depth then return (tooDeepText ctor tag, st)
    let st := { st with current := level + 1 }
    let seen := ref :: seen
    let (itemTexts, st) <- match listing with
      | .items xs => inspectItems fuel xs.toList 0 (min listedItems xs.size) (level + 1) (indent + 2) seen [] st
      | .entries es => inspectCollection fuel es (level + 1) (indent + 2) seen [] st
      | .texts ts => pure (ts, st)
      | .props => pure ([], st)
    let (propTexts, st) <- inspectProps fuel ref keys (level + 1) (indent + 2) seen [] st
    let output := itemTexts ++ propTexts
    let base := match st.circularIndex ref with
      | some i => "<ref *" ++ toString i ++ ">" ++ (if base.isEmpty then "" else " " ++ base)
      | none => base
    let (isArray, padLeft) := match listing with
      | .items xs => (true, (List.range output.length).all fun i => match xs[i]? with
          | some (some (.num _)) => true
          | some (some (.bigint _)) => true
          | _ => false)
      | _ => (false, false)
    let flat := st.current - (level + 1) < 3
    pure (layoutEntries base opening closing output indent isArray flat padLeft, st)

/-- The entries of an array's items from `index` on, at most `room` of them: values, counted
runs of holes, and at the end the holes or items left over. -/
def inspectItems : Nat -> List (Option Value) -> Nat -> Nat -> Nat -> Nat -> List Nat -> List String ->
    InspectState -> Eval (List String × InspectState)
  | 0, _, _, _, _, _, _, acc, st => pure (acc.reverse, st)
  | _ + 1, [], _, _, _, _, _, acc, st => pure (acc.reverse, st)
  | fuel + 1, xs, index, room, level, indent, seen, acc, st => do
    if acc.length ≥ room then
      return ((if xs.isEmpty then acc else moreItems xs.length :: acc).reverse, st)
    let holes := (xs.takeWhile Option.isNone).length
    if holes == xs.length then
      return ((holeEntry holes :: acc).reverse, st)
    let acc := if holes > 0 then holeEntry holes :: acc else acc
    let rest := xs.drop holes
    if holes > 0 && acc.length ≥ room then
      return ((moreItems rest.length :: acc).reverse, st)
    match rest with
    | some v :: rest' =>
      let (t, st) <- inspectAt fuel v level indent seen st
      inspectItems fuel rest' (index + holes + 1) room level indent seen (t :: acc) st
    | _ => pure (acc.reverse, st)

/-- The entries of a map (`key => value`) or a set (`value`), at most `listedItems` of them. -/
def inspectCollection : Nat -> List (Value × Option Value) -> Nat -> Nat -> List Nat -> List String ->
    InspectState -> Eval (List String × InspectState)
  | 0, _, _, _, _, acc, st => pure (acc.reverse, st)
  | _ + 1, [], _, _, _, acc, st => pure (acc.reverse, st)
  | fuel + 1, (k, mv) :: rest, level, indent, seen, acc, st => do
    if acc.length ≥ listedItems then
      return ((moreItems (rest.length + 1) :: acc).reverse, st)
    let (kt, st) <- inspectAt fuel k level indent seen st
    match mv with
    | some v =>
      let (vt, st) <- inspectAt fuel v level indent seen st
      inspectCollection fuel rest level indent seen ((kt ++ " => " ++ vt) :: acc) st
    | none => inspectCollection fuel rest level indent seen (kt :: acc) st

/-- The `key: value` entries of an object's enumerable properties. -/
def inspectProps : Nat -> Nat -> List String -> Nat -> Nat -> List Nat -> List String ->
    InspectState -> Eval (List String × InspectState)
  | 0, _, _, _, _, _, acc, st => pure (acc.reverse, st)
  | _ + 1, _, [], _, _, _, acc, st => pure (acc.reverse, st)
  | fuel + 1, ref, k :: rest, level, indent, seen, acc, st => do
    let o <- getObj ref
    -- a property that is not listed as a rule, such as an error's cause, shows in brackets
    let keyShown (sl : Slot) : String := if sl.enumerable then inspectKey k else "[" ++ k ++ "]"
    match <- ownSlotOf ref k with
    | some (.data v e w c) =>
      let (t, st) <- inspectAt fuel v level indent seen st
      inspectProps fuel ref rest level indent seen ((keyShown (.data v e w c) ++ ": " ++ t) :: acc) st
    | some (.accessor g s e c) =>
      let shown := match g, s with
        | some _, some _ => "[Getter/Setter]"
        | some _, none => "[Getter]"
        | _, _ => "[Setter]"
      inspectProps fuel ref rest level indent seen ((keyShown (.accessor g s e c) ++ ": " ++ shown) :: acc) st
    | none =>
      -- an inherited property asked for by name shows as its value
      match <- findSlot k (<- heapBound) ref with
      | some (.data v _ _ _) =>
        let (t, st) <- inspectAt fuel v level indent seen st
        inspectProps fuel ref rest level indent seen ((inspectKey k ++ ": " ++ t) :: acc) st
      | _ =>
        let _ := o
        inspectProps fuel ref rest level indent seen acc st

end

/-- The inspection text of a value, listing objects `depth` levels deep. -/
def inspectDeep (depth : Nat) (v : Value) : Eval String := do
  let (t, _) <- inspectAt 1000000 v 0 0 [] { depth }
  pure t

/-- The inspection text of a value. -/
def inspectValue (v : Value) : Eval String :=
  inspectDeep 2 v

end TranscriptTest.Js
