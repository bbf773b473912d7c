import TranscriptTest.Python.Library

/-!
# Methods of the built-in kinds of value

`callMethod` runs a method read from a string, list, tuple, dictionary, set, number or standard
file. The methods that mutate write the changed object back to the heap, so every name for it
sees the change.
-/

namespace TranscriptTest.Python

/-- An optional string argument (`None` counts as absent). -/
def optStr (what : String) (v : Option Value) : Run (Option String) := do
  match v with
  | none | some .none => pure none
  | some x => some <$> strArg what x

/-- The fill character of `center`, `ljust` and `rjust`. -/
def fillArg (v : Option Value) : Run Char := do
  match v with
  | none => pure ' '
  | some (.str s) =>
    match s.toList with
    | [c] => pure c
    | _ => typeError "The fill character must be exactly one character long"
  | some other => typeError ("The fill character must be a unicode character, not " ++ (<- typeName other))

/-- The characters of a string between search bounds, and where they start. -/
def searchSlice (cs : List Char) (start stop : Option Int) : List Char × Nat × Bool :=
  let len := cs.length
  let rawStart : Int := match start with
    | some i => if i < 0 then i + len else i
    | none => 0
  let (lo, hi) := sliceBounds len start stop
  ((cs.take hi).drop lo, lo, rawStart > len)

/-- Where a substring last occurs in characters, at or after a position. -/
def findLast (hay needle : List Char) (lo : Nat) : Option Nat := Id.run do
  let n := needle.length
  if hay.length < n then return none
  let mut found : Option Nat := none
  for i in [lo:hay.length - n + 1] do
    if needle.isPrefixOf (hay.drop i) then found := some i
  found

/-- `str.center`'s split of the padding, as the reference implementation makes it. -/
def centerSplit (width len : Nat) : Nat × Nat :=
  let marg := width - len
  let left := marg / 2 + (marg &&& width &&& 1)
  (left, marg - left)

/-- `str.expandtabs`: tabs to the next multiple of the tab size, counting columns from each line
start. -/
def expandTabs (s : String) (size : Int) : String := Id.run do
  let mut out : List Char := []
  let mut col : Nat := 0
  for c in s.toList do
    if c == '\t' then
      if size > 0 then
        let n := size.toNat - col % size.toNat
        out := List.replicate n ' ' ++ out
        col := col + n
    else if c == '\n' || c == '\r' then
      out := c :: out
      col := 0
    else
      out := c :: out
      col := col + 1
  String.ofList out.reverse

/-- Whether a character may start a name. -/
def isNameStartChar (c : Char) : Bool :=
  c == '_' || c.isAlpha || (c.toNat >= 0x80 && pyLetterTable.contains c)

/-- `str.istitle`: upper case only after characters without case, lower case only after ones
with case, and some character with case. -/
def isTitleText (s : String) : Bool := Id.run do
  let mut cased := false
  let mut previousCased := false
  for c in s.toList do
    if isUpperCase c then
      if previousCased then return false
      previousCased := true
      cased := true
    else if isLowerCase c then
      if !previousCased then return false
      previousCased := true
      cased := true
    else previousCased := false
  cased

/-- Whether a string starts (or ends) with a prefix, or one of a tuple of them. -/
def affixMatch (what : String) (hay : List Char) (affix : Value) (atEnd : Bool) : Run Bool := do
  let test (p : String) : Bool :=
    if atEnd then p.toList.reverse.isPrefixOf hay.reverse else p.toList.isPrefixOf hay
  match affix with
  | .str p => pure (test p)
  | .tuple items => do
    for item in items do
      match item with
      | .str p => if test p then return true
      | other => typeError ("tuple for " ++ what ++ " must only contain str, not " ++ (<- typeName other))
    pure false
  | other => typeError (what ++ " first arg must be str or a tuple of str, not " ++ (<- typeName other))

/-- The methods of strings. -/
def strMethod (h : Host) (s name : String) (args : List Value) (kwargs : List (String × Value)) :
    Run Value := do
  let cs := s.toList
  let arg (i : Nat) (key : String) := argOr args kwargs i key
  match name with
  | "upper" => pure (.str (pyUpper s))
  | "lower" => pure (.str (pyLower s))
  | "casefold" => pure (.str (String.join ((pyLower s).toList.map fun c => if c == 'ß' then "ss" else c.toString)))
  | "title" => pure (.str (pyTitle s))
  | "capitalize" => pure (.str (pyCapitalize s))
  | "swapcase" => pure (.str (pySwapcase s))
  | "strip" => pure (.str (stripChars s (<- optStr "strip arg" (arg 0 "chars")) true true))
  | "lstrip" => pure (.str (stripChars s (<- optStr "lstrip arg" (arg 0 "chars")) true false))
  | "rstrip" => pure (.str (stripChars s (<- optStr "rstrip arg" (arg 0 "chars")) false true))
  | "split" | "rsplit" => do
    let sep <- optStr "must be str or None" (arg 0 "sep")
    let limit <- optInt (arg 1 "maxsplit")
    let limit := match limit with
      | some k => if k < 0 then none else some k.toNat
      | none => none
    let parts <- match sep with
      | none => pure (if name == "split" then splitWhitespace s limit else rsplitWhitespace s limit)
      | some "" => valueError "empty separator"
      | some sep => pure (if name == "split" then splitOn s sep limit else rsplitOn s sep limit)
    newList (parts.toArray.map Value.str)
  | "splitlines" => do
    let keep <- match arg 0 "keepends" with
      | some v => h.truthy v
      | none => pure false
    newList ((splitLines s keep).toArray.map Value.str)
  | "join" => do
    let some it := args[0]? | typeError "str.join() takes exactly one argument (0 given)"
    let items <- h.iterate it
    let mut parts : Array String := #[]
    for i in [0:items.size] do
      match items[i]! with
      | .str t => parts := parts.push t
      | other => typeError ("sequence item " ++ toString i ++ ": expected str instance, " ++
          (<- typeName other) ++ " found")
    pure (.str (s.intercalate parts.toList))
  | "replace" => do
    let some old := args[0]? | typeError "replace expected at least 2 arguments, got 0"
    let some new := args[1]? | typeError ("replace expected at least 2 arguments, got " ++ toString args.length)
    let old <- strArg "replace() argument 1" old
    let new <- strArg "replace() argument 2" new
    let count <- optInt (arg 2 "count")
    let limit := match count with
      | some k => if k < 0 then none else some k.toNat
      | none => none
    if old.isEmpty then
      let pieces := cs.map Char.toString
      let slots := pieces.length + 1
      let used := match limit with
        | some k => Nat.min k slots
        | none => slots
      let out := (List.range pieces.length).foldl (fun acc i =>
        acc ++ (if i < used then new else "") ++ pieces[i]!) ""
      pure (.str (out ++ (if used == slots then new else "")))
    else
      pure (.str (new.intercalate (splitOn s old limit)))
  | "startswith" | "endswith" => do
    let some affix := args[0]? | typeError (name ++ "() takes at least 1 argument (0 given)")
    let (hay, _, past) := searchSlice cs (<- optInt args[1]?) (<- optInt args[2]?)
    if past then return .bool false
    pure (.bool (<- affixMatch name hay affix (name == "endswith")))
  | "find" | "index" | "rfind" | "rindex" | "count" => do
    let some sub := args[0]? | typeError (name ++ "() takes at least 1 argument (0 given)")
    let sub <- strArg "must be str," sub
    let (hay, lo, past) := searchSlice cs (<- optInt args[1]?) (<- optInt args[2]?)
    if name == "count" then
      if past then return .int 0
      if sub.isEmpty then return .int (hay.length + 1)
      return .int (occurrences hay sub.toList).length
    let found := if past then none
      else if name == "find" || name == "index" then findFrom hay sub.toList 0
      else findLast hay sub.toList 0
    match found with
    | some i => pure (.int (i + lo))
    | none =>
      if name == "index" || name == "rindex" then valueError "substring not found"
      else pure (.int (-1))
  | "isdigit" => pure (.bool (!cs.isEmpty && cs.all fun c => pyDecimalTable.contains c ||
      c == '²' || c == '³' || c == '¹' || (0x2070 <= c.toNat && c.toNat <= 0x2079) ||
      (0x2080 <= c.toNat && c.toNat <= 0x2089) || (0x2460 <= c.toNat && c.toNat <= 0x2468)))
  | "isdecimal" => pure (.bool (!cs.isEmpty && cs.all pyDecimalTable.contains))
  | "isnumeric" => pure (.bool (!cs.isEmpty && cs.all pyNumberTable.contains))
  | "isalpha" => pure (.bool (!cs.isEmpty && cs.all pyLetterTable.contains))
  | "isalnum" => pure (.bool (!cs.isEmpty && cs.all fun c => pyLetterTable.contains c || pyNumberTable.contains c))
  | "isspace" => pure (.bool (!cs.isEmpty && cs.all isPySpace))
  | "isupper" => pure (.bool (cs.any isUpperCase && !cs.any isLowerCase))
  | "islower" => pure (.bool (cs.any isLowerCase && !cs.any isUpperCase))
  | "istitle" => pure (.bool (isTitleText s))
  | "isidentifier" =>
    pure (.bool (match cs with
      | c :: rest => isNameStartChar c && rest.all fun c => isNameStartChar c || c.isDigit || (c.toNat >= 0x80 && pyNumberTable.contains c)
      | [] => false))
  | "isprintable" => pure (.bool (cs.all isPrintable))
  | "isascii" => pure (.bool (cs.all fun c => c.toNat < 128))
  | "center" | "ljust" | "rjust" => do
    let some w := args[0]? | typeError (name ++ " expected at least 1 argument, got 0")
    let width <- intArg w
    let fill <- fillArg args[1]?
    let len := cs.length
    if width <= len then return .str s
    let width := width.toNat
    let (left, right) := match name with
      | "ljust" => (0, width - len)
      | "rjust" => (width - len, 0)
      | _ => centerSplit width len
    pure (.str (String.ofList (List.replicate left fill ++ cs ++ List.replicate right fill)))
  | "zfill" => do
    let some w := args[0]? | typeError "str.zfill() takes exactly one argument (0 given)"
    let width <- intArg w
    if width <= cs.length then return .str s
    let fill := List.replicate (width.toNat - cs.length) '0'
    match cs with
    | c :: rest => if c == '+' || c == '-' then return .str (String.ofList (c :: fill ++ rest))
    | [] => pure ()
    pure (.str (String.ofList (fill ++ cs)))
  | "format" => pure (.str (<- formatMethod h s args kwargs))
  | "partition" | "rpartition" => do
    let some sep := args[0]? | typeError (name ++ "() takes exactly one argument (0 given)")
    let sep <- strArg "must be str," sep
    if sep.isEmpty then valueError "empty separator"
    let found := if name == "partition" then findFrom cs sep.toList 0 else findLast cs sep.toList 0
    match found with
    | some i =>
      pure (.tuple #[.str (String.ofList (cs.take i)), .str sep,
        .str (String.ofList (cs.drop (i + sep.length)))])
    | none =>
      if name == "partition" then pure (.tuple #[.str s, .str "", .str ""])
      else pure (.tuple #[.str "", .str "", .str s])
  | "removeprefix" => do
    let p <- strArg "removeprefix() argument" (args[0]?.getD .none)
    pure (.str (if p.toList.isPrefixOf cs then String.ofList (cs.drop p.length) else s))
  | "removesuffix" => do
    let p <- strArg "removesuffix() argument" (args[0]?.getD .none)
    pure (.str (if !p.isEmpty && p.toList.reverse.isPrefixOf cs.reverse then
      String.ofList (cs.take (cs.length - p.length)) else s))
  | "expandtabs" => do
    let size <- optInt (arg 0 "tabsize")
    pure (.str (expandTabs s (size.getD 8)))
  | _ => raiseException "AttributeError" ("'str' object has no attribute '" ++ name ++ "'")

/-- An index into a sequence, counted from the end when negative, if it is in range. -/
def seqIndex (len : Nat) (i : Int) : Option Nat :=
  let j := if i < 0 then i + len else i
  if 0 <= j && j < len then some j.toNat else none

/-- Where a value first occurs in items between bounds. -/
def indexOf (h : Host) (items : Array Value) (x : Value) (lo hi : Nat) : Run (Option Nat) := do
  for i in [lo:Nat.min hi items.size] do
    if <- h.eq items[i]! x then return some i
  pure none

/-- The methods of lists. -/
def listMethod (h : Host) (r : Nat) (name : String) (args : List Value)
    (kwargs : List (String × Value)) : Run Value := do
  let (_, items) <- listItems (.ref r)
  match name with
  | "append" =>
    let some x := args[0]? | typeError "list.append() takes exactly one argument (0 given)"
    setObj r (.list (items.push x))
    pure .none
  | "extend" =>
    let some it := args[0]? | typeError "list.extend() takes exactly one argument (0 given)"
    let more <- h.iterate it
    let (_, items) <- listItems (.ref r)
    setObj r (.list (items ++ more))
    pure .none
  | "insert" =>
    let (some i, some x) := (args[0]?, args[1]?) | typeError ("insert expected 2 arguments, got " ++ toString args.length)
    let i <- intArg i
    let len := items.size
    let j : Nat := if i < 0 then (i + len).toNat else Nat.min i.toNat len
    setObj r (.list (items.insertIdx! j x))
    pure .none
  | "pop" =>
    if items.isEmpty then raiseException "IndexError" "pop from empty list"
    let i <- match args[0]? with
      | some v => intArg v
      | none => pure (-1)
    match seqIndex items.size i with
    | some j =>
      setObj r (.list (items.eraseIdx! j))
      pure items[j]!
    | none => raiseException "IndexError" "pop index out of range"
  | "remove" =>
    let some x := args[0]? | typeError "list.remove() takes exactly one argument (0 given)"
    match <- indexOf h items x 0 items.size with
    | some j =>
      let (_, items) <- listItems (.ref r)
      setObj r (.list (items.eraseIdx! j))
      pure .none
    | none => valueError "list.remove(x): x not in list"
  | "index" =>
    let some x := args[0]? | typeError "index expected at least 1 argument, got 0"
    let (lo, hi) := sliceBounds items.size (<- optInt args[1]?) (<- optInt args[2]?)
    match <- indexOf h items x lo hi with
    | some j => pure (.int j)
    | none => valueError ((<- h.repr x) ++ " is not in list")
  | "count" =>
    let some x := args[0]? | typeError "list.count() takes exactly one argument (0 given)"
    let mut n := 0
    for v in items do
      if <- h.eq v x then n := n + 1
    pure (.int n)
  | "sort" =>
    if !args.isEmpty then typeError "sort() takes no positional arguments"
    let key := match kwarg kwargs "key" with
      | some .none | none => none
      | some f => some f
    let reverse <- match kwarg kwargs "reverse" with
      | some v => h.truthy v
      | none => pure false
    let sorted <- sortValues h items key reverse
    setObj r (.list sorted)
    pure .none
  | "reverse" => setObj r (.list items.reverse); pure .none
  | "copy" => newList items
  | "clear" => setObj r (.list #[]); pure .none
  | _ => raiseException "AttributeError" ("'list' object has no attribute '" ++ name ++ "'")

/-- The methods of tuples. -/
def tupleMethod (h : Host) (items : Array Value) (name : String) (args : List Value) : Run Value := do
  match name, args with
  | "index", x :: _ =>
    match <- indexOf h items x 0 items.size with
    | some j => pure (.int j)
    | none => valueError "tuple.index(x): x not in tuple"
  | "count", [x] => do
    let mut n := 0
    for v in items do
      if <- h.eq v x then n := n + 1
    pure (.int n)
  | _, _ => raiseException "AttributeError" ("'tuple' object has no attribute '" ++ name ++ "'")

/-- Raises a `KeyError` for a key. -/
def keyError {α : Type} (k : Value) : Run α := do
  throw (.raised (<- newException "KeyError" #[k]))

/-- Adds entries to a dictionary as `update` does: from a mapping, from key-value pairs, and
from keyword arguments. -/
def dictUpdate (h : Host) (r : Nat) (source : Option Value) (kwargs : List (String × Value)) :
    Run Unit := do
  match source with
  | none | some .none => pure ()
  | some src =>
    match <- dictEntries? src with
    | some (_, entries) =>
      for (k, v) in entries do dictSet h r k v
    | none =>
      let pairs <- h.iterate src
      for i in [0:pairs.size] do
        let pair <- h.iterate pairs[i]!
        if pair.size != 2 then
          valueError ("dictionary update sequence element #" ++ toString i ++ " has length " ++
            toString pair.size ++ "; 2 is required")
        requireHashable pair[0]!
        dictSet h r pair[0]! pair[1]!
  for (k, v) in kwargs do dictSet h r (.str k) v

/-- The methods of dictionaries. -/
def dictMethod (h : Host) (r : Nat) (entries : Array (Value × Value)) (name : String)
    (args : List Value) (kwargs : List (String × Value)) : Run Value := do
  match name with
  | "get" =>
    let some k := args[0]? | typeError "get expected at least 1 argument, got 0"
    requireHashable k
    match <- dictGet h r k with
    | some v => pure v
    | none => pure (args[1]?.getD .none)
  | "keys" | "values" | "items" => pure (.ref (<- alloc (.dictView name r)))
  | "pop" =>
    let some k := args[0]? | typeError "pop expected at least 1 argument, got 0"
    match <- findKey h entries k with
    | some i =>
      setObj r (.dict (entries.eraseIdx! i))
      pure entries[i]!.2
    | none =>
      match args[1]? with
      | some d => pure d
      | none => keyError k
  | "popitem" =>
    if entries.isEmpty then raiseException "KeyError" "popitem(): dictionary is empty"
    let (k, v) := entries.back!
    setObj r (.dict entries.pop)
    pure (.tuple #[k, v])
  | "setdefault" =>
    let some k := args[0]? | typeError "setdefault expected at least 1 argument, got 0"
    requireHashable k
    match <- dictGet h r k with
    | some v => pure v
    | none =>
      let d := args[1]?.getD .none
      dictSet h r k d
      pure d
  | "update" => dictUpdate h r args[0]? kwargs; pure .none
  | "copy" => newDict entries
  | "clear" => setObj r (.dict #[]); pure .none
  | _ => raiseException "AttributeError" ("'dict' object has no attribute '" ++ name ++ "'")

/-- Whether a value is among set items. -/
def setHas (h : Host) (items : Array Value) (x : Value) : Run Bool := do
  for v in items do
    if <- h.eq v x then return true
  pure false

/-- The methods of sets. -/
def setMethod (h : Host) (r : Nat) (items : Array Value) (name : String) (args : List Value) :
    Run Value := do
  let others <- args.mapM h.iterate
  let newSet (xs : Array Value) : Run Value := do pure (.ref (<- alloc (.set xs)))
  match name with
  | "add" =>
    let some x := args[0]? | typeError "set.add() takes exactly one argument (0 given)"
    setObj r (.set (<- setAdd h items x))
    pure .none
  | "remove" | "discard" =>
    let some x := args[0]? | typeError ("set." ++ name ++ "() takes exactly one argument (0 given)")
    let mut kept : Array Value := #[]
    let mut found := false
    for v in items do
      if !found && (<- h.eq v x) then found := true else kept := kept.push v
    if !found && name == "remove" then keyError x
    setObj r (.set kept)
    pure .none
  | "pop" =>
    if items.isEmpty then raiseException "KeyError" "pop from an empty set"
    setObj r (.set (items.extract 1 items.size))
    pure items[0]!
  | "union" | "update" =>
    let mut acc := items
    for xs in others do
      for x in xs do acc <- setAdd h acc x
    if name == "update" then setObj r (.set acc); pure .none
    else newSet acc
  | "intersection" =>
    let mut acc := items
    for xs in others do
      acc <- acc.filterM fun v => setHas h xs v
    newSet acc
  | "difference" =>
    let mut acc := items
    for xs in others do
      acc <- acc.filterM fun v => do pure !(<- setHas h xs v)
    newSet acc
  | "symmetric_difference" =>
    let xs := others.headD #[]
    let left <- items.filterM fun v => do pure !(<- setHas h xs v)
    let mut acc := left
    for x in xs do
      if !(<- setHas h items x) then acc <- setAdd h acc x
    newSet acc
  | "issubset" => pure (.bool (<- items.allM fun v => setHas h (others.headD #[]) v))
  | "issuperset" => pure (.bool (<- (others.headD #[]).allM fun v => setHas h items v))
  | "isdisjoint" => pure (.bool !(<- items.anyM fun v => setHas h (others.headD #[]) v))
  | "copy" => newSet items
  | "clear" => setObj r (.set #[]); pure .none
  | _ => raiseException "AttributeError" ("'set' object has no attribute '" ++ name ++ "'")

/-- The methods of the standard files. -/
def fileMethod (h : Host) (fd : Nat) (name : String) (args : List Value) : Run Value := do
  match fd, name with
  | 0, "readline" => pure (.str (<- readLine))
  | 0, "readlines" | 0, "read" => throw .waiting
  | _, "isatty" => pure (.bool false)
  | _, "fileno" => pure (.int fd)
  | _, "close" => pure .none
  | 0, _ => raiseException "AttributeError" ("'_io.TextIOWrapper' object has no attribute '" ++ name ++ "'")
  | _, "write" =>
    let some v := args[0]? | typeError "TextIOWrapper.write() takes exactly one argument (0 given)"
    let s <- match v with
      | .str s => pure s
      | other => typeError ("write() argument must be str, not " ++ (<- typeName other))
    if fd == 1 then writeOut s
    pure (.int s.length)
  | _, "writelines" =>
    let some v := args[0]? | typeError "writelines() takes exactly one argument (0 given)"
    for line in ← h.iterate v do
      match line with
      | .str s => if fd == 1 then writeOut s
      | _ => typeError "write() argument must be str"
    pure .none
  | _, "flush" =>
    if fd == 1 then flushOut
    pure .none
  | _, _ => raiseException "AttributeError" ("'_io.TextIOWrapper' object has no attribute '" ++ name ++ "'")

/-- The methods of in-memory text files. -/
def bufferMethod (h : Host) (r : Nat) (text : String) (pos : Nat) (name : String)
    (args : List Value) : Run Value := do
  match name with
  | "write" =>
    match args with
    | [.str s] => bufferWrite r s; pure (.int s.length)
    | [other] => typeError ("string argument expected, got '" ++ (<- typeName other) ++ "'")
    | _ => typeError "write() takes exactly one argument"
  | "writelines" =>
    for line in ← h.iterate (args.headD .none) do
      match line with
      | .str s => bufferWrite r s
      | other => typeError ("string argument expected, got '" ++ (<- typeName other) ++ "'")
    pure .none
  | "getvalue" => pure (.str text)
  | "read" =>
    setObj r (.textBuffer text text.length)
    pure (.str (String.ofList (text.toList.drop pos)))
  | "readline" =>
    let rest := text.toList.drop pos
    let line := rest.takeWhile (· != '\n')
    let line := if line.length < rest.length then line ++ ['\n'] else line
    setObj r (.textBuffer text (pos + line.length))
    pure (.str (String.ofList line))
  | "seek" =>
    let n <- intArg (args.headD (.int 0))
    setObj r (.textBuffer text n.toNat)
    pure (.int n)
  | "tell" => pure (.int pos)
  | "truncate" =>
    let n <- match args with
      | v :: _ => do pure (<- intArg v).toNat
      | [] => pure pos
    setObj r (.textBuffer (String.ofList (text.toList.take n)) pos)
    pure (.int n)
  | _ => pure .none

/-- The number of bits of an integer's magnitude. -/
def bitLength (n : Int) : Nat := (Nat.toDigits 2 n.natAbs).length - (if n == 0 then 1 else 0)

/-- Runs a method of a built-in kind of value. -/
def callMethod (h : Host) (self : Value) (name : String) (args : List Value)
    (kwargs : List (String × Value)) : Run Value := do
  match self with
  | .str s => strMethod h s name args kwargs
  | .tuple items => tupleMethod h items name args
  | .int n =>
    match name with
    | "bit_length" => pure (.int (bitLength n))
    | _ => pure (.int n)
  | .bool b => pure (.int (if b then 1 else 0))
  | .float x =>
    match name with
    | "is_integer" => pure (.bool (!x.isNaN && !x.isInf && x.floor == x))
    | _ => pure (.float x)
  | .file fd => fileMethod h fd name args
  | .ref r =>
    match <- getObj r with
    | .list _ => listMethod h r name args kwargs
    | .dict entries => dictMethod h r entries name args kwargs
    | .set items => setMethod h r items name args
    | .textBuffer text pos => bufferMethod h r text pos name args
    | _ => raiseException "AttributeError" ("object has no attribute '" ++ name ++ "'")
  | other => raiseException "AttributeError" ("'" ++ (<- typeName other) ++ "' object has no attribute '" ++ name ++ "'")

end TranscriptTest.Python
