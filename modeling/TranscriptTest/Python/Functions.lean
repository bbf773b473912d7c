import TranscriptTest.Python.Methods

/-!
# Built-in functions

`callBuiltin` runs a built-in function or class by name: the functions every program sees, the
conversions, the exception classes (calling one makes an exception), and the functions of the
modules.
-/

namespace TranscriptTest.Python

/-- The class of a value, as `type(x)` gives it. -/
def typeOf (v : Value) : Run Value := do
  match v with
  | .ref r =>
    match <- getObj r with
    | .inst c _ => pure (.ref c)
    | .classObj .. => pure (.builtin "type")
    | _ => pure (.builtin (<- typeName v))
  | _ => pure (.builtin (<- typeName v))

/-- The digits of an integer in a base with its prefix, as `hex`, `oct` and `bin` write them. -/
def prefixedDigits (n : Int) (base : Nat) (pre : String) : String :=
  (if n < 0 then "-" else "") ++ pre ++ String.ofList (Nat.toDigits base n.natAbs)

/-- The `ascii` of a text: characters outside ASCII escaped. -/
def asciiEscape (s : String) : String :=
  String.join (s.toList.map fun c =>
    if c.toNat < 128 then c.toString
    else if c.toNat < 0x100 then "\\x" ++ hexPadded c.toNat 2
    else if c.toNat < 0x10000 then "\\u" ++ hexPadded c.toNat 4
    else "\\U" ++ hexPadded c.toNat 8)

/-- `int(x)` and `int(text, base)`. -/
def toInt (args : List Value) : Run Value := do
  match args with
  | [] => pure (.int 0)
  | [.int n] => pure (.int n)
  | [.bool b] => pure (.int (if b then 1 else 0))
  | [.float x] => pure (.int (<- floatToInt x))
  | [.str s] =>
    match parseIntText s 10 with
    | some n => pure (.int n)
    | none => valueError ("invalid literal for int() with base 10: " ++ strRepr s)
  | [.str s, b] => do
    let base <- intArg b
    if base != 0 && (base < 2 || base > 36) then valueError "int() base must be >= 2 and <= 36, or 0"
    match parseIntText s base.toNat with
    | some n => pure (.int n)
    | none => valueError ("invalid literal for int() with base " ++ toString base ++ ": " ++ strRepr s)
  | [_, _] => typeError "int() can't convert non-string with explicit base"
  | [other] => typeError ("int() argument must be a string, a bytes-like object or a real number, not '" ++
      (<- typeName other) ++ "'")
  | _ => typeError ("int() takes at most 2 arguments (" ++ toString args.length ++ " given)")

/-- `float(x)`. -/
def toFloat (args : List Value) : Run Value := do
  match args with
  | [] => pure (.float 0)
  | [.float x] => pure (.float x)
  | [.int n] =>
    let x := intToFloat n
    if x.isInf then raiseException "OverflowError" "int too large to convert to float"
    pure (.float x)
  | [.bool b] => pure (.float (if b then 1 else 0))
  | [.str s] =>
    match parseFloatText s with
    | some x => pure (.float x)
    | none => valueError ("could not convert string to float: " ++ strRepr s)
  | [other] => typeError ("float() argument must be a string or a real number, not '" ++
      (<- typeName other) ++ "'")
  | _ => typeError ("float expected at most 1 argument, got " ++ toString args.length)

/-- The values `min` and `max` choose from: the one iterable given, or the arguments. -/
def extremeCandidates (h : Host) (fn : String) (args : List Value) : Run (Array Value) := do
  match args with
  | [] => typeError (fn ++ " expected at least 1 argument, got 0")
  | [it] => h.iterate it
  | more => pure more.toArray

/-- `min` and `max`: the first value no other comes before (or after), by key. -/
def extreme (h : Host) (fn : String) (args : List Value) (kwargs : List (String × Value)) :
    Run Value := do
  let items <- extremeCandidates h fn args
  let key := match kwarg kwargs "key" with
    | some .none | none => none
    | some f => some f
  if items.isEmpty then
    match kwarg kwargs "default" with
    | some d => return d
    | none => valueError (fn ++ "() iterable argument is empty")
  let keyOf (v : Value) : Run Value := match key with
    | some f => h.call f [v] []
    | none => pure v
  let mut best := items[0]!
  let mut bestKey <- keyOf best
  for v in items.extract 1 items.size do
    let k <- keyOf v
    let better <- if fn == "max" then h.lt bestKey k else h.lt k bestKey
    if better then
      best := v
      bestKey := k
  pure best

/-- The options of `json.dumps`. -/
def dumpOptions (h : Host) (kwargs : List (String × Value)) : Run DumpOptions := do
  let indent <- match kwarg kwargs "indent" with
    | none | some .none => pure none
    | some (.int n) => pure (some (String.ofList (List.replicate n.toNat ' ')))
    | some (.str s) => pure (some s)
    | some _ => typeError "indent must be an int or a string"
  let (itemSep, keySep) <- match kwarg kwargs "separators" with
    | none | some .none => pure (if indent.isSome then (",", ": ") else (", ", ": "))
    | some v => do
      let parts <- h.iterate v
      match parts.toList with
      | [.str a, .str b] => pure (a, b)
      | _ => valueError "too many values to unpack (expected 2)"
  let sortKeys <- match kwarg kwargs "sort_keys" with
    | some v => h.truthy v
    | none => pure false
  let ascii <- match kwarg kwargs "ensure_ascii" with
    | some v => h.truthy v
    | none => pure true
  pure { indent, itemSep, keySep, sortKeys, ascii }

/-- Raises `SystemExit` with an exit code or message. -/
def raiseExit {α : Type} (args : List Value) : Run α := do
  throw (.raised (<- newException "SystemExit" args.toArray))

/-- Runs a function of a module other than `math`. -/
def callModuleFunction (h : Host) (name : String) (args : List Value)
    (kwargs : List (String × Value)) : Run Value := do
  match name with
  | "sys.exit" => raiseExit args
  | "sys.getrecursionlimit" => pure (.int 1000)
  | "sys.setrecursionlimit" | "sys.set_int_max_str_digits" => pure .none
  | "sys.getdefaultencoding" => pure (.str "utf-8")
  | "sys.intern" => pure (args.headD .none)
  | "json.loads" =>
    match args with
    | [.str s] => jsonLoads s
    | [other] => typeError ("the JSON object must be str, bytes or bytearray, not " ++ (<- typeName other))
    | _ => typeError "loads() missing 1 required positional argument: 's'"
  | "json.dumps" =>
    match args with
    | [v] => pure (.str (<- jsonDump (<- dumpOptions h kwargs) jsonDepth 0 v))
    | _ => typeError "dumps() missing 1 required positional argument: 'obj'"
  | "os.getenv" => pure (args[1]?.getD .none)
  | "os.getpid" => pure (.int 4242)
  | "os.getcwd" => pure (.str "/")
  | "time.time" => pure (.float 1700000000.0)
  | "time.sleep" => pure .none
  | "time.perf_counter" | "time.monotonic" => pure (.float 0.0)
  | "io.StringIO" =>
    match args with
    | [] => pure (.ref (<- alloc (.textBuffer "" 0)))
    | [.str s] => pure (.ref (<- alloc (.textBuffer s 0)))
    | other :: _ => typeError ("initial_value must be str or None, not " ++ (<- typeName other))
  | "contextlib.redirect_stdout" | "contextlib.redirect_stderr" =>
    pure (.ref (<- alloc (.redirect (args.headD .none) (name == "contextlib.redirect_stdout"))))
  | _ =>
    if name.startsWith "math." then callMath (name.drop 5).toString args
    else raiseException "NameError" ("name '" ++ name ++ "' is not defined")

/-- Runs a built-in function or class by name. -/
def callBuiltin (h : Host) (name : String) (args : List Value) (kwargs : List (String × Value)) :
    Run Value := do
  let one : Run Value := do
    match args with
    | [x] => pure x
    | _ => typeError (name ++ "() takes exactly one argument (" ++ toString args.length ++ " given)")
  match name with
  | "print" => printValues h args kwargs; pure .none
  | "len" => pure (.int (<- h.len (<- one)))
  | "str" =>
    match args with
    | [] => pure (.str "")
    | x :: _ => pure (.str (<- h.str x))
  | "repr" => pure (.str (<- h.repr (<- one)))
  | "ascii" => pure (.str (asciiEscape (<- h.repr (<- one))))
  | "int" => toInt args
  | "float" => toFloat args
  | "bool" =>
    match args with
    | [] => pure (.bool false)
    | x :: _ => pure (.bool (<- h.truthy x))
  | "list" =>
    match args with
    | [] => newList #[]
    | x :: _ => newList (<- h.iterate x)
  | "tuple" =>
    match args with
    | [] => pure (.tuple #[])
    | x :: _ => pure (.tuple (<- h.iterate x))
  | "dict" => do
    let r <- alloc (.dict #[])
    dictUpdate h r args[0]? kwargs
    pure (.ref r)
  | "set" | "frozenset" => do
    let mut items : Array Value := #[]
    if let some x := args[0]? then
      for v in <- h.iterate x do items <- setAdd h items v
    pure (.ref (<- alloc (.set items)))
  | "range" => do
    let ns <- args.mapM intArg
    let (start, stop, step) <- match ns with
      | [b] => pure (0, b, 1)
      | [a, b] => pure (a, b, 1)
      | [a, b, c] => pure (a, b, c)
      | _ => typeError ("range expected at most 3 arguments, got " ++ toString args.length)
    if step == 0 then valueError "range() arg 3 must not be zero"
    pure (.ref (<- alloc (.range start stop step)))
  | "enumerate" => do
    let some it := argOr args kwargs 0 "iterable" | typeError "enumerate() missing required argument 'iterable'"
    let start <- match argOr args kwargs 1 "start" with
      | some v => intArg v
      | none => pure 0
    pure (.ref (<- alloc (.enumerateIter (<- h.iter it) start)))
  | "zip" => pure (.ref (<- alloc (.zipIter (<- args.mapM h.iter))))
  | "map" =>
    match args with
    | f :: its@(_ :: _) => pure (.ref (<- alloc (.mapIter f (<- its.mapM h.iter))))
    | _ => typeError "map() must have at least two arguments."
  | "filter" =>
    match args with
    | [f, it] => pure (.ref (<- alloc (.filterIter f (<- h.iter it))))
    | _ => typeError ("filter expected 2 arguments, got " ++ toString args.length)
  | "reversed" => do
    let x <- one
    let ok <- match x with
      | .str _ | .tuple _ => pure true
      | .ref r =>
        match <- getObj r with
        | .list _ | .range .. | .dict _ | .dictView .. => pure true
        | _ => pure false
      | _ => pure false
    if !ok then typeError ("'" ++ (<- typeName x) ++ "' object is not reversible")
    let items <- h.iterate x
    pure (.ref (<- alloc (.seqIter items.reverse 0)))
  | "sorted" => do
    let some it := args[0]? | typeError "sorted expected 1 argument, got 0"
    let key := match kwarg kwargs "key" with
      | some .none | none => none
      | some f => some f
    let reverse <- match kwarg kwargs "reverse" with
      | some v => h.truthy v
      | none => pure false
    newList (<- sortValues h (<- h.iterate it) key reverse)
  | "sum" => do
    let some it := args[0]? | typeError "sum() takes at least 1 positional argument (0 given)"
    let start := (argOr args kwargs 1 "start").getD (.int 0)
    if let .str _ := start then typeError "sum() can't sum strings [use ''.join(seq) instead]"
    let mut acc := start
    for v in <- h.iterate it do acc <- h.binop .add acc v
    pure acc
  | "min" | "max" => extreme h name args kwargs
  | "abs" => do
    match <- one with
    | .int n => pure (.int n.natAbs)
    | .bool b => pure (.int (if b then 1 else 0))
    | .float x => pure (.float x.abs)
    | other => typeError ("bad operand type for abs(): '" ++ (<- typeName other) ++ "'")
  | "round" => do
    let some x := argOr args kwargs 0 "number" | typeError "round() missing required argument 'number' (pos 1)"
    let places <- optInt (argOr args kwargs 1 "ndigits")
    match x, places with
    | .int n, none => pure (.int n)
    | .int n, some p => pure (.int (roundIntPlaces n p))
    | .bool b, _ => pure (.int (if b then 1 else 0))
    | .float f, none => pure (.int (<- roundFloatToInt f))
    | .float f, some p => pure (.float (roundFloatPlaces f p))
    | other, _ => typeError ("type " ++ (<- typeName other) ++ " doesn't define __round__ method")
  | "divmod" =>
    match args with
    | [a, b] => pure (.tuple #[<- h.binop .floorDiv a b, <- h.binop .mod a b])
    | _ => typeError ("divmod expected 2 arguments, got " ++ toString args.length)
  | "pow" =>
    match args with
    | [a, b] => h.binop .pow a b
    | [a, b, m] => do
      let base <- intArg a
      let e <- intArg b
      let m <- intArg m
      if m == 0 then valueError "pow() 3rd argument cannot be 0"
      if e < 0 then valueError "base is not invertible for the given modulus"
      let mut result : Int := Int.fmod 1 m
      let mut b := Int.fmod base m
      let mut k := e.toNat
      for _ in [0:Nat.log2 k + 2] do
        if k == 0 then break
        if k % 2 == 1 then result := Int.fmod (result * b) m
        b := Int.fmod (b * b) m
        k := k / 2
      pure (.int result)
    | _ => typeError ("pow expected 2 arguments, got " ++ toString args.length)
  | "isinstance" =>
    match args with
    | [x, cls] => pure (.bool (<- isInstance x cls))
    | _ => typeError ("isinstance expected 2 arguments, got " ++ toString args.length)
  | "type" => typeOf (<- one)
  | "hasattr" =>
    match args with
    | [x, .str n] =>
      tryCatch (do let _ ← h.getAttr x n; pure (.bool true)) fun e => do
        match e with
        | .raised exc =>
          match <- getObj (match exc with | .ref r => r | _ => 0) with
          | .exception "AttributeError" _ => pure (.bool false)
          | _ => throw e
        | _ => throw e
    | _ => typeError "hasattr(): attribute name must be string"
  | "getattr" =>
    match args with
    | [x, .str n] => h.getAttr x n
    | [x, .str n, d] =>
      tryCatch (h.getAttr x n) fun e => do
        match e with
        | .raised exc =>
          match <- getObj (match exc with | .ref r => r | _ => 0) with
          | .exception "AttributeError" _ => pure d
          | _ => throw e
        | _ => throw e
    | _ => typeError "getattr(): attribute name must be string"
  | "setattr" =>
    match args with
    | [x, .str n, v] => h.setAttr x n v; pure .none
    | _ => typeError "setattr(): attribute name must be string"
  | "callable" => do
    match <- one with
    | .builtin _ | .method .. => pure (.bool true)
    | .ref r =>
      match <- getObj r with
      | .function .. | .bound .. | .classObj .. => pure (.bool true)
      | _ => pure (.bool false)
    | _ => pure (.bool false)
  | "ord" => do
    match <- one with
    | .str s =>
      match s.toList with
      | [c] => pure (.int c.toNat)
      | _ => typeError ("ord() expected a character, but string of length " ++ toString s.length ++ " found")
    | other => typeError ("ord() expected string of length 1, but " ++ (<- typeName other) ++ " found")
  | "chr" => do
    let n <- intArg (<- one)
    if n < 0 || n > 0x10FFFF then valueError "chr() arg not in range(0x110000)"
    pure (.str (Char.ofNat n.toNat).toString)
  | "hex" => pure (.str (prefixedDigits (<- intArg (<- one)) 16 "0x"))
  | "oct" => pure (.str (prefixedDigits (<- intArg (<- one)) 8 "0o"))
  | "bin" => pure (.str (prefixedDigits (<- intArg (<- one)) 2 "0b"))
  | "any" => do
    for v in ← h.iterate (← one) do
      if <- h.truthy v then return .bool true
    pure (.bool false)
  | "all" => do
    for v in ← h.iterate (← one) do
      if !(<- h.truthy v) then return .bool false
    pure (.bool true)
  | "input" => do
    if let some p := args[0]? then writeOut (<- h.str p)
    flushOut
    let line <- readLine
    pure (.str (line.dropEnd 1).toString)
  | "iter" => h.iter (<- one)
  | "next" =>
    match args with
    | [it] =>
      match <- h.next it with
      | some v => pure v
      | none => throw (.raised (<- newException "StopIteration" #[]))
    | [it, d] =>
      match <- h.next it with
      | some v => pure v
      | none => pure d
    | _ => typeError ("next expected at most 2 arguments, got " ++ toString args.length)
  | "id" => do
    match <- one with
    | .ref r => pure (.int (140000000000000 + 16 * r))
    | _ => pure (.int 9000000)
  | "hash" => do
    match <- one with
    | .int n => pure (.int n)
    | .bool b => pure (.int (if b then 1 else 0))
    | x => requireHashable x; pure (.int 0)
  | "format" =>
    match args with
    | [v] => pure (.str (<- formatValue h v ""))
    | [v, .str spec] => pure (.str (<- formatValue h v spec))
    | _ => typeError "format() argument 2 must be str"
  | "exit" | "quit" => raiseExit args
  | "open" => raiseException "FileNotFoundError" "[Errno 2] No such file or directory"
  | "object" => typeError "object() takes no arguments"
  | _ =>
    if isExceptionClass name then newException name args.toArray
    else callModuleFunction h name args kwargs

end TranscriptTest.Python
