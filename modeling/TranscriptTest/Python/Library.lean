import TranscriptTest.Python.Builtins

/-!
# Built-in functions, methods and modules

`callBuiltin` runs a built-in function by name: the functions every program sees (`print`,
`len`, `sorted`, ...), the classes that convert (`int`, `str`, `list`, ...), the exception
classes, and the functions of the modules `sys`, `json`, `math` and `string`. `callMethod` runs a
method of a built-in kind of value: strings, lists, dictionaries, sets, tuples, numbers and the
standard files.
-/

namespace TranscriptTest.Python

/-- The built-in functions and classes every program sees. -/
def builtinNames : List String :=
  ["print", "len", "str", "repr", "int", "float", "bool", "list", "tuple", "dict", "set",
   "frozenset", "range", "enumerate", "zip", "map", "filter", "reversed", "sorted", "sum", "min",
   "max", "abs", "round", "divmod", "pow", "isinstance", "issubclass", "type", "hasattr",
   "getattr", "callable", "ord", "chr", "hex", "oct", "bin", "any", "all", "input", "iter",
   "next", "id", "hash", "format", "exit", "quit", "object", "ascii", "open", "bytes", "super",
   "eval", "exec", "globals", "locals", "vars"] ++
  exceptionBases.map (·.1)

/-- The modules a program may import. -/
def knownModules : List String :=
  ["sys", "json", "math", "string", "os", "time", "re", "io", "functools", "itertools",
   "collections", "random", "typing", "__future__", "contextlib"]

/-- The methods of each built-in kind of value. -/
def methodNames (kind : String) : List String :=
  match kind with
  | "str" =>
    ["upper", "lower", "strip", "lstrip", "rstrip", "split", "rsplit", "splitlines", "join",
     "replace", "startswith", "endswith", "find", "rfind", "index", "rindex", "count", "isdigit",
     "isalpha", "isalnum", "isspace", "isupper", "islower", "isnumeric", "isdecimal", "istitle",
     "isidentifier", "isprintable", "isascii", "title", "capitalize", "swapcase", "casefold",
     "center", "ljust", "rjust", "zfill", "format", "partition", "rpartition", "removeprefix",
     "removesuffix", "expandtabs", "encode", "format_map"]
  | "list" =>
    ["append", "extend", "insert", "pop", "remove", "index", "count", "sort", "reverse", "copy",
     "clear"]
  | "dict" =>
    ["get", "keys", "values", "items", "pop", "popitem", "setdefault", "update", "copy", "clear"]
  | "set" =>
    ["add", "remove", "discard", "pop", "union", "intersection", "difference",
     "symmetric_difference", "update", "issubset", "issuperset", "isdisjoint", "copy", "clear"]
  | "tuple" => ["index", "count"]
  | "int" => ["bit_length", "conjugate", "to_bytes"]
  | "float" => ["is_integer", "conjugate"]
  | "stdin" => ["readline", "readlines", "read", "isatty", "fileno", "close"]
  | "stdout" => ["write", "flush", "isatty", "fileno", "writelines", "close"]
  | "StringIO" => ["write", "getvalue", "read", "readline", "close", "flush", "seek", "truncate",
    "writelines", "tell"]
  | _ => []

/-- The functions and constants of a module: constants as values, functions as named
built-ins. -/
def moduleAttr (m name : String) : Option Value :=
  let fn (names : List String) : Option Value :=
    if names.contains name then some (.builtin (m ++ "." ++ name)) else none
  match m with
  | "sys" =>
    match name with
    | "stdin" => some (.file 0)
    | "stdout" => some (.file 1)
    | "stderr" => some (.file 2)
    | "maxsize" => some (.int 9223372036854775807)
    | "platform" => some (.str "linux")
    | "byteorder" => some (.str "little")
    | "version" => some (.str "3.12.3 (main, Nov  6 2025, 13:44:16) [GCC 13.3.0]")
    | "executable" => some (.str "/usr/bin/python3")
    | _ => fn ["exit", "getrecursionlimit", "setrecursionlimit", "getdefaultencoding",
        "set_int_max_str_digits", "intern"]
  | "json" =>
    if name == "JSONDecodeError" then some (.builtin "JSONDecodeError")
    else fn ["loads", "dumps"]
  | "math" =>
    match name with
    | "pi" => some (.float 3.141592653589793)
    | "e" => some (.float 2.718281828459045)
    | "tau" => some (.float 6.283185307179586)
    | "inf" => some (.float (1.0 / 0.0))
    | "nan" => some (.float (0.0 / 0.0))
    | _ => fn ["sqrt", "floor", "ceil", "trunc", "fabs", "pow", "exp", "log", "log10", "log2",
        "sin", "cos", "tan", "asin", "acos", "atan", "atan2", "hypot", "gcd", "lcm", "factorial",
        "isnan", "isinf", "isfinite", "copysign", "degrees", "radians", "prod", "comb", "perm",
        "isqrt", "fsum", "isclose"]
  | "string" =>
    match name with
    | "ascii_letters" => some (.str "abcdefghijklmnopqrstuvwxyzABCDEFGHIJKLMNOPQRSTUVWXYZ")
    | "ascii_lowercase" => some (.str "abcdefghijklmnopqrstuvwxyz")
    | "ascii_uppercase" => some (.str "ABCDEFGHIJKLMNOPQRSTUVWXYZ")
    | "digits" => some (.str "0123456789")
    | "hexdigits" => some (.str "0123456789abcdefABCDEF")
    | "octdigits" => some (.str "01234567")
    | "punctuation" => some (.str "!\"#$%&'()*+,-./:;<=>?@[\\]^_\x60\x7b|\x7d~")
    | "whitespace" => some (.str " \t\n\r\x0b\x0c")
    | _ => none
  | "os" =>
    match name with
    | "linesep" => some (.str "\n")
    | "sep" => some (.str "/")
    | "name" => some (.str "posix")
    | _ => fn ["getenv", "getpid", "getcwd"]
  | "time" => fn ["time", "sleep", "perf_counter", "monotonic"]
  | "io" => fn ["StringIO"]
  | "contextlib" => fn ["redirect_stdout", "redirect_stderr"]
  | _ => none

/-- A new list on the heap. -/
def newList (items : Array Value) : Run Value := do
  pure (.ref (<- alloc (.list items)))

/-- A new dictionary on the heap. -/
def newDict (entries : Array (Value × Value)) : Run Value := do
  pure (.ref (<- alloc (.dict entries)))

/-- The items of a list, or a type error. -/
def listItems (v : Value) : Run (Nat × Array Value) := do
  match v with
  | .ref r =>
    match <- getObj r with
    | .list items => pure (r, items)
    | _ => typeError "expected a list"
  | _ => typeError "expected a list"

/-- The entries of a dictionary, if the value is one. -/
def dictEntries? (v : Value) : Run (Option (Nat × Array (Value × Value))) := do
  match v with
  | .ref r =>
    match <- getObj r with
    | .dict entries => pure (some (r, entries))
    | _ => pure none
  | _ => pure none

/-- Where a key is in dictionary entries. -/
def findKey (h : Host) (entries : Array (Value × Value)) (k : Value) : Run (Option Nat) := do
  for i in [0:entries.size] do
    let (key, _) := entries[i]!
    let same <- match key, k with
      | .str a, .str b => pure (a == b)
      | .str _, .int _ => pure false
      | .int _, .str _ => pure false
      | .int a, .int b => pure (a == b)
      | _, _ => h.eq key k
    if same then return some i
  pure none

/-- Looks a key up in a dictionary. -/
def dictGet (h : Host) (r : Nat) (k : Value) : Run (Option Value) := do
  match <- getObj r with
  | .dict entries =>
    match <- findKey h entries k with
    | some i => pure (some entries[i]!.2)
    | none => pure none
  | _ => pure none

/-- Sets a key of a dictionary. -/
def dictSet (h : Host) (r : Nat) (k v : Value) : Run Unit := do
  match <- getObj r with
  | .dict entries =>
    match <- findKey h entries k with
    | some i => setObj r (.dict (entries.set! i (entries[i]!.1, v)))
    | none => setObj r (.dict (entries.push (k, v)))
  | _ => pure ()

/-- Whether a value is hashable, as dictionary keys and set members must be. -/
def requireHashable (v : Value) : Run Unit := do
  match v with
  | .ref r =>
    match <- getObj r with
    | .list _ => typeError "unhashable type: 'list'"
    | .dict _ => typeError "unhashable type: 'dict'"
    | .set _ => typeError "unhashable type: 'set'"
    | _ => pure ()
  | _ => pure ()

/-- Adds a value to set items if it is not there. -/
def setAdd (h : Host) (items : Array Value) (v : Value) : Run (Array Value) := do
  requireHashable v
  for x in items do
    if <- h.eq x v then return items
  pure (items.push v)

/-- Sorts values by keys, stably; with `reverse`, equal keys keep their order. -/
def sortValues (h : Host) (items : Array Value) (key : Option Value) (reverse : Bool) :
    Run (Array Value) := do
  let keyed ← items.mapM fun v => do
    match key with
    | some f => pure (<- h.call f [v] [], v)
    | none => pure (v, v)
  let keyed := if reverse then keyed.reverse else keyed
  let sorted <- Sort.timSort (fun a b => h.lt a.1 b.1) keyed
  let sorted := if reverse then sorted.reverse else sorted
  pure (sorted.map (·.2))

/-- Whether a value is an instance of a class (or of one of a tuple of classes). -/
def isInstance (v cls : Value) : Run Bool := do
  match cls with
  | .tuple items => do
    for c in items do
      if <- isInstance1 v c then return true
    pure false
  | c => isInstance1 v c
where
  /-- Whether a class, by reference, is another or derives from it. -/
  classDerives : Nat -> Nat -> Value -> Run Bool
    | 0, _, _ => pure false
    | fuel + 1, r, target => do
      match target with
      | .ref t => if t == r then return true
      | _ => pure ()
      match <- getObj r with
      | .classObj _ bases _ =>
        for b in bases do
          match b, target with
          | .ref br, _ => if <- classDerives fuel br target then return true
          | .builtin bn, .builtin tn => if exceptionDerives bn tn || bn == tn then return true
          | _, _ => pure ()
        pure false
      | _ => pure false
  isInstance1 (v cls : Value) : Run Bool := do
    match cls with
    | .builtin "object" => pure true
    | .builtin t =>
      match v with
      | .bool _ => pure (t == "bool" || t == "int")
      | .int _ => pure (t == "int")
      | .float _ => pure (t == "float")
      | .str _ => pure (t == "str")
      | .tuple _ => pure (t == "tuple")
      | .none => pure false
      | .ref r =>
        match <- getObj r with
        | .exception c _ => pure (exceptionDerives c t)
        | .inst c _ => classDerives 64 c cls
        | _ => pure ((<- typeName v) == t)
      | _ => pure ((<- typeName v) == t)
    | .ref _ =>
      match v with
      | .ref r =>
        match <- getObj r with
        | .inst c _ => classDerives 64 c cls
        | _ => pure false
      | _ => pure false
    | _ => typeError "isinstance() arg 2 must be a type, a tuple of types, or a union"

/-- Writes the arguments of `print`. -/
def printValues (h : Host) (args : List Value) (kwargs : List (String × Value)) : Run Unit := do
  let sep <- match kwarg kwargs "sep" with
    | none | some .none => pure " "
    | some (.str s) => pure s
    | some other => typeError ("sep must be None or a string, not " ++ (<- typeName other))
  let end_ <- match kwarg kwargs "end" with
    | none | some .none => pure "\n"
    | some (.str s) => pure s
    | some other => typeError ("end must be None or a string, not " ++ (<- typeName other))
  let texts <- args.mapM h.str
  let text := sep.intercalate texts ++ end_
  match kwarg kwargs "file" with
  | none | some .none => writeOut text
  | some target => writeTo target text
  match kwarg kwargs "flush" with
  | some f => if <- h.truthy f then flushOut
  | none => pure ()

/-- Arithmetic on two numbers for the math functions. -/
def floatArg (v : Value) : Run Float := do
  match v.num? with
  | some n => pure n.toFloat
  | none => typeError ("must be real number, not " ++ (<- typeName v))

/-- A float result of a math function: NaN from a number is a domain error. -/
def mathResult (x : Float) (input : Float) : Run Value := do
  if x.isNaN && !input.isNaN then valueError "math domain error"
  pure (.float x)

/-- The greatest common divisor. -/
def gcdInt (a b : Int) : Int := Int.ofNat (Nat.gcd a.natAbs b.natAbs)

/-- The number of ways to choose `k` of `n` things. -/
def chooseNat (n k : Nat) : Nat :=
  if k > n then 0 else (List.range k).foldl (fun acc i => acc * (n - i) / (i + 1)) 1

/-- Runs a function of the `math` module. -/
def callMath (name : String) (args : List Value) : Run Value := do
  let one : Run Float := do
    match args with
    | [x] => floatArg x
    | _ => typeError ("math." ++ name ++ "() takes exactly one argument (" ++ toString args.length ++ " given)")
  match name with
  | "sqrt" => let x <- one; if x < 0 then valueError "math domain error" else pure (.float x.sqrt)
  | "floor" =>
    match args with
    | [.int n] => pure (.int n)
    | [.bool b] => pure (.int (if b then 1 else 0))
    | _ => do let x <- one; pure (.int (<- floatToInt x.floor))
  | "ceil" =>
    match args with
    | [.int n] => pure (.int n)
    | _ => do let x <- one; pure (.int (<- floatToInt x.ceil))
  | "trunc" =>
    match args with
    | [.int n] => pure (.int n)
    | _ => do let x <- one; pure (.int (<- floatToInt x))
  | "fabs" => let x <- one; pure (.float x.abs)
  | "exp" => let x <- one; pure (.float x.exp)
  | "log" =>
    match args with
    | [x] => do
      let v <- floatArg x
      if v <= 0 then valueError "math domain error"
      pure (.float v.log)
    | [x, b] => do
      let v <- floatArg x
      let base <- floatArg b
      if v <= 0 || base <= 0 then valueError "math domain error"
      pure (.float (v.log / base.log))
    | _ => typeError "log expected 1 or 2 arguments"
  | "log10" => let x <- one; if x <= 0 then valueError "math domain error" else pure (.float x.log10)
  | "log2" => let x <- one; if x <= 0 then valueError "math domain error" else pure (.float x.log2)
  | "sin" => let x <- one; mathResult x.sin x
  | "cos" => let x <- one; mathResult x.cos x
  | "tan" => let x <- one; mathResult x.tan x
  | "asin" => let x <- one; mathResult x.asin x
  | "acos" => let x <- one; mathResult x.acos x
  | "atan" => let x <- one; pure (.float x.atan)
  | "atan2" =>
    match args with
    | [y, x] => pure (.float (Float.atan2 (<- floatArg y) (<- floatArg x)))
    | _ => typeError "atan2 expected 2 arguments"
  | "hypot" => do
    let xs <- args.mapM floatArg
    pure (.float (xs.foldl (fun acc x => acc + x * x) 0).sqrt)
  | "pow" =>
    match args with
    | [a, b] => pure (.float (Float.pow (<- floatArg a) (<- floatArg b)))
    | _ => typeError "pow expected 2 arguments"
  | "gcd" => do
    let ns <- args.mapM intArg
    pure (.int (ns.foldl gcdInt 0))
  | "lcm" => do
    let ns <- args.mapM intArg
    pure (.int (ns.foldl (fun a b => if a == 0 || b == 0 then 0 else Int.natAbs (a * b) / gcdInt a b) 1))
  | "factorial" =>
    match args with
    | [v] => do
      let n <- intArg v
      if n < 0 then valueError "factorial() not defined for negative values"
      pure (.int (((List.range n.toNat).foldl (fun acc k => acc * (k + 1)) 1 : Nat) : Int))
    | _ => typeError "factorial() takes exactly one argument"
  | "isqrt" =>
    match args with
    | [v] => do
      let n <- intArg v
      if n < 0 then valueError "isqrt() argument must be nonnegative"
      pure (.int (Nat.sqrt n.toNat))
    | _ => typeError "isqrt() takes exactly one argument"
  | "isnan" => let x <- one; pure (.bool x.isNaN)
  | "isinf" => let x <- one; pure (.bool x.isInf)
  | "isfinite" => let x <- one; pure (.bool x.isFinite)
  | "copysign" =>
    match args with
    | [a, b] => do
      let x <- floatArg a
      let y <- floatArg b
      let negative := y < 0 || (y == 0 && 1 / y < 0)
      pure (.float (if negative then -x.abs else x.abs))
    | _ => typeError "copysign expected 2 arguments"
  | "degrees" => let x <- one; pure (.float (x * 180 / 3.141592653589793))
  | "radians" => let x <- one; pure (.float (x * 3.141592653589793 / 180))
  | "comb" =>
    match args with
    | [a, b] => do
      let n <- intArg a
      let k <- intArg b
      if n < 0 || k < 0 then valueError "n must be a non-negative integer"
      pure (.int (chooseNat n.toNat k.toNat))
    | _ => typeError "comb expected 2 arguments"
  | "perm" =>
    match args with
    | [a, b] => do
      let n <- intArg a
      let k <- intArg b
      pure (.int (if k > n then 0 else (List.range k.toNat).foldl (fun acc (i : Nat) => acc * (n - (i : Int))) (1 : Int)))
    | _ => typeError "perm expected 2 arguments"
  | "isclose" =>
    match args with
    | [a, b] => do
      let x <- floatArg a
      let y <- floatArg b
      pure (.bool (x == y || (x - y).abs <= 1e-09 * (if x.abs < y.abs then y.abs else x.abs)))
    | _ => typeError "isclose expected 2 arguments"
  | _ => raiseException "AttributeError" ("module 'math' has no attribute '" ++ name ++ "'")

end TranscriptTest.Python
