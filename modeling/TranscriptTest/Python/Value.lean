import TranscriptTest.Python.Syntax
import TranscriptTest.Decimal.Shortest
import TranscriptTest.Unicode.Category
import TranscriptTest.Unicode.CaseMap

/-!
# Python values and the running program

Values are the immutable ones held directly (`None`, booleans, integers of any size, floats,
strings, tuples, built-in functions and classes, bound built-in methods, modules and the three
standard files) and references to objects on a heap: lists, dictionaries, sets, functions,
classes, instances, exceptions, scopes and iterators. Mutation goes through the heap, so that
two names for one list see the same changes.
-/

namespace TranscriptTest.Python

open TranscriptTest.Decimal

/-- Run-time values. -/
inductive Value where
  | none
  | bool (b : Bool)
  | int (n : Int)
  | float (x : Float)
  | str (s : String)
  | tuple (items : Array Value)
  /-- An object on the heap. -/
  | ref (r : Nat)
  /-- A built-in function or class, by name (`len`, `int`, `ValueError`). -/
  | builtin (name : String)
  /-- A built-in method bound to the value it was read from (`"a".upper`). -/
  | method (self : Value) (name : String)
  /-- A module, by name (`sys`, `json`, `math`). -/
  | module (name : String)
  /-- A standard file: 0 input, 1 output, 2 error output. -/
  | file (fd : Nat)
  | ellipsis
  deriving Inhabited

/-- Objects on the heap. -/
inductive Obj where
  | list (items : Array Value)
  /-- A dictionary: its entries in insertion order. -/
  | dict (entries : Array (Value × Value))
  | set (items : Array Value)
  /-- A function: its name, its parameters with their default values, its body (a lambda's body
  is one `return`), and the scope it closes over. -/
  | function (name : String) (params : List (String × ParamKind × Option Value)) (body : List Stmt)
      (scope : Nat)
  /-- A function bound to the instance it was read from. -/
  | bound (self : Value) (fn : Value)
  /-- A scope: its names, the scope around it, the names it declares `global` or `nonlocal`,
  and whether it is the body of a class, which the functions defined in it do not see. -/
  | scope (vars : Array (String × Value)) (parent : Option Nat) (globals : List String)
      (nonlocals : List String) (classBody : Bool)
  /-- A view of a dictionary's keys, values or items. -/
  | dictView (kind : String) (dict : Nat)
  /-- What `super()` gives in a method: the instance, seen from the bases of the class that
  defines the method. -/
  | superOf (cls : Nat) (self : Value)
  /-- An in-memory text file (`io.StringIO`): its text and the position reads and writes start
  at. -/
  | textBuffer (text : String) (pos : Nat)
  /-- What `contextlib.redirect_stdout` (or `redirect_stderr`) gives: a context that sends the
  standard output to a target while it is entered. -/
  | redirect (target : Value) (stdout : Bool)
  /-- A class: its name, its bases and its attributes. -/
  | classObj (name : String) (bases : List Value) (attrs : Array (String × Value))
  /-- An instance of a class, with its attributes. -/
  | inst (cls : Nat) (attrs : Array (String × Value))
  /-- An exception of a built-in class, with its arguments. -/
  | exception (cls : String) (args : Array Value)
  /-- An iterator over a fixed sequence of values. -/
  | seqIter (items : Array Value) (pos : Nat)
  /-- An iterator over a list, which sees the list change. -/
  | listIter (list : Nat) (pos : Nat)
  /-- An iterator over a range of integers. -/
  | rangeIter (next stop step : Int)
  /-- `range(start, stop, step)`. -/
  | range (start stop step : Int)
  /-- The lines of standard input, read as they are asked for. -/
  | stdinIter
  /-- `map(f, iterators...)`, `filter(f, iterator)`, `zip(iterators...)` and
  `enumerate(iterator, start)`, each taking values as they are asked for. -/
  | mapIter (fn : Value) (sources : List Value)
  | filterIter (fn : Value) (source : Value)
  | zipIter (sources : List Value)
  | enumerateIter (source : Value) (count : Int)
  deriving Inhabited

/-- Why a statement ends early. -/
inductive Signal where
  | returned (v : Value)
  | broke
  | continued
  | raised (exc : Value)
  | exited (code : Nat)
  /-- The program needs a line of input that has not come. -/
  | waiting
  /-- The budget of steps is spent. -/
  | exhausted
  deriving Inhabited

/-- A running program. -/
structure Machine where
  heap : Array Obj := #[]
  globals : Nat := 0
  /-- The lines given on standard input so far, without their line feeds. -/
  input : Array String := #[]
  /-- How many of them have been read. -/
  cursor : Nat := 0
  /-- Output that has reached the pipe. -/
  out : String := ""
  /-- Output waiting in the buffer. -/
  pending : String := ""
  /-- Whether output is written at once (`-u`). -/
  unbuffered : Bool := false
  /-- Steps left before the run counts as never ending. -/
  budget : Nat := 5000000
  /-- The exception being handled, for a bare `raise`. -/
  handling : List Value := []
  /-- How deeply function calls are nested. -/
  depth : Nat := 0
  /-- The lists that the generator functions being run collect their values in, innermost
  first. -/
  yields : List Nat := []
  /-- Where standard output goes instead of the pipe, innermost redirection first. -/
  redirects : List Value := []
  deriving Inhabited

/-- The run monad. -/
abbrev Run := ExceptT Signal (StateM Machine)

/-- Spends one step of the budget. -/
def tick : Run Unit := do
  let m <- get
  if m.budget == 0 then throw .exhausted
  set { m with budget := m.budget - 1 }

/-- Puts an object on the heap. -/
def alloc (o : Obj) : Run Nat := do
  let m <- get
  set { m with heap := m.heap.push o }
  pure m.heap.size

/-- The object at a reference. -/
def getObj (r : Nat) : Run Obj := do
  pure ((<- get).heap.getD r default)

/-- Replaces the object at a reference. -/
def setObj (r : Nat) (o : Obj) : Run Unit :=
  modify fun m => { m with heap := m.heap.set! r o }

/-- The size of a buffer of output: buffered output reaches the pipe in blocks of this many
bytes. -/
def bufferSize : Nat := 8192

/-- Writes text to the pipe of standard output: at once when unbuffered, else into the buffer,
which goes out whenever it fills. -/
def writePipe (s : String) : Run Unit :=
  modify fun m =>
    if m.unbuffered then { m with out := m.out ++ s }
    else
      let pending := m.pending ++ s
      if pending.utf8ByteSize >= bufferSize then { m with out := m.out ++ pending, pending := "" }
      else { m with pending := pending }

/-- Writes text into an in-memory file at its position, over what is there. -/
def bufferWrite (r : Nat) (s : String) : Run Unit := do
  match <- getObj r with
  | .textBuffer text pos =>
    let cs := text.toList
    let cs := cs.take pos ++ List.replicate (pos - cs.length) '\x00' ++ s.toList ++ cs.drop (pos + s.length)
    setObj r (.textBuffer (String.ofList cs) (pos + s.length))
  | _ => pure ()

/-- Writes text to a file: an in-memory one, standard output's pipe, or standard error, which
nothing here reads. -/
def writeTo (target : Value) (s : String) : Run Unit := do
  match target with
  | .ref r => bufferWrite r s
  | .file 1 => writePipe s
  | _ => pure ()

/-- Writes text to standard output, wherever it is sent now. -/
def writeOut (s : String) : Run Unit := do
  match (<- get).redirects with
  | target :: _ => writeTo target s
  | [] => writePipe s

/-- Sends the buffered output to the pipe. -/
def flushOut : Run Unit :=
  modify fun m => { m with out := m.out ++ m.pending, pending := "" }

/-- The next line of input with its line feed, waiting if none has come. -/
def readLine : Run String := do
  let m <- get
  match m.input[m.cursor]? with
  | some line =>
    set { m with cursor := m.cursor + 1 }
    pure (line ++ "\n")
  | none => throw .waiting

/-! ## Exceptions -/

/-- The built-in exception classes, each with its base class. -/
def exceptionBases : List (String × String) :=
  [("BaseException", ""), ("Exception", "BaseException"), ("SystemExit", "BaseException"),
   ("KeyboardInterrupt", "BaseException"), ("GeneratorExit", "BaseException"),
   ("ArithmeticError", "Exception"), ("ZeroDivisionError", "ArithmeticError"),
   ("OverflowError", "ArithmeticError"), ("FloatingPointError", "ArithmeticError"),
   ("LookupError", "Exception"), ("IndexError", "LookupError"), ("KeyError", "LookupError"),
   ("ValueError", "Exception"), ("UnicodeError", "ValueError"),
   ("UnicodeDecodeError", "UnicodeError"), ("UnicodeEncodeError", "UnicodeError"),
   ("JSONDecodeError", "ValueError"), ("TypeError", "Exception"), ("NameError", "Exception"),
   ("UnboundLocalError", "NameError"), ("AttributeError", "Exception"),
   ("RuntimeError", "Exception"), ("RecursionError", "RuntimeError"),
   ("NotImplementedError", "RuntimeError"), ("StopIteration", "Exception"),
   ("AssertionError", "Exception"), ("ImportError", "Exception"),
   ("SyntaxError", "Exception"), ("IndentationError", "SyntaxError"),
   ("ModuleNotFoundError", "ImportError"), ("OSError", "Exception"), ("EOFError", "Exception"),
   ("FileNotFoundError", "OSError"), ("MemoryError", "Exception")]

/-- Whether a name is a built-in exception class. -/
def isExceptionClass (name : String) : Bool :=
  (exceptionBases.lookup name).isSome

/-- Whether a built-in exception class is another or derives from it. -/
def exceptionDerives (cls target : String) : Bool :=
  go 16 cls
where
  go : Nat -> String -> Bool
    | 0, _ => false
    | fuel + 1, c => c == target || match exceptionBases.lookup c with
      | some "" | none => false
      | some base => go fuel base

/-- A new exception of a built-in class. -/
def newException (cls : String) (args : Array Value) : Run Value := do
  pure (.ref (<- alloc (.exception cls args)))

/-- Raises a built-in exception with a message. -/
def raiseException {α : Type} (cls : String) (message : String) : Run α := do
  throw (.raised (<- newException cls #[.str message]))

/-- Raises a `TypeError`. -/
def typeError {α : Type} (message : String) : Run α := raiseException "TypeError" message

/-- Raises a `ValueError`. -/
def valueError {α : Type} (message : String) : Run α := raiseException "ValueError" message

/-! ## Types -/

/-- The name of a value's type, as `type(x).__name__` gives it. -/
def typeName (v : Value) : Run String := do
  match v with
  | .none => pure "NoneType"
  | .bool _ => pure "bool"
  | .int _ => pure "int"
  | .float _ => pure "float"
  | .str _ => pure "str"
  | .tuple _ => pure "tuple"
  | .builtin n => pure (if isExceptionClass n || ["int", "str", "float", "bool", "list", "dict",
      "tuple", "set", "object", "type", "range", "frozenset", "bytes"].contains n then "type"
      else "builtin_function_or_method")
  | .method _ _ => pure "builtin_function_or_method"
  | .module _ => pure "module"
  | .file _ => pure "TextIOWrapper"
  | .ellipsis => pure "ellipsis"
  | .ref r =>
    match <- getObj r with
    | .list _ => pure "list"
    | .dict _ => pure "dict"
    | .set _ => pure "set"
    | .function .. => pure "function"
    | .bound .. => pure "method"
    | .classObj .. => pure "type"
    | .inst cls _ => do
      match <- getObj cls with
      | .classObj name _ _ => pure name
      | _ => pure "object"
    | .exception cls _ => pure cls
    | .range .. => pure "range"
    | .seqIter .. => pure "iterator"
    | .listIter .. => pure "list_iterator"
    | .rangeIter .. => pure "range_iterator"
    | .stdinIter => pure "TextIOWrapper"
    | .mapIter .. => pure "map"
    | .filterIter .. => pure "filter"
    | .zipIter .. => pure "zip"
    | .enumerateIter .. => pure "enumerate"
    | .scope .. => pure "dict"
    | .dictView kind _ => pure ("dict_" ++ kind)
    | .superOf .. => pure "super"
    | .textBuffer .. => pure "StringIO"
    | .redirect _ out => pure (if out then "redirect_stdout" else "redirect_stderr")

/-! ## Text -/

def otherTable : Unicode.RangeTable := (Unicode.category? "C").getD default
def separatorTable : Unicode.RangeTable := (Unicode.category? "Z").getD default

/-- Whether a character prints as itself in `repr`. -/
def isPrintable (c : Char) : Bool :=
  c == ' ' || !(otherTable.contains c || separatorTable.contains c)

/-- Hexadecimal digits of a number, lower case, padded to a width. -/
def hexPadded (n width : Nat) : String :=
  let digits := Nat.toDigits 16 n
  String.ofList (List.replicate (width - digits.length) '0' ++ digits)

/-- The `repr` of a string: in `'` unless it holds `'` and no `"`, escaping backslashes, the
quote, line breaks, tabs and characters that do not print. -/
def strRepr (s : String) : String :=
  let quote := if s.contains '\'' && !s.contains '"' then '"' else '\''
  let body := s.toList.foldl (fun acc c =>
    acc ++ (if c == '\\' then "\\\\"
      else if c == quote then "\\" ++ c.toString
      else if c == '\n' then "\\n"
      else if c == '\r' then "\\r"
      else if c == '\t' then "\\t"
      else if isPrintable c then c.toString
      else if c.toNat < 0x100 then "\\x" ++ hexPadded c.toNat 2
      else if c.toNat < 0x10000 then "\\u" ++ hexPadded c.toNat 4
      else "\\U" ++ hexPadded c.toNat 8)) ""
  quote.toString ++ body ++ quote.toString

/-- The most digits an integer may be written with. -/
def intDigitLimit : Nat := 4300

/-- The decimal text of an integer; too many digits is a `ValueError`. -/
def intText (n : Int) : Run String := do
  let s := toString n.natAbs
  if s.length > intDigitLimit then
    valueError ("Exceeds the limit (4300 digits) for integer string conversion; use sys.set_int_max_str_digits() to increase the limit")
  pure ((if n < 0 then "-" else "") ++ s)

/-- The `repr` of a float: its shortest decimal, positional when the exponent is from -4 to 15,
scientific otherwise; a whole number keeps `.0`. -/
def floatRepr (x : Float) : String :=
  if x.isNaN then "nan"
  else if x.isInf then (if x > 0 then "inf" else "-inf")
  else
    let negative := x < 0 || (x == 0 && 1 / x < 0)
    let d := Decimal.ofFloat (if x < 0 then -x else x)
    let digits := toString d.digits
    let n := digits.length
    let point : Int := n + d.exponent
    let body :=
      if d.digits == 0 then "0.0"
      else if point > 16 || point ≤ -4 then
        let e := point - 1
        let mantissa := if n == 1 then digits else (digits.take 1).toString ++ "." ++ (digits.drop 1).toString
        let expText := toString e.natAbs
        let expText := if expText.length < 2 then "0" ++ expText else expText
        mantissa ++ "e" ++ (if e < 0 then "-" else "+") ++ expText
      else if point ≤ 0 then
        "0." ++ String.ofList (List.replicate (-point).toNat '0') ++ digits
      else if point.toNat < n then
        (digits.take point.toNat).toString ++ "." ++ (digits.drop point.toNat).toString
      else digits ++ String.ofList (List.replicate (point.toNat - n) '0') ++ ".0"
    (if negative then "-" else "") ++ body

/-! ## Numbers -/

/-- The number a value stands for in arithmetic: booleans count as integers. -/
inductive Num where
  | int (n : Int)
  | float (x : Float)

/-- A value as a number, if it is one. -/
def Value.num? : Value -> Option Num
  | .bool b => some (.int (if b then 1 else 0))
  | .int n => some (.int n)
  | .float x => some (.float x)
  | _ => Option.none

/-- An integer as a float, rounding to nearest. -/
def intToFloat (n : Int) : Float :=
  if n >= 0 then Float.ofNat n.toNat else -(Float.ofNat n.natAbs)

/-- A number as a float. -/
def Num.toFloat : Num -> Float
  | .int n => intToFloat n
  | .float x => x

/-- The remainder of floats with the sign of the divisor. -/
def floatMod (a b : Float) : Float :=
  let r := a - b * (a / b).floor
  if r != 0 && ((r < 0) != (b < 0)) then r + b else r

/-- A float as an integer, truncating; infinities and NaN cannot be. -/
def floatToInt (x : Float) : Run Int := do
  if x.isNaN then valueError "cannot convert float NaN to integer"
  if x.isInf then raiseException "OverflowError" "cannot convert float infinity to integer"
  let b := Binary.ofFloat x
  let whole : Nat := if b.exponent >= 0 then b.mantissa * Nat.pow 2 b.exponent.toNat
    else b.mantissa / Nat.pow 2 (-b.exponent).toNat
  pure (if b.negative then -(whole : Int) else whole)

end TranscriptTest.Python
