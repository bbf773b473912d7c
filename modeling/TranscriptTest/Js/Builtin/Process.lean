import TranscriptTest.Js.Builtin.Json
import TranscriptTest.Js.Inspect

/-!
# What a standalone script sees of its process

A script run on its own, rather than inside the evaluation service, has `process` and
`require`. It writes to standard output with `console.log`, which formats its arguments as
`util.format` does, and with `process.stdout.write`; what it writes to standard error is seen
by no one. It reads standard input by listening to it: `process.stdin.on('data', f)` hears each
chunk, and a line reader from `require('readline').createInterface` hears each line. A line
reader that is closed hears no more. `process.exit()` ends the script at once. The `util`
module offers `inspect`, with its `depth` option, and `format`.
-/

namespace TranscriptTest.Js

/-- `require(name)`: the line reader module or the `util` module; no other module can be
found. -/
def requireModule : NativeFn := fun h _ args _ => do
  let name <- h.toStr (argAt args 0)
  if name == "readline" || name == "node:readline" then pure (.obj (<- intrinsics).readlineModule)
  else if name == "util" || name == "node:util" then pure (.obj (<- intrinsics).utilModule)
  else raiseError .error ("Cannot find module '" ++ name ++ "'")

/-- `readline.createInterface(options)`: a new line reader over standard input. -/
def createLineReader : NativeFn := fun _ _ _ _ => do
  pure (.obj (<- alloc { proto := some (<- intrinsics).lineReaderProto }))

/-- `on(event, listener)` of a line reader or of standard input: the function is called on each
event of that name. -/
def addListener : NativeFn := fun h this args _ => do
  let event <- h.toStr (argAt args 0)
  let f := argAt args 1
  if !(← isCallable f) then
    throwType ("The \"listener\" argument must be of type function. Received " ++
      (<- inspectValue f))
  modify fun r => { r with listeners := r.listeners.push ⟨event, this, f⟩ }
  pure this

/-- `close()` of a line reader: it stops listening, then its `close` listeners are called. -/
def closeLineReader : NativeFn := fun h this _ _ => do
  let all := (<- get).listeners
  let mine := all.filter fun l => strictEquals l.target this
  modify fun r => { r with listeners := all.filter fun l => !strictEquals l.target this }
  for l in mine do
    if l.event == "close" then
      let _ <- h.call l.fn this []
  pure .undefined

/-- A method that does nothing and gives its object back, such as `setEncoding`. -/
def keepSelf : NativeFn := fun _ this _ _ => pure this

/-- `process.stdout.write(text)`. -/
def stdoutWrite : NativeFn := fun _ _ args _ => do
  match argAt args 0 with
  | .str s =>
    writeText s
    pure (.bool true)
  | v =>
    throwType ("The \"chunk\" argument must be of type string or an instance of Buffer, " ++
      "TypedArray, or DataView. Received " ++ (<- inspectValue v))

/-- `process.stderr.write(text)`: standard error is read by no one. -/
def stderrWrite : NativeFn := fun _ _ _ _ => pure (.bool true)

/-- `process.exit(code)`: the script ends where it is. -/
def processExit : NativeFn := fun h _ args _ => do
  let code <- match argAt args 0 with
    | .undefined => pure 0
    | v => pure (integerPart (integerOf (<- h.toNum v)))
  modify fun r => { r with exitCode := some code }
  throw .exhausted

/-- The text of an argument of `console.log` that a format does not take: text as it is, and
anything else as inspection shows it. -/
def loggedText (v : Value) : Eval String := do
  match v with
  | .str s => pure s
  | _ => inspectValue v

/-- The names of the global constructors and namespaces of the runtime: an object whose
`toString` comes from one of them is shown by `%s` as inspection shows it. -/
def builtInNames : List String :=
  ["Object", "Function", "Array", "Number", "Boolean", "String", "Symbol", "Date", "Promise",
   "RegExp", "Error", "AggregateError", "EvalError", "RangeError", "ReferenceError",
   "SyntaxError", "TypeError", "URIError", "JSON", "Math", "Intl", "ArrayBuffer", "Atomics",
   "Uint8Array", "Int8Array", "Uint16Array", "Int16Array", "Uint32Array", "Int32Array",
   "Float16Array", "Float32Array", "Float64Array", "Uint8ClampedArray", "BigUint64Array",
   "BigInt64Array", "DataView", "Map", "BigInt", "Set", "WeakMap", "WeakSet", "Proxy",
   "Reflect", "FinalizationRegistry", "WeakRef", "SharedArrayBuffer", "WebAssembly", "Iterator",
   "Buffer", "URL", "URLSearchParams", "TextEncoder", "TextDecoder", "AbortController",
   "AbortSignal", "EventTarget", "Event", "MessageChannel", "MessagePort", "MessageEvent",
   "Blob", "Performance", "BroadcastChannel", "DOMException", "Headers", "Request", "Response",
   "FormData", "WebSocket", "File", "Navigator", "Crypto", "CryptoKey", "SubtleCrypto",
   "CustomEvent", "ReadableStream", "WritableStream", "TransformStream", "CompressionStream",
   "DecompressionStream", "TextEncoderStream", "TextDecoderStream", "ByteLengthQueuingStrategy",
   "CountQueuingStrategy", "ReadableStreamDefaultReader", "ReadableStreamBYOBReader",
   "ReadableStreamBYOBRequest", "ReadableByteStreamController",
   "ReadableStreamDefaultController", "TransformStreamDefaultController",
   "WritableStreamDefaultWriter", "WritableStreamDefaultController", "PerformanceEntry",
   "PerformanceMark", "PerformanceMeasure", "PerformanceObserver",
   "PerformanceObserverEntryList", "PerformanceResourceTiming"]

/-- The object on a prototype chain, from `ref` on, that has a property of its own. -/
def ownerOf (key : String) : Nat -> Nat -> Eval (Option Nat)
  | 0, _ => pure none
  | fuel + 1, ref => do
    let o <- getObj ref
    if (ownSlot? o key).isSome then pure (some ref)
    else match o.proto with
      | some p => ownerOf key fuel p
      | none => pure none

/-- Whether `%s` shows an object's inspection rather than its `toString`: it has no
`Symbol.toPrimitive`, and its `toString` is missing or from a built-in prototype. -/
def Host.hasBuiltInToString (h : Host) (ref : Nat) : Eval Bool := do
  if <- isCallable (<- h.get (.obj ref) (wellKnownKey "toPrimitive")) then return false
  if !(<- isCallable (<- h.get (.obj ref) "toString")) then return true
  if (ownSlot? (<- getObj ref) "toString").isSome then return false
  match <- ownerOf "toString" (<- heapBound) ref with
  | none => pure false
  | some owner =>
    match ownSlot? (<- getObj owner) "constructor" with
    | some (.data c _ _ _) =>
      if ← isCallable c then
        match c with
        | .obj cref => pure (builtInNames.contains (functionName (<- getObj cref)))
        | _ => pure false
      else pure false
    | _ => pure false

/-- The text of `%j`: the JSON text of a value, `[Circular]` for one that holds itself. -/
def Host.jsonDirective (h : Host) (v : Value) : Eval String := do
  let attempt : Eval Value := jsonStringify h .undefined [v] none
  let r ← tryCatch (Except.ok <$> attempt) fun
    | .thrown e => pure (Except.error e)
    | other => throw other
  match r with
  | .ok (.str s) => pure s
  | .ok _ => pure "undefined"
  | .error e =>
    let circular <- match e with
      | .obj ref => do
        match (<- getObj ref).kind, ownSlot? (<- getObj ref) "message" with
        | .error, some (.data (.str m) _ _ _) =>
          pure (m.startsWith "Converting circular structure to JSON")
        | _, _ => pure false
      | _ => pure false
    if circular then pure "[Circular]" else throw (.thrown e)

/-- The text one format directive makes of its argument; `none` for a letter that is no
directive. -/
def Host.directiveText (h : Host) (letter : Char) (v : Value) : Eval (Option String) := do
  let numberShown (x : Float) : String := if isNegZero x then "-0" else numberText x
  match letter with
  | 's' =>
    match v with
    | .str s => pure (some s)
    | .num x => pure (some (numberShown x))
    | .bigint n => pure (some (toString n ++ "n"))
    | .symbol .. => pure (some v.primitiveText)
    | .obj ref =>
      -- functions and objects with their own idea of text are converted; the others are
      -- inspected one level deep
      if <- isCallable v then some <$> h.toStr v
      else if <- h.hasBuiltInToString ref then some <$> inspectDeep 0 v
      else some <$> h.toStr v
    | _ => pure (some v.primitiveText)
  | 'd' =>
    match v with
    | .bigint n => pure (some (toString n ++ "n"))
    | .symbol .. => pure (some "NaN")
    | .obj _ => pure (some (numberShown (<- h.toNum v)))
    | _ => pure (some (numberShown v.primitiveNumber))
  | 'i' =>
    match v with
    | .bigint n => pure (some (toString n ++ "n"))
    | .symbol .. => pure (some "NaN")
    | _ => pure (some (numberShown (parseIntText (<- h.toStr v) 10)))
  | 'f' =>
    match v with
    | .symbol .. => pure (some "NaN")
    | _ => pure (some (numberShown (parseFloatText (<- h.toStr v))))
  | 'j' => some <$> h.jsonDirective v
  | 'o' => some <$> inspectDeep 4 v
  | 'O' => some <$> inspectValue v
  | 'c' => pure (some "")
  | _ => pure none

/-- Fills a format's directives (`%s`, `%d`, `%i`, `%f`, `%j`, `%o`, `%O`, `%c`, `%%`) from the
arguments; gives the text and the arguments left. -/
def Host.fillFormat (h : Host) : List Char -> List Value -> String -> Eval (String × List Value)
  | [], args, acc => pure (acc, args)
  | '%' :: '%' :: rest, args, acc => h.fillFormat rest args (acc.push '%')
  | '%' :: c :: rest, v :: args, acc => do
    match <- h.directiveText c v with
    | some t => h.fillFormat rest args (acc ++ t)
    | none => h.fillFormat (c :: rest) (v :: args) (acc.push '%')
  | c :: rest, args, acc => h.fillFormat rest args (acc.push c)

/-- The line `console.log` prints for its arguments: a first argument that is text is a
format, and the arguments left over follow, separated by spaces. -/
def Host.formatLog (h : Host) (args : List Value) : Eval String := do
  match args with
  | .str format :: rest =>
    let (text, left) <- h.fillFormat format.toList rest ""
    let more <- left.mapM loggedText
    pure (" ".intercalate (text :: more))
  | _ => pure (" ".intercalate (<- args.mapM loggedText))

/-- A depth deeper than any value a script builds. -/
def unlimitedDepth : Nat := 100000

/-- `util.inspect(value, options)`: the inspection text, as deep as `depth` says: two levels by
default, no limit for `null` or `Infinity`. -/
def utilInspect : NativeFn := fun h _ args _ => do
  let depthValue <- match argAt args 1 with
    | .obj _ => h.get (argAt args 1) "depth"
    | .bool _ => pure (argAt args 2)
    | _ => pure .undefined
  let depth <- match depthValue with
    | .undefined => pure 2
    | .null => pure unlimitedDepth
    | v => do
      let x <- h.toNum v
      pure (if x.isNaN || x < 0 then 0 else if x ≥ unlimitedDepth.toFloat then unlimitedDepth
        else x.floor.toUInt64.toNat)
  pure (.str (<- inspectDeep depth (argAt args 0)))

/-- `util.format(format, ...values)`: the text `console.log` would print. -/
def utilFormat : NativeFn := fun h _ args _ => do
  pure (.str (<- h.formatLog args))

/-- `console.log` of a standalone script. -/
def consoleLog : NativeFn := fun h _ args _ => do
  printLine (<- h.formatLog args)
  pure .undefined

end TranscriptTest.Js
