import TranscriptTest.Js.Syntax
import TranscriptTest.Js.Number
import TranscriptTest.Text.Units
import TranscriptTest.Js.Utf16
import TranscriptTest.Js.Element
import TranscriptTest.Locale.Numbers
import TranscriptTest.Unicode.Collation

/-!
# Values, objects and the realm

A value is a primitive or a reference to an object in the realm's heap. Objects hold their
properties in insertion order, a prototype, and what kind of object they are: a plain object,
an array with its items (holes are `none`), a function made from script text, a built-in
function, and so on. Scopes also live in the realm, so that functions share the bindings they
close over. The realm also keeps the lines printed by the current evaluation and the evaluation
budget: every step spends one unit, and a script that spends them all has run out of time.
-/

namespace TranscriptTest.Js

/-- A script value. -/
inductive Value where
  | undefined
  | null
  | bool (b : Bool)
  | num (x : Float)
  | str (s : String)
  /-- An integer of any size. -/
  | bigint (n : Int)
  /-- A symbol: its identity, a number no other symbol of the realm has, and its description. -/
  | symbol (id : Nat) (description : Option String)
  | obj (ref : Nat)
  deriving Inhabited

/-- A property: a value with its attributes, or a getter and a setter (function objects). -/
inductive Slot where
  | data (value : Value) (writable enumerable configurable : Bool)
  | accessor (getter setter : Option Nat) (enumerable configurable : Bool)
  deriving Inhabited

/-- Whether a property shows up when keys are listed. -/
def Slot.enumerable : Slot -> Bool
  | .data _ _ e _ => e
  | .accessor _ _ e _ => e

/-- Whether a property may be deleted or redefined. -/
def Slot.configurable : Slot -> Bool
  | .data _ _ _ c => c
  | .accessor _ _ _ c => c

/-- How a function made from script text is called. -/
inductive FuncKind where
  /-- A plain function: callable and constructible. -/
  | plain
  /-- An arrow function or a method: callable only. -/
  | callOnly
  /-- A class constructor; `derived` when it extends another class. -/
  | classCtor (derived : Bool)
  deriving Inhabited, BEq

/-- What a class puts on each instance it makes. -/
inductive InstanceSlot where
  /-- A field with its initializer; a private field's key is its private key. -/
  | field (key : String) (isPrivate : Bool) (init : Option Expr)
  /-- A private method or accessor, the same for every instance. -/
  | privateSlot (key : String) (slot : Slot)
  deriving Inhabited

/-- How an evaluation ends early. -/
inductive Abrupt where
  | thrown (v : Value)
  | returned (v : Value)
  | broke (label : Option String) (value : Option Value)
  | continued (label : Option String) (value : Option Value)
  /-- An optional chain met `null` or `undefined`. -/
  | shortCircuit
  /-- The evaluation budget is spent. -/
  | exhausted
  deriving Inhabited

/-- What an iterator helper does with the values it takes. -/
inductive HelperStep where
  /-- Passes them on as they are. -/
  | pass
  | map (f : Value)
  | filter (f : Value)
  /-- Passes on at most this many more. -/
  | take (left : Nat)
  /-- Passes over this many more first. -/
  | drop (left : Nat)
  /-- Passes on the values of the iterators the function makes of them; `inner` is the
  iterator being read, with its `next` method. -/
  | flatMap (f : Value) (inner : Option (Value × Value))
  deriving Inhabited

/-- Work a generator has left, one frame at a time, the innermost first. -/
inductive Frame where
  /-- Statements left to run in a scope. -/
  | stmts (scope : Nat) (rest : List Stmt)
  /-- A statement run in part: the values of its parts already evaluated are held by its holes,
  `holes` of them. -/
  | midway (scope : Nat) (labels : List String) (s : Stmt) (holes : Nat)
  /-- A loop between rounds: `first` runs the first round and `step` each one after, in the
  round's scope (a fresh copy of it for each round when `perRound`). -/
  | loop (scope : Nat) (labels : List String) (first step : List Stmt) (perRound started : Bool)
  /-- A `for … of` loop taking its values one at a time from an iterator and its `next`
  method. -/
  | forOf (scope : Nat) (labels : List String) (kind : Option DeclKind) (target : Pattern)
      (iterator next : Value) (body : Stmt)
  /-- A `for … in` or `for … of` loop over values listed in advance. -/
  | each (scope : Nat) (labels : List String) (kind : Option DeclKind) (target : Pattern)
      (values : List Value) (body : Stmt)
  /-- A `try` block running, with its `catch` and `finally` parts. -/
  | guard (scope : Nat) (param : Option Pattern) (handler finalizer : Option (List Stmt))
  /-- A `catch` block running, with the `finally` block to run after it. -/
  | handling (scope : Nat) (finalizer : Option (List Stmt))
  /-- A `finally` block running; after it the statement ends as it was left (`none`:
  normally). -/
  | finishing (pending : Option Abrupt)
  /-- Where a `break` with the label ends; a plain `break` for `none`, as in a `switch`. -/
  | breakTarget (label : Option String)
  /-- A `yield*` handing on the values of an iterator; its result goes to the hole `hole` of
  `scope`. -/
  | delegate (scope : Nat) (hole : String) (iterator next : Value)
  deriving Inhabited

/-- Where the value a suspended generator is sent goes. -/
inductive Receiver where
  /-- Nowhere: the body has not begun. -/
  | start
  /-- To a hole of a scope, in place of the `yield` the generator stopped at. -/
  | hole (scope : Nat) (name : String)
  /-- To the iterator of the `yield*` on top of the frames. -/
  | delegate
  deriving Inhabited

/-- How a generator stands. -/
inductive GenState where
  /-- Waiting, with its work left. -/
  | suspended (frames : List Frame) (receiver : Receiver)
  /-- Running: it cannot be resumed from inside itself. -/
  | running
  /-- Finished. -/
  | done
  deriving Inhabited

/-- What one element of `Promise.all`, `allSettled`, `race` or `any` does when its promise
settles. -/
inductive Gather where
  /-- The value fills the element's place; with every place filled, the result is fulfilled
  with all of them (`all`). -/
  | value
  /-- The value is recorded as `{ status: 'fulfilled', value }` (`allSettled`). -/
  | settledValue
  /-- The reason is recorded as `{ status: 'rejected', reason }` (`allSettled`). -/
  | settledReason
  /-- The reason fills the element's place; with every place filled, the result is rejected
  with all of them (`any`). -/
  | reason
  /-- The value resolves the result at once (`race`, `any`). -/
  | resolve
  /-- The reason rejects the result at once (`all`, `race`). -/
  | reject
  deriving Inhabited, BEq

/-- What a promise does with its value, or the reason it was rejected, in one reaction. -/
inductive Handler where
  /-- None was given: the value or the reason passes on as it is. -/
  | passOn
  /-- A function, called with the value or the reason. -/
  | fn (f : Value)
  /-- A call of an `async` function waiting at an `await`: `call` holds its work left and
  `result` is the promise it returned. -/
  | resumeAsync (call result : Nat)
  /-- The function of `finally`: called with nothing, after which the value or the reason
  passes on. -/
  | finallyFn (f : Value)
  /-- Gives a fixed value, or throws it when `throws`. -/
  | constant (v : Value) (throws : Bool)
  /-- One element of a combination of promises: its place, and the object gathering them. -/
  | gather (how : Gather) (state index : Nat)
  deriving Inhabited

/-- A reaction waiting on a promise: a handler for each outcome, and the promise that the
handler's result settles, if any. -/
structure Reaction where
  onFulfilled : Handler
  onRejected : Handler
  target : Option Nat
  deriving Inhabited

/-- How a promise stands. -/
inductive PromiseState where
  /-- Not settled yet: the reactions waiting, and the number of the pair of resolving functions
  that may still settle it. -/
  | pending (reactions : List Reaction) (token : Nat)
  | fulfilled (v : Value)
  | rejected (v : Value)
  deriving Inhabited

/-- A job that runs once the script running now is done; jobs run in the order they were
queued. -/
inductive Job where
  /-- A handler reacting to a settled promise, with its value or its reason (`rejected`). -/
  | react (handler : Handler) (argument : Value) (rejected : Bool) (target : Option Nat)
  /-- A promise following a thenable: the thenable's `then` is called with the pair of
  resolving functions numbered `token`. -/
  | adopt (promise : Nat) (thenable thenFn : Value) (token : Nat)
  deriving Inhabited

/-- What an iterator over a collection gives at each step: the keys (an array's indices), the
values, or both as a pair. -/
inductive IterPart where
  | keys
  | values
  | entries
  deriving Inhabited, BEq

/-- What an object is, beyond its properties. -/
inductive ObjKind where
  | plain
  | array (items : Array (Option Value))
  /-- A function from script text, the scope it closes over, the object its `super` refers
  to, and for classes the instance fields with their scope. -/
  | closure (fn : Func) (scope : Nat) (kind : FuncKind) (home : Option Nat)
      (fields : List InstanceSlot)
  /-- A built-in function, by its index in the library. -/
  | native (id : Nat) (constructible : Bool)
  | bound (target : Nat) (thisArg : Value) (args : List Value)
  | error
  | date (time : Float)
  | boxed (v : Value)
  /-- A map's entries in insertion order; a removed entry leaves a gap (`none`), so that the
  iterators walking it keep their place. -/
  | map (entries : Array (Option (Value × Value)))
  /-- A set's items in insertion order, with gaps where items were removed. -/
  | set (items : Array (Option Value))
  /-- An iterator over a fixed list of values; `tag` names it when printed. -/
  | iterator (items : Array Value) (next : Nat) (tag : String)
  /-- An iterator walking the array, map or set `source` as it changes, from position `next`. -/
  | walker (source : Nat) (part : IterPart) (next : Nat) (tag : String)
  | arguments
  /-- A regular expression: its source as `source` shows it and its flags in canonical order. -/
  | regexp (source flags : String)
  /-- A buffer of bytes, which typed arrays view. -/
  | buffer (bytes : ByteArray)
  /-- A typed array: `length` elements of a kind, from byte `offset` of the buffer object
  `buffer` on. -/
  | typedArray (kind : ElementKind) (buffer offset length : Nat)
  /-- A map whose keys are objects, by reference, that cannot be listed. -/
  | weakMap (entries : Array (Nat × Value))
  /-- A set of objects, by reference, that cannot be listed. -/
  | weakSet (items : Array Nat)
  /-- A reference to an object. -/
  | weakRef (target : Nat)
  /-- A generator made by calling a generator function; also the work left of a call of an
  `async` function. -/
  | generator (state : GenState)
  | promise (state : PromiseState)
  /-- What a combination of promises has gathered: a place for each element, how many are still
  to come, and the promise it settles. -/
  | gathering (places : Array (Option Value)) (remaining : Nat) (result : Nat)
  /-- A proxy: operations on it go to the handler's traps, or to the target where the handler
  has none. -/
  | proxy (target handler : Nat) (callable : Bool) (revoked : Bool)
  /-- A view reading and writing numbers of any kind in `length` bytes of the buffer object
  `buffer` from byte `offset` on, in either byte order. -/
  | dataView (buffer offset length : Nat)
  /-- A text `JSON.stringify` writes as it is, made by `JSON.rawJSON`. -/
  | rawJson
  /-- An iterator helper: it takes values from `source` with its `next` method as they are asked
  for and passes them on as `step` says; `count` have been taken. -/
  | helper (source next : Value) (step : HelperStep) (count : Nat) (done : Bool)
  /-- An `Intl.NumberFormat`: the format its options settled. -/
  | numberFormat (format : Locale.NumberFormat)
  /-- An `Intl.Collator`: its locale, what it compares for, and how. -/
  | collator (locale usage : String) (options : Unicode.CollationOptions)
  /-- An `Intl.Segmenter`: its locale and whether it cuts text into graphemes, words or
  sentences. -/
  | segmenter (locale granularity : String)
  /-- The pieces an `Intl.Segmenter` cuts a text into, as `segment` gives them. -/
  | segments (granularity text : String)
  deriving Inhabited

/-- An object. -/
structure Obj where
  kind : ObjKind := .plain
  props : Array (String × Slot) := #[]
  proto : Option Nat := none
  extensible : Bool := true
  /-- Private members by private key; no property operation sees them. -/
  privates : Array (String × Slot) := #[]
  /-- For an array: whether its items can no longer be deleted, as after `Object.seal`. -/
  sealedItems : Bool := false
  /-- For an array: whether its items can no longer be changed either, as after
  `Object.freeze`. -/
  frozenItems : Bool := false
  /-- For an array: whether its `length` is read-only. -/
  fixedLength : Bool := false
  /-- For an error: its stack frames, captured when made, waiting for the first look at `stack`,
  which puts the error's text before them. -/
  pendingTrace : Option String := none
  deriving Inhabited

/-- Whether an object can be called. -/
def Obj.isCallable (o : Obj) : Bool :=
  match o.kind with
  | .closure .. => true
  | .native .. => true
  | .bound .. => true
  | .proxy _ _ callable _ => callable
  | _ => false

/-- A frame of the call stack: its function (none at an input's top level), the object it was
called on, whether by `new`, and the site it has reached. -/
structure StackFrame where
  function : Option Nat := none
  receiver : Option Nat := none
  construct : Bool := false
  site : Site := {}
  deriving Inhabited

/-- A binding of a scope; `value` is `none` before its declaration has run. -/
structure Binding where
  name : String
  value : Option Value
  mutable : Bool
  deriving Inhabited

/-- The `this` of a function scope. -/
inductive ThisState where
  /-- Not a function scope: look further out. -/
  | inherit
  /-- A derived class constructor before `super(…)` has run. -/
  | pending
  | bound (v : Value)
  deriving Inhabited

/-- A scope: bindings, the scope around it, and for function scopes `this`, `super`'s object,
the function, `new`'s target, and the block function names that also bind here. -/
structure Scope where
  bindings : Array Binding := #[]
  parent : Option Nat := none
  this : ThisState := .inherit
  home : Option Nat := none
  callee : Option Nat := none
  newTarget : Option Value := none
  blockFunctions : List String := []
  /-- Whether the code run in this scope is strict; `none` for a scope that is as strict as the
  one around it. -/
  strict : Option Bool := none
  deriving Inhabited

/-- The built-in objects evaluation refers to directly. -/
structure Intrinsics where
  objectProto : Nat := 0
  functionProto : Nat := 0
  arrayProto : Nat := 0
  /-- The `Array` constructor, whose arrays methods that copy an array make directly. -/
  arrayCtor : Nat := 0
  /-- `Array.prototype.values`, the iterator method of `arguments` objects. -/
  arrayValues : Nat := 0
  stringProto : Nat := 0
  numberProto : Nat := 0
  booleanProto : Nat := 0
  symbolProto : Nat := 0
  bigintProto : Nat := 0
  errorProto : Nat := 0
  typeErrorProto : Nat := 0
  rangeErrorProto : Nat := 0
  referenceErrorProto : Nat := 0
  syntaxErrorProto : Nat := 0
  evalErrorProto : Nat := 0
  uriErrorProto : Nat := 0
  aggregateErrorProto : Nat := 0
  dateProto : Nat := 0
  mapProto : Nat := 0
  setProto : Nat := 0
  iteratorProto : Nat := 0
  regexpProto : Nat := 0
  arrayBufferProto : Nat := 0
  weakMapProto : Nat := 0
  weakSetProto : Nat := 0
  weakRefProto : Nat := 0
  /-- The prototype of generator objects. -/
  generatorProto : Nat := 0
  /-- The prototype of generator functions. -/
  generatorFunctionProto : Nat := 0
  /-- The prototype of `async` functions. -/
  asyncFunctionProto : Nat := 0
  promiseProto : Nat := 0
  /-- The built-in functions that a promise's resolving functions call, with the promise and
  the pair's number before the value. -/
  promiseResolveFn : Nat := 0
  promiseRejectFn : Nat := 0
  /-- The prototypes of the typed arrays, in the order of `ElementKind.all`. -/
  typedArrayProtos : List Nat := []
  /-- The service's `print` function, which `console`'s methods share. -/
  printFunction : Nat := 0
  /-- The global `eval`, which a call by the name `eval` runs in the caller's scope. -/
  evalFunction : Nat := 0
  /-- The line reader module a standalone script can `require`. -/
  readlineModule : Nat := 0
  utilModule : Nat := 0
  /-- The function every revoker of a proxy is bound from. -/
  proxyRevokeFn : Nat := 0
  numberFormatProto : Nat := 0
  collatorProto : Nat := 0
  segmenterProto : Nat := 0
  segmentsProto : Nat := 0
  /-- The functions the `format` and `compare` getters bind to their service. -/
  numberFormatFn : Nat := 0
  collatorCompareFn : Nat := 0
  dataViewProto : Nat := 0
  /-- The prototypes of the built-in iterators, by the tag they show. -/
  iteratorProtos : List (String × Nat) := []
  /-- The prototype of line readers. -/
  lineReaderProto : Nat := 0
  deriving Inhabited

/-- The names of the well-known symbols, such as `iterator` for `Symbol.iterator`; each is the
symbol whose number is its place here. -/
def wellKnownSymbols : List String :=
  ["asyncIterator", "hasInstance", "isConcatSpreadable", "iterator", "match", "matchAll",
   "replace", "search", "species", "split", "toPrimitive", "toStringTag", "unscopables"]

/-- A function to call on an event of standard input: `line` for each line a line reader
reads, `data` for each chunk, `close` when a line reader closes. -/
structure Listener where
  event : String
  /-- The object the function was registered on, its `this` when called. -/
  target : Value
  fn : Value
  deriving Inhabited

/-- The last match a regular expression found: the text searched, the texts of its groups
(the whole match first; `none` for a group that took no part), and the text before and after
the match. -/
structure LastMatch where
  input : String := ""
  groups : Array (Option String) := #[]
  before : String := ""
  after : String := ""
  deriving Inhabited

/-- Everything a script can reach, with the lines it printed and the steps it may still take. -/
structure Realm where
  heap : Array Obj := #[]
  scopes : Array Scope := #[]
  global : Nat := 0
  globalScope : Nat := 0
  intrinsics : Intrinsics := {}
  printed : Array String := #[]
  steps : Nat := 0
  depth : Nat := 0
  /-- The call stack of script functions, the running frame first. -/
  frames : List StackFrame := [{}]
  /-- How many symbols exist; the next symbol takes this number. -/
  symbolCount : Nat := wellKnownSymbols.length
  /-- The symbols of `Symbol.for`, by their keys. -/
  symbolRegistry : List (String × Nat) := []
  /-- Text written after the last printed line, not yet ended by a line feed. -/
  pending : String := ""
  /-- The functions waiting for events of standard input, in the order they were added. -/
  listeners : Array Listener := #[]
  /-- The status the script asked to exit with, once it has. -/
  exitCode : Option Nat := none
  /-- The jobs waiting for the script running now to finish, the next first. -/
  jobs : List Job := []
  /-- The last match a regular expression found, which the legacy properties of `RegExp`
  such as `RegExp.$1` show. -/
  lastMatch : LastMatch := {}
  deriving Inhabited

/-- Evaluation: a computation over the realm that may end abruptly. -/
abbrev Eval := EStateM Abrupt Realm

/-- Which conversion to a primitive is asked for. -/
inductive Hint where
  | string
  | number
  | default
  deriving Inhabited, BEq

/-- How a generator is resumed: by `next`, `throw` or `return`, with the value given. -/
inductive Resumption where
  | next (v : Value)
  | throwing (v : Value)
  | returning (v : Value)
  deriving Inhabited

/-- The operations built-in functions use to call back into evaluation. -/
structure Host where
  call : Value -> Value -> List Value -> Eval Value
  construct : Value -> List Value -> Eval Value
  get : Value -> String -> Eval Value
  put : Value -> String -> Value -> Eval Unit
  /-- Writes a property as the library's own algorithms do: a write that does not take place
  is a type error. -/
  assign : Value -> String -> Value -> Eval Unit
  toPrimitive : Value -> Hint -> Eval Value
  /-- The values a value iterates over, or a type error if it is not iterable. -/
  iterate : Value -> Eval (Array Value)
  /-- Runs a text as script code in the global scope, as `eval` does when not called by its
  name; any other value is its own result. -/
  evalGlobal : Value -> Eval Value
  /-- Resumes a generator object; the result is the `{ value, done }` it gives. -/
  resume : Nat -> Resumption -> Eval Value

/-- A built-in function: given the host, `this`, the arguments and, when called with `new`,
the constructor `new` was applied to. -/
abbrev NativeFn := Host -> Value -> List Value -> Option Value -> Eval Value

/-- The kinds of errors scripts can throw. -/
inductive ErrorKind where
  | error
  | typeError
  | rangeError
  | referenceError
  | syntaxError
  | evalError
  | uriError
  | aggregateError
  deriving Inhabited, BEq

/-- The prototype of an error kind. -/
def Intrinsics.errorProtoOf (i : Intrinsics) : ErrorKind -> Nat
  | .error => i.errorProto
  | .typeError => i.typeErrorProto
  | .rangeError => i.rangeErrorProto
  | .referenceError => i.referenceErrorProto
  | .syntaxError => i.syntaxErrorProto
  | .evalError => i.evalErrorProto
  | .uriError => i.uriErrorProto
  | .aggregateError => i.aggregateErrorProto

/-! ## Steps -/

/-- Spends one step of the budget. -/
def tick : Eval Unit := do
  if (<- get).steps == 0 then throw .exhausted
  modify fun r => { r with steps := r.steps - 1 }

/-! ## The heap -/

/-- Adds an object to the heap. -/
def alloc (o : Obj) : Eval Nat :=
  modifyGet fun r => (r.heap.size, { r with heap := r.heap.push o })

/-- The object at a reference. -/
def getObj (ref : Nat) : Eval Obj := do
  pure ((<- get).heap.getD ref default)

/-- Changes the object at a reference. -/
def modifyObj (ref : Nat) (f : Obj → Obj) : Eval Unit :=
  modify fun r => { r with heap := r.heap.modify ref f }

/-- The intrinsics. -/
def intrinsics : Eval Intrinsics := do
  pure (<- get).intrinsics

/-- The own property of an object under a key. -/
def Obj.findOwn? (o : Obj) (key : String) : Option Slot :=
  (o.props.find? (·.1 == key)).map (·.2)

/-- Sets an own property, keeping its place if it exists. -/
def Obj.setOwn (o : Obj) (key : String) (s : Slot) : Obj :=
  match o.props.findIdx? (·.1 == key) with
  | some i => { o with props := o.props.set! i (key, s) }
  | none => { o with props := o.props.push (key, s) }

/-- A private member. -/
def Obj.findPrivate? (o : Obj) (key : String) : Option Slot :=
  (o.privates.find? (·.1 == key)).map (·.2)

/-- Sets a private member, keeping its place if it exists. -/
def Obj.setPrivate (o : Obj) (key : String) (s : Slot) : Obj :=
  match o.privates.findIdx? (·.1 == key) with
  | some i => { o with privates := o.privates.set! i (key, s) }
  | none => { o with privates := o.privates.push (key, s) }

/-- Removes an own property. -/
def Obj.removeOwn (o : Obj) (key : String) : Obj :=
  { o with props := o.props.filter (·.1 != key) }

/-- Defines a data property that is writable, enumerable and configurable. -/
def setField (ref : Nat) (key : String) (v : Value) : Eval Unit :=
  modifyObj ref fun o => o.setOwn key (.data v true true true)

/-! ## Scopes -/

/-- Adds a scope. -/
def newScope (s : Scope) : Eval Nat :=
  modifyGet fun r => (r.scopes.size, { r with scopes := r.scopes.push s })

/-- The scope at an index. -/
def getScope (i : Nat) : Eval Scope := do
  pure ((<- get).scopes.getD i default)

/-- Changes the scope at an index. -/
def modifyScope (i : Nat) (f : Scope → Scope) : Eval Unit :=
  modify fun r => { r with scopes := r.scopes.modify i f }

/-- Adds or replaces a binding in a scope. -/
def declareIn (scope : Nat) (name : String) (value : Option Value) (mutable : Bool) : Eval Unit :=
  modifyScope scope fun s =>
    match s.bindings.findIdx? (·.name == name) with
    | some i => { s with bindings := s.bindings.set! i ⟨name, value, mutable⟩ }
    | none => { s with bindings := s.bindings.push ⟨name, value, mutable⟩ }

/-- The scope, among `scope` and those around it, that binds a name, with the binding. -/
def findBinding (name : String) : Nat -> Nat -> Eval (Option (Nat × Binding))
  | 0, _ => pure none
  | fuel + 1, i => do
    let s <- getScope i
    match s.bindings.find? (·.name == name) with
    | some b => pure (some (i, b))
    | none => match s.parent with
      | some p => findBinding name fuel p
      | none => pure none

/-- Whether the code of a scope is strict, as the nearest scope around it that says tells. -/
def scopeStrict : Nat -> Nat -> Eval Bool
  | 0, _ => pure false
  | fuel + 1, i => do
    let s <- getScope i
    match s.strict with
    | some b => pure b
    | none =>
      match s.parent with
      | some p => scopeStrict fuel p
      | none => pure false

/-- Whether the code of a scope is strict. -/
def isStrict (scope : Nat) : Eval Bool := do
  scopeStrict ((<- get).scopes.size + 1) scope

/-- Sets the value of a binding in a scope. -/
def setBinding (scope : Nat) (name : String) (v : Value) : Eval Unit :=
  modifyScope scope fun s =>
    { s with bindings := s.bindings.map fun b => if b.name == name then { b with value := some v } else b }

/-! ## Printing -/

/-- Records a printed line, which ends any text written before it. -/
def printLine (line : String) : Eval Unit :=
  modify fun r => { r with printed := r.printed.push (r.pending ++ line), pending := "" }

/-- Writes text that need not end a line: each line feed ends a printed line, and what follows
the last one waits for more. -/
def writeText (text : String) : Eval Unit :=
  match text.splitOn "\n" with
  | [] => pure ()
  | first :: rest =>
    match rest.reverse with
    | [] => modify fun r => { r with pending := r.pending ++ first }
    | last :: middle =>
      modify fun r => { r with printed := (r.printed.push (r.pending ++ first)) ++ middle.reverse.toArray,
                               pending := last }

/-! ## Conversions that need no evaluation -/

/-- The `typeof` of a value. -/
def typeOf (v : Value) : Eval String := do
  match v with
  | .undefined => pure "undefined"
  | .null => pure "object"
  | .bool _ => pure "boolean"
  | .num _ => pure "number"
  | .str _ => pure "string"
  | .bigint _ => pure "bigint"
  | .symbol .. => pure "symbol"
  | .obj r => pure (if (<- getObj r).isCallable then "function" else "object")

/-- Whether a value counts as true. -/
def Value.truthy : Value -> Bool
  | .undefined => false
  | .null => false
  | .bool b => b
  | .num x => !(x == 0 || x.isNaN)
  | .str s => !s.isEmpty
  | .bigint n => n != 0
  | .symbol .. => true
  | .obj _ => true

/-- The text of a symbol, as `String` gives it: `Symbol(description)`. -/
def symbolText (description : Option String) : String :=
  "Symbol(" ++ description.getD "" ++ ")"

/-- The text of a primitive value; a symbol shows as `String` shows it, though conversion to
text refuses it. -/
def Value.primitiveText : Value -> String
  | .undefined => "undefined"
  | .null => "null"
  | .bool b => if b then "true" else "false"
  | .num x => numberText x
  | .str s => s
  | .bigint n => toString n
  | .symbol _ d => symbolText d
  | .obj _ => "[object Object]"

/-- The number of a primitive value; an integer is the double nearest to it, as `Number`
gives it, though conversion to a number refuses it. -/
def Value.primitiveNumber : Value -> Float
  | .undefined => nan
  | .null => 0
  | .bool b => if b then 1 else 0
  | .num x => x
  | .str s => textToNumber s
  | .bigint n => intToFloat n
  | .symbol .. => nan
  | .obj _ => nan

/-- Whether a value is an object. -/
def Value.isObject : Value -> Bool
  | .obj _ => true
  | _ => false

/-- Whether a value is `null` or `undefined`. -/
def Value.isNullish : Value -> Bool
  | .undefined => true
  | .null => true
  | _ => false

/-- Whether a value is callable. -/
def isCallable (v : Value) : Eval Bool := do
  match v with
  | .obj r => pure (<- getObj r).isCallable
  | _ => pure false

/-- Same value, as `===` compares: numbers by value (NaN differs from itself, zeros are
equal), objects by reference. -/
def strictEquals : Value -> Value -> Bool
  | .undefined, .undefined => true
  | .null, .null => true
  | .bool a, .bool b => a == b
  | .num a, .num b => a == b
  | .str a, .str b => a == b
  | .bigint a, .bigint b => a == b
  | .symbol a _, .symbol b _ => a == b
  | .obj a, .obj b => a == b
  | _, _ => false

/-- Same value zero, as collections compare: like `===`, but NaN equals itself. -/
def sameValueZero (a b : Value) : Bool :=
  match a, b with
  | .num x, .num y => x == y || (x.isNaN && y.isNaN)
  | _, _ => strictEquals a b

/-- Same value, as `Object.is` compares: NaN equals itself, the zeros differ. -/
def sameValue (a b : Value) : Bool :=
  match a, b with
  | .num x, .num y => (x == y && isNegZero x == isNegZero y) || (x.isNaN && y.isNaN)
  | _, _ => strictEquals a b

/-! ## Symbols as property keys

Property keys are texts. The key of a symbol is a text no script writes as a name: the last
character before the stand-ins of surrogates, then the symbol's number, then `=` and its
description when it has one. -/

/-- The character that starts the key of a symbol. -/
def symbolMark : Char := Char.ofNat 0x10F7FF

/-- The property key of a symbol. -/
def symbolKey (id : Nat) (description : Option String) : String :=
  String.singleton symbolMark ++ toString id ++ (match description with
    | some d => "=" ++ d
    | none => "")

/-- The symbol a property key stands for, if it is the key of one. -/
def keySymbol? (key : String) : Option Value :=
  match key.toList with
  | c :: rest =>
    if c != symbolMark then none
    else
      let digits := rest.takeWhile Char.isDigit
      let id := digits.foldl (fun n d => 10 * n + (d.toNat - 48)) 0
      match rest.drop digits.length with
      | '=' :: d => some (.symbol id (some (String.ofList d)))
      | _ => some (.symbol id none)
  | [] => none

/-- The value a property key stands for: its symbol, or the key as text. -/
def keyValue (key : String) : Value :=
  (keySymbol? key).getD (.str key)

/-- Whether a property key is the key of a symbol. -/
def isSymbolKey (key : String) : Bool :=
  !key.isEmpty && key.front == symbolMark

/-- A well-known symbol by its name, such as `iterator`. -/
def wellKnownSymbol (name : String) : Value :=
  .symbol (wellKnownSymbols.idxOf name) (some ("Symbol." ++ name))

/-- The property key of a well-known symbol. -/
def wellKnownKey (name : String) : String :=
  symbolKey (wellKnownSymbols.idxOf name) (some ("Symbol." ++ name))

/-- A new symbol with a description. -/
def freshSymbol (description : Option String) : Eval Value := do
  let id := (<- get).symbolCount
  modify fun r => { r with symbolCount := id + 1 }
  pure (.symbol id description)

/-- The array index a key names, if it is the canonical text of an integer below 2^32 - 1. -/
def arrayIndex? (key : String) : Option Nat :=
  if key.isEmpty || key.length > 10 then none
  else if !(key.all Char.isDigit) then none
  else if key.length > 1 && key.front == '0' then none
  else
    let n := key.toNat!
    if n < 4294967295 then some n else none

/-! ## Text as UTF-16 units -/

/-- The UTF-16 units of a text. -/
def unitsOf (s : String) : Array Nat :=
  (unitList s).toArray

/-- The text of UTF-16 units. -/
def ofUnits (us : List Nat) : String :=
  String.ofList (decodeUnits us)

/-- The length of a text in UTF-16 units. -/
def unitLength (s : String) : Nat :=
  s.foldl (fun (n : Nat) (c : Char) => n + charWidth c) 0

/-- The units of a text from `i` to `j`, as text. -/
def unitSlice (s : String) (i j : Nat) : String :=
  if s.toList.all (fun (c : Char) => charWidth c == 1) then
    String.ofList ((s.toList.drop i).take (j - i))
  else ofUnits (((unitsOf s).extract i j).toList)

end TranscriptTest.Js
