import TranscriptTest.Js.Value

/-!
# Properties

Reading, writing, listing and deleting properties. An array keeps its items apart from its
other properties: an index key reads or writes an item, and `length` is the number of items.
A string has its length and its UTF-16 units as properties. Reading follows the prototype chain
and calls a getter it finds there; writing calls a setter found on the chain, is ignored on a
read-only property, and otherwise defines the property on the object itself.
-/

namespace TranscriptTest.Js

/-! ## Creating objects -/

/-- A new plain object whose prototype is `Object.prototype`. -/
def newObject : Eval Nat := do
  alloc { proto := some (<- intrinsics).objectProto }

/-- A new array of values. -/
def newArray (items : Array Value) : Eval Value := do
  let ref <- alloc { kind := .array (items.map some), proto := some (<- intrinsics).arrayProto }
  pure (.obj ref)

/-- A new function object of a kind, with its `length` and `name`. -/
def newFunction (kind : ObjKind) (name : String) (length : Nat) : Eval Nat := do
  alloc { kind := kind, proto := some (← intrinsics).functionProto,
          props := #[("length", .data (.num length.toFloat) false false true),
                     ("name", .data (.str name) false false true)] }

/-! ## Own properties -/

/-- The own property of an object under a key, with array items and the lengths of arrays
and boxed strings seen as properties. -/
def ownSlot? (o : Obj) (key : String) : Option Slot :=
  match o.kind with
  | .array items =>
    if key == "length" then
      some (.data (.num items.size.toFloat) (!o.frozenItems && !o.fixedLength) false false)
    else match arrayIndex? key with
      | some i => match items[i]? with
        | some (some v) => some (.data v (!o.frozenItems) true (!o.sealedItems))
        | _ => o.findOwn? key
      | none => o.findOwn? key
  | .boxed (.str s) =>
    if key == "length" then some (.data (.num (unitLength s).toFloat) false false false)
    else match arrayIndex? key with
      | some i =>
        if i < unitLength s then some (.data (.str (unitSlice s i (i + 1))) false true false)
        else o.findOwn? key
      | none => o.findOwn? key
  | _ => o.findOwn? key

/-! ## Typed arrays -/

/-- An element as a value. -/
def Element.toValue : Element -> Value
  | .number x => .num x
  | .integer n => .bigint n

/-- The bytes an element of a kind is stored as. -/
def ElementKind.bytesOf (k : ElementKind) : Element -> List UInt8
  | .number x => k.numberBytes x
  | .integer n => k.integerBytes n

/-- The bytes of a buffer object; none for any other object. -/
def bufferBytes (ref : Nat) : Eval ByteArray := do
  match (<- getObj ref).kind with
  | .buffer bytes => pure bytes
  | _ => pure ByteArray.empty

/-- Element `i` of a typed array of a kind viewing `buffer` from byte `offset`. -/
def readElement (kind : ElementKind) (buffer offset i : Nat) : Eval Value := do
  let bytes <- bufferBytes buffer
  let start := offset + i * kind.size
  pure (kind.decode ((List.range kind.size).map fun j => bytes[start + j]?.getD 0)).toValue

/-- Writes bytes into a buffer object from byte `start` on; bytes past its end are dropped. -/
def writeBytes (buffer start : Nat) (bs : List UInt8) : Eval Unit :=
  modifyObj buffer fun o => match o.kind with
    | .buffer bytes =>
      let put (acc : ByteArray) (p : UInt8 × Nat) : ByteArray :=
        if start + p.2 < acc.size then acc.set! (start + p.2) p.1 else acc
      { o with kind := .buffer (bs.zipIdx.foldl put bytes) }
    | _ => o

/-- The elements of a typed array, or `none` for other objects. -/
def typedItems? (ref : Nat) : Eval (Option (Array Value)) := do
  match (<- getObj ref).kind with
  | .typedArray kind buffer offset length =>
    some <$> (List.range length).toArray.mapM (readElement kind buffer offset)
  | _ => pure none

/-- Writes element `i` of a typed array; an index past its end is ignored. -/
def writeElement (ref i : Nat) (e : Element) : Eval Unit := do
  match (<- getObj ref).kind with
  | .typedArray kind buffer offset length =>
    if i < length then writeBytes buffer (offset + i * kind.size) (kind.bytesOf e)
  | _ => pure ()

/-- Whether a key is the text of a number, as `-0` and `1.5` are: typed arrays answer such
keys themselves, without asking their prototypes. -/
def isNumericKey (key : String) : Bool :=
  key == "-0" || numberText (textToNumber key) == key

/-- The object a proxy stands for, through proxies of proxies; any other object stands for
itself. -/
def proxyTarget : Nat -> Nat -> Eval Nat
  | 0, ref => pure ref
  | fuel + 1, ref => do
    match (<- getObj ref).kind with
    | .proxy target _ _ _ => proxyTarget fuel target
    | _ => pure ref

/-- How many proxies of proxies are followed. -/
def proxyChain : Nat := 64

/-! ## Stack traces -/

/-- A data property found on an object or its prototype chain, without calling getters. -/
def dataAlongChain (key : String) : Nat -> Nat -> Eval (Option Value)
  | 0, _ => pure none
  | fuel + 1, ref => do
    let o <- getObj ref
    match ownSlot? o key with
    | some (.data v _ _ _) => pure (some v)
    | some _ => pure none
    | none => match o.proto with
      | some p => dataAlongChain key fuel p
      | none => pure none

/-- The first line of an error's stack trace: its name and message as `Error.prototype.toString`
joins them, read when the trace is first looked at. -/
def traceHeader (ref : Nat) : Eval String := do
  let bound := (<- get).heap.size + 1
  let name := match <- dataAlongChain "name" bound ref with
    | none | some .undefined => "Error"
    | some v => v.primitiveText
  let msg := match <- dataAlongChain "message" bound ref with
    | none | some .undefined => ""
    | some v => v.primitiveText
  pure (if name.isEmpty then msg else if msg.isEmpty then name else name ++ ": " ++ msg)

/-- Gives an error whose trace is waiting its `stack` property: the header, then the frames. -/
def settleTrace (ref : Nat) : Eval Unit := do
  match (<- getObj ref).pendingTrace with
  | none => pure ()
  | some frames =>
    let text := (<- traceHeader ref) ++ frames
    let slot : String × Slot := ("stack", .data (.str text) true false true)
    modifyObj ref fun o => { o with pendingTrace := none, props := #[slot] ++ o.props }

/-- Where a site is, as stack traces write it. -/
def Site.text (s : Site) : String :=
  "doctest input:" ++ toString s.line ++ ":" ++ toString s.column

/-- The name of a function, as its own `name` property gives it. -/
def functionNameOf (ref : Nat) : Eval String := do
  match (<- getObj ref).findOwn? "name" with
  | some (.data (.str n) _ _ _) => pure n
  | _ => pure ""

/-- The name of what made an object: the name of the `constructor` found on its chain. -/
def receiverTypeName (ref : Nat) : Eval String := do
  match <- dataAlongChain "constructor" ((<- get).heap.size + 1) ref with
  | some (.obj c) =>
    let n <- functionNameOf c
    pure (if n.isEmpty then "Object" else n)
  | _ => pure "Object"

/-- Whether a property of an object is the function `fn`, as a value or as an accessor's half. -/
def holdsFunction (o : Obj) (key : String) (fn : Nat) : Bool :=
  match ownSlot? o key with
  | some (.data (.obj f) _ _ _) => f == fn
  | some (.accessor g s _ _) => g == some fn || s == some fn
  | _ => false

/-- Whether the function is found under a key on an object or its prototype chain. -/
def chainHolds (key : String) (fn : Nat) : Nat -> Nat -> Eval Bool
  | 0, _ => pure false
  | fuel + 1, ref => do
    let o <- getObj ref
    if (ownSlot? o key).isSome then pure (holdsFunction o key fn)
    else match o.proto with
      | some p => chainHolds key fn fuel p
      | none => pure false

/-- The enumerable keys along an object's prototype chain under which the function is found. -/
def keysHolding (fn : Nat) : Nat -> Option Nat -> List String -> Eval (List String)
  | 0, _, acc => pure acc
  | _, none, acc => pure acc
  | fuel + 1, some ref, acc => do
    let o <- getObj ref
    let found := (o.props.toList.filter fun (k, sl) => sl.enumerable && !isSymbolKey k &&
      holdsFunction o k fn).map (·.1)
    keysHolding fn fuel o.proto (acc ++ found)

/-- The key a method was called by: its own name when the receiver has it there, else the one
enumerable key of the receiver's chain that holds it. -/
def methodKey (receiver fn : Nat) (name : String) : Eval (Option String) := do
  let bound := (<- get).heap.size + 1
  let name := if name.startsWith "get " || name.startsWith "set " then String.ofList (name.toList.drop 4) else name
  if !name.isEmpty && (<- chainHolds name fn bound receiver) then return some name
  match <- keysHolding fn bound (some receiver) [] with
  | [k] => pure (some k)
  | _ => pure none

/-- A frame as a line of a stack trace, after its `at`: the function with how it was called,
then the site; the top level and plain calls of unnamed functions show the site alone. -/
def StackFrame.text (f : StackFrame) : Eval String := do
  let place := f.site.text
  match f.function with
  | none => pure place
  | some fn =>
    let name <- functionNameOf fn
    if f.construct then
      return "new " ++ (if name.isEmpty then "<anonymous>" else name) ++ " (" ++ place ++ ")"
    match f.receiver with
    | some r =>
      let typeName <- receiverTypeName r
      let method <- methodKey r fn name
      let label := if name.isEmpty then typeName ++ "." ++ method.getD "<anonymous>"
        else
          let shown := if name.startsWith typeName then name else typeName ++ "." ++ name
          match method with
          | some m => if name.endsWith m then shown else shown ++ " [as " ++ m ++ "]"
          | none => shown
      pure (label ++ " (" ++ place ++ ")")
    | none => pure (if name.isEmpty then place else name ++ " (" ++ place ++ ")")

/-- The frames under the script's own: those of the host that reads each input and runs it. -/
def hostFrames : List String :=
  ["Script.runInContext (node:vm:149:12)",
   "Object.runInContext (node:vm:301:6)",
   "evaluate ([eval]:41:17)",
   "Interface.<anonymous> ([eval]:67:15)",
   "Interface.emit (node:events:519:28)",
   "[_onLine] [as _onLine] (node:internal/readline/interface:419:12)",
   "[_normalWrite] [as _normalWrite] (node:internal/readline/interface:613:22)",
   "Socket.ondata (node:internal/readline/interface:250:23)",
   "Socket.emit (node:events:519:28)",
   "addChunk (node:internal/streams/readable:559:12)"]

/-- How many frames a stack trace keeps: `Error.stackTraceLimit`, or `none` when that is not a
number, in which case errors get no trace. -/
def traceLimit : Eval (Option Nat) := do
  let i <- intrinsics
  match ownSlot? (<- getObj i.errorProto) "constructor" with
  | some (.data (.obj ctor) _ _ _) =>
    match ownSlot? (<- getObj ctor) "stackTraceLimit" with
    | some (.data (.num x) _ _ _) =>
      pure (some (if x.isNaN || x <= 0 then 0 else if x >= 1e9 then 1000000000 else x.floor.toUInt64.toNat))
    | _ => pure none
  | _ => pure none

/-- The frames of a stack trace taken now, each on a line of its own after `at`. -/
def captureTrace (skipUntil : Option Nat) : Eval (Option String) := do
  match <- traceLimit with
  | none => pure none
  | some limit =>
    let frames := (<- get).frames
    let frames := match skipUntil with
      | some r => (frames.dropWhile (fun (f : StackFrame) => f.function != some r)).drop 1
      | none => frames
    let own <- (frames.take limit).mapM StackFrame.text
    let lines := own ++ hostFrames
    pure (some (String.join ((lines.take limit).map ("\n    at " ++ ·))))

/-- The function whose frames an error made by `new` leaves out: the constructor `new` was
applied to, when a script function (a subclass of the error). -/
def traceSkipFor (newTarget : Option Value) : Eval (Option Nat) := do
  match newTarget with
  | some (.obj r) =>
    match (<- getObj r).kind with
    | .closure .. => pure (some r)
    | _ => pure none
  | _ => pure none

/-! ## Errors -/

/-- A new error object of a kind with a message. -/
def makeError (kind : ErrorKind) (message : String) : Eval Value := do
  let i <- intrinsics
  let ref ← alloc { kind := .error, proto := some (i.errorProtoOf kind),
                    props := #[("message", .data (.str message) true false true)],
                    pendingTrace := <- captureTrace none }
  pure (.obj ref)

/-- Throws a new error of a kind. -/
def raiseError {α : Type} (kind : ErrorKind) (message : String) : Eval α := do
  throw (.thrown (<- makeError kind message))

/-- Throws a type error. -/
def throwType {α : Type} (message : String) : Eval α :=
  raiseError .typeError message

/-- The own property of the object `ref` under a key, with the elements of typed arrays read
from their buffers; a proxy shows its target's. -/
def ownSlotOf (ref : Nat) (key : String) : Eval (Option Slot) := do
  let ref <- proxyTarget proxyChain ref
  if key == "stack" then settleTrace ref
  let o <- getObj ref
  match o.kind with
  | .typedArray kind buffer offset length =>
    match arrayIndex? key with
    | some i =>
      if i < length then pure (some (.data (<- readElement kind buffer offset i) true true true))
      else pure none
    | none => if isNumericKey key then pure none else pure (o.findOwn? key)
  | _ => pure (ownSlot? o key)

/-- The own keys of an object, in order: integer keys ascending, then the others as added. -/
def ownKeys (ref : Nat) : Eval (List String) := do
  let ref <- proxyTarget proxyChain ref
  let o <- getObj ref
  let itemKeys : List String := match o.kind with
    | .array items => ((List.range items.size).filter fun i => (items[i]?.bind id).isSome).map toString
    | .boxed (.str s) => (List.range (unitLength s)).map toString
    | .typedArray _ _ _ length => (List.range length).map toString
    | _ => []
  let keys := (o.props.toList.map (·.1)).filter fun k => !isSymbolKey k
  let indexed := (keys.filterMap fun k => (arrayIndex? k).map (·, k)).mergeSort (fun a b => a.1 <= b.1)
  let named := keys.filter fun k => (arrayIndex? k).isNone
  -- an error's trace not yet written is its first property all the same
  let named := if o.pendingTrace.isSome then "stack" :: named else named
  let extra := match o.kind with
    | .array _ => ["length"]
    | .boxed (.str _) => ["length"]
    | _ => []
  pure (itemKeys ++ indexed.map (·.2) ++ extra ++ named)

/-- The own keys of an object that are symbols' keys, in the order they were added. -/
def ownSymbolKeys (ref : Nat) : Eval (List String) := do
  let ref <- proxyTarget proxyChain ref
  pure (((<- getObj ref).props.toList.map (·.1)).filter isSymbolKey)

/-- The own enumerable keys of an object that are symbols' keys. -/
def ownEnumerableSymbolKeys (ref : Nat) : Eval (List String) := do
  let o <- getObj ref
  pure ((← ownSymbolKeys ref).filter fun k => match o.findOwn? k with
    | some s => s.enumerable
    | none => false)

/-- The own enumerable keys of an object, in order. -/
def ownEnumerableKeys (ref : Nat) : Eval (List String) := do
  let keys <- ownKeys ref
  keys.filterM fun k => do
    match <- ownSlotOf ref k with
    | some s => pure s.enumerable
    | none => pure false

/-- The slot found for a key on an object or its prototype chain. -/
def findSlot (key : String) : Nat -> Nat -> Eval (Option Slot)
  | 0, _ => pure none
  | fuel + 1, ref => do
    let o <- getObj ref
    match <- ownSlotOf ref key with
    | some s => pure (some s)
    | none =>
      match o.kind with
      | .typedArray .. => if isNumericKey key then return none
      | _ => pure ()
      match o.proto with
      | some p => findSlot key fuel p
      | none => pure none

/-- The prototype that holds the properties of a primitive value. -/
def primitiveProto (v : Value) : Eval (Option Nat) := do
  let i <- intrinsics
  match v with
  | .str _ => pure (some i.stringProto)
  | .num _ => pure (some i.numberProto)
  | .bool _ => pure (some i.booleanProto)
  | .bigint _ => pure (some i.bigintProto)
  | .symbol .. => pure (some i.symbolProto)
  | .obj r => pure (some r)
  | _ => pure none

/-- The number of objects in the heap, which bounds every prototype chain. -/
def heapBound : Eval Nat := do
  pure ((<- get).heap.size + 1)

/-- The text a key shows in messages: a symbol's key as the symbol's text. -/
def keyText (key : String) : String :=
  match keySymbol? key with
  | some v => v.primitiveText
  | none => key

/-- Reads a property of a value, calling a getter with `call`. -/
def getProperty (call : Value -> Value -> List Value -> Eval Value) (v : Value) (key : String) :
    Eval Value := do
  match v with
  | .undefined => throwType ("Cannot read properties of undefined (reading '" ++ keyText key ++ "')")
  | .null => throwType ("Cannot read properties of null (reading '" ++ keyText key ++ "')")
  | .str s =>
    if key == "length" then pure (.num (unitLength s).toFloat)
    else match arrayIndex? key with
      | some i => if i < unitLength s then pure (.str (unitSlice s i (i + 1))) else pure .undefined
      | none => do
        let i <- intrinsics
        match <- findSlot key (<- heapBound) i.stringProto with
        | some (.data x _ _ _) => pure x
        | some (.accessor (some g) _ _ _) => call (.obj g) v []
        | _ => pure .undefined
  | _ =>
    match <- primitiveProto v with
    | some start =>
      match <- findSlot key (<- heapBound) start with
      | some (.data x _ _ _) => pure x
      | some (.accessor (some g) _ _ _) => call (.obj g) v []
      | _ => pure .undefined
    | none => pure .undefined

/-- Sets the length of an array: shorter drops items (and the elements kept as properties),
longer adds holes. -/
def setArrayLength (ref : Nat) (n : Nat) : Eval Unit :=
  modifyObj ref fun o => match o.kind with
    | .array items =>
      let items := if n <= items.size then items.extract 0 n
        else items ++ Array.replicate (n - items.size) none
      let props := o.props.filter fun (k, _) => match arrayIndex? k with
        | some i => i < n
        | none => true
      { o with kind := .array items, props }
    | _ => o

/-- Makes room for an array element kept as a property (a getter, or unusual attributes): no item
at its index, and a length beyond it. -/
def clearItemFor (ref : Nat) (key : String) : Eval Unit := do
  match (<- getObj ref).kind, arrayIndex? key with
  | .array items, some i =>
    if i < items.size then modifyObj ref fun o => { o with kind := .array (items.set! i none) }
    else setArrayLength ref (i + 1)
  | _, _ => pure ()

/-- Sets item `i` of an array, adding holes before it if needed. -/
def setArrayItem (ref : Nat) (i : Nat) (v : Value) : Eval Unit :=
  modifyObj ref fun o => match o.kind with
    | .array items =>
      let items := if i < items.size then items.set! i (some v)
        else (items ++ Array.replicate (i - items.size) none).push (some v)
      { o with kind := .array items }
    | _ => o

/-- The largest array length a script may ask for. -/
def maxArrayLength : Nat := 4294967295

/-- Why a write to a property did not take place. -/
inductive Refusal where
  /-- The property is a data property that cannot be written. -/
  | readOnly
  /-- The property is an accessor without a setter. -/
  | getterOnly
  /-- The object takes no new properties. -/
  | notExtensible
  /-- The target is a primitive value, which keeps no properties. -/
  | primitive
  deriving Inhabited, BEq

/-- Writes a property through the prototype chain from `start`, `v` the value written to: a
setter found is called with `call`; anything else found refuses. -/
def putThroughChain (call : Value -> Value -> List Value -> Eval Value) (v : Value) (start : Nat)
    (key : String) (x : Value) (otherwise : Option Refusal) : Eval (Option Refusal) := do
  match <- findSlot key (<- heapBound) start with
  | some (.accessor _ (some s) _ _) =>
    let _ <- call (.obj s) v [x]
    pure none
  | some (.accessor _ none _ _) => pure (some .getterOnly)
  | some (.data _ false _ _) => pure (some .readOnly)
  | _ => pure otherwise

/-- Writes a property of a value, calling a setter with `call`; the result says why the write
did not take place, if it did not. -/
def putProperty (call : Value -> Value -> List Value -> Eval Value) (v : Value) (key : String)
    (x : Value) : Eval (Option Refusal) := do
  match v with
  | .undefined => throwType ("Cannot set properties of undefined (setting '" ++ keyText key ++ "')")
  | .null => throwType ("Cannot set properties of null (setting '" ++ keyText key ++ "')")
  | .obj ref =>
    let o <- getObj ref
    match o.kind with
    | .array items =>
      if key == "length" then
        let n := x.primitiveNumber
        if n < 0 || n != n.floor || n > maxArrayLength.toFloat || n.isNaN then
          raiseError .rangeError "Invalid array length"
        else if o.frozenItems || o.fixedLength then return some .readOnly
        else if !o.sealedItems || integerPart n ≥ items.size then
          -- an element that cannot be deleted stops the shortening after it
          let kept := o.props.foldl (fun m (k, s) => match arrayIndex? k with
            | some i => if !s.configurable && i + 1 > m then i + 1 else m
            | none => m) 0
          setArrayLength ref (max (integerPart n) kept)
        return none
      match arrayIndex? key with
      | some i =>
        if (items[i]?.bind id).isSome then
          if o.frozenItems then return some .readOnly
          setArrayItem ref i x
          return none
        if (o.findOwn? key).isNone then
          if !o.extensible || (o.fixedLength && i >= items.size) then return some .notExtensible
          match <- findSlot key (<- heapBound) ref with
          | some (.accessor ..) | some (.data _ false _ _) => pure ()
          | _ =>
            if i ≤ items.size + 10000000 then
              setArrayItem ref i x
              return none
      | none => pure ()
    | .typedArray .. => if isNumericKey key then return none
    | _ => pure ()
    match <- findSlot key (<- heapBound) ref with
    | some (.accessor _ (some s) _ _) =>
      let _ <- call (.obj s) v [x]
      pure none
    | some (.accessor _ none _ _) => pure (some .getterOnly)
    | some (.data _ false _ _) => pure (some .readOnly)
    | _ =>
      let o <- getObj ref
      match o.findOwn? key with
      | some (.data _ w e c) =>
        modifyObj ref fun o => o.setOwn key (.data x w e c)
        pure none
      | _ =>
        if o.extensible then
          setField ref key x
          pure none
        else pure (some .notExtensible)
  | .str s =>
    let own := key == "length" || match arrayIndex? key with
      | some i => i < unitLength s
      | none => false
    if own then pure (some .readOnly)
    else putThroughChain call v (<- intrinsics).stringProto key x (some .primitive)
  | _ =>
    match <- primitiveProto v with
    | some p => putThroughChain call v p key x (some .primitive)
    | none => pure (some .primitive)

/-- Deletes an own property; `false` when it cannot be deleted. -/
def deleteProperty (ref : Nat) (key : String) : Eval Bool := do
  if key == "stack" then settleTrace ref
  let o <- getObj ref
  match o.kind with
  | .array items =>
    if key == "length" then return false
    match arrayIndex? key with
    | some i =>
      if (items[i]?.bind id).isSome then
        if o.sealedItems then return false
        modifyObj ref fun o => { o with kind := .array (items.set! i none) }
        return true
    | none => pure ()
  | .typedArray _ _ _ length =>
    match arrayIndex? key with
    | some i => return i >= length
    | none => if isNumericKey key then return true
  | _ => pure ()
  match o.findOwn? key with
  | some s =>
    if s.configurable then
      modifyObj ref fun o => o.removeOwn key
      pure true
    else pure false
  | none => pure true

/-- Whether an object or its prototype chain has a property. -/
def hasProperty (ref : Nat) (key : String) : Eval Bool := do
  pure (<- findSlot key (<- heapBound) ref).isSome

/-- Whether an object has an own property. -/
def hasOwnProperty (ref : Nat) (key : String) : Eval Bool := do
  pure (<- ownSlotOf ref key).isSome

/-- Defines an own data property with attributes, replacing any. -/
def defineData (ref : Nat) (key : String) (v : Value) (writable enumerable configurable : Bool) :
    Eval Unit := do
  if key == "stack" then settleTrace ref
  let o <- getObj ref
  match o.kind, arrayIndex? key with
  | .array _, some i =>
    if writable && enumerable && configurable then
      modifyObj ref fun o => o.removeOwn key
      setArrayItem ref i v
    else
      clearItemFor ref key
      modifyObj ref fun o => o.setOwn key (.data v writable enumerable configurable)
  | .typedArray kind .., some i =>
    match kind.isBig, v with
    | true, .bigint n => writeElement ref i (.integer n)
    | false, .num x => writeElement ref i (.number x)
    | _, _ => pure ()
  | _, _ => modifyObj ref fun o => o.setOwn key (.data v writable enumerable configurable)

/-- Defines a getter or a setter, keeping the other half of an accessor already there. -/
def defineAccessor (ref : Nat) (key : String) (getter setter : Option Nat) (enumerable : Bool) :
    Eval Unit := do
  if key == "stack" then settleTrace ref
  let o <- getObj ref
  let (g, s) := match o.findOwn? key with
    | some (.accessor g s _ _) => (getter.orElse fun _ => g, setter.orElse fun _ => s)
    | _ => (getter, setter)
  clearItemFor ref key
  modifyObj ref fun o => o.setOwn key (.accessor g s enumerable true)

/-- Whether `proto` is on the prototype chain of `ref`. -/
def inheritsFrom (proto : Nat) : Nat -> Nat -> Eval Bool
  | 0, _ => pure false
  | fuel + 1, ref => do
    match (<- getObj ref).proto with
    | some p => if p == proto then pure true else inheritsFrom proto fuel p
    | none => pure false

end TranscriptTest.Js
