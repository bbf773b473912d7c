import TranscriptTest.Js.Native

/-!
# `Object` and `Function`

The functions of `Object`, of `Object.prototype`, and of `Function.prototype`. A primitive
given where an object is needed is wrapped in an object of its kind; `null` and `undefined`
cannot be.
-/

namespace TranscriptTest.Js

/-- Wraps a primitive in an object of its kind. -/
def boxValue (v : Value) : Eval Nat := do
  match v with
  | .obj r => pure r
  | _ =>
    let proto <- primitiveProto v
    alloc { kind := .boxed v, proto := proto }

/-- The object a value stands for, wrapping primitives; `null` and `undefined` are refused. -/
def toObject (v : Value) : Eval Nat := do
  match v with
  | .undefined => throwType "Cannot convert undefined or null to object"
  | .null => throwType "Cannot convert undefined or null to object"
  | _ => boxValue v

/-- The prototype for an object made by `new`: the `prototype` of the constructor `new` was
applied to, if it is an object, else a fallback. -/
def Host.protoFor (h : Host) (nt : Option Value) (fallback : Nat) : Eval Nat := do
  match nt with
  | some f =>
    match <- h.get f "prototype" with
    | .obj p => pure p
    | _ => pure fallback
  | none => pure fallback

/-- Gives an object made through `new` the `prototype` of the constructor `new` was applied to,
not the built-in prototype for a subclass. -/
def Host.withProtoOf (h : Host) (nt : Option Value) (made : Value) : Eval Value := do
  match nt, made with
  | some f, .obj r =>
    match <- h.get f "prototype" with
    | .obj p => modifyObj r fun o => { o with proto := some p }
    | _ => pure ()
  | _, _ => pure ()
  pure made

/-- `Object(value)`. -/
def objectCtor : NativeFn := fun h _ args nt => do
  let objectProto := (<- intrinsics).objectProto
  let proto <- h.protoFor nt objectProto
  if proto != objectProto then
    return .obj (<- alloc { kind := .plain, proto := some proto })
  match argAt args 0 with
  | .undefined => pure (.obj (<- newObject))
  | .null => pure (.obj (<- newObject))
  | v => pure (.obj (<- boxValue v))

/-- Locks the properties of an object: none can be deleted or reconfigured, and with `frozen`
none can be changed either; no property can be added. -/
def lockObject (r : Nat) (frozen : Bool) : Eval Unit := do
  let lock : String × Slot -> String × Slot := fun (k, s) => match s with
    | .data v w e _ => (k, .data v (w && !frozen) e false)
    | .accessor g st e _ => (k, .accessor g st e false)
  modifyObj r fun o =>
    { o with extensible := false, props := o.props.map lock, sealedItems := true,
             frozenItems := o.frozenItems || frozen }

/-- `Object.freeze`: no property can change and none can be added. -/
def objectFreeze : NativeFn := fun _ _ args _ => do
  match argAt args 0 with
  | .obj r => lockObject r true; pure (.obj r)
  | v => pure v

/-- `Object.seal`: no property can be deleted and none can be added. -/
def objectSeal : NativeFn := fun _ _ args _ => do
  match argAt args 0 with
  | .obj r => lockObject r false; pure (.obj r)
  | v => pure v

/-- `Object.preventExtensions`. -/
def objectPreventExtensions : NativeFn := fun _ _ args _ => do
  match argAt args 0 with
  | .obj r => modifyObj r (fun o => { o with extensible := false }); pure (.obj r)
  | v => pure v

/-- Whether an object takes no new properties and each of its own properties passes `locked`;
the items of an array count as properties. -/
def isLocked (r : Nat) (locked : Slot → Bool) : Eval Bool := do
  let o <- getObj r
  if o.extensible then return false
  let keys <- ownKeys r
  pure (keys.all fun k => match ownSlot? o k with
    | some s => k == "length" || locked s
    | none => true)

/-- `Object.isFrozen`. -/
def objectIsFrozen : NativeFn := fun _ _ args _ => do
  match argAt args 0 with
  | .obj r =>
    let o <- getObj r
    let lengthFixed := match o.kind with
      | .array items => o.frozenItems || items.size == 0
      | _ => true
    pure (.bool (lengthFixed && (← isLocked r fun s => match s with
      | .data _ w _ c => !w && !c
      | .accessor _ _ _ c => !c)))
  | _ => pure (.bool true)

/-- `Object.isSealed`. -/
def objectIsSealed : NativeFn := fun _ _ args _ => do
  match argAt args 0 with
  | .obj r => pure (.bool (<- isLocked r fun s => !s.configurable))
  | _ => pure (.bool true)

/-- `Object.isExtensible`. -/
def objectIsExtensible : NativeFn := fun _ _ args _ => do
  match argAt args 0 with
  | .obj r => pure (.bool (<- getObj r).extensible)
  | _ => pure (.bool false)

/-- A property description: each attribute given or not; for the accessor halves, `some none`
is a half given as `undefined`. -/
structure Descriptor where
  value : Option Value := none
  writable : Option Bool := none
  getter : Option (Option Nat) := none
  setter : Option (Option Nat) := none
  enumerable : Option Bool := none
  configurable : Option Bool := none

/-- Whether a description speaks of a getter or a setter. -/
def Descriptor.isAccessor (d : Descriptor) : Bool :=
  d.getter.isSome || d.setter.isSome

/-- Reads a property description from an object, in the language's order; an accessor half is a
function or `undefined`, and a value and an accessor do not mix. -/
def Host.readDescriptor (h : Host) (v : Value) : Eval Descriptor := do
  let d <- match v with
    | .obj d => pure d
    | other => throwType ("Property description must be an object: " ++ (<- describeValue other))
  let field (k : String) : Eval (Option Value) := do
    if <- hasProperty d k then pure (some (<- h.get (.obj d) k)) else pure none
  let enumerable := (<- field "enumerable").map Value.truthy
  let configurable := (<- field "configurable").map Value.truthy
  let value <- field "value"
  let writable := (<- field "writable").map Value.truthy
  let half (k : String) (what : String) : Eval (Option (Option Nat)) := do
    match <- field k with
    | none => pure none
    | some .undefined => pure (some none)
    | some (.obj f) =>
      if (<- getObj f).isCallable then pure (some (some f))
      else throwType (what ++ " must be a function: " ++ (<- describeValue (.obj f)))
    | some other => throwType (what ++ " must be a function: " ++ (<- describeValue other))
  let getter <- half "get" "Getter"
  let setter <- half "set" "Setter"
  let desc : Descriptor := { value, writable, getter, setter, enumerable, configurable }
  if desc.isAccessor && (value.isSome || writable.isSome) then
    throwType ("Invalid property descriptor. Cannot both specify accessors and a value or " ++
      "writable attribute, " ++ (<- describeValue (.obj d)))
  pure desc

/-- Defines a property from a description, as `Object.defineProperty` does: a new property takes
`false` and `undefined` for what is left out, and one that cannot be configured may only be made
read-only. -/
def defineFromDescriptor (r : Nat) (key : String) (d : Descriptor) : Eval (Option String) := do
  let o <- getObj r
  let refused := some ("Cannot redefine property: " ++ key)
  match ownSlot? o key with
  | none =>
    if !o.extensible then return some ("Cannot define property " ++ key ++ ", object is not extensible")
    let e := d.enumerable.getD false
    let c := d.configurable.getD false
    if d.isAccessor then
      clearItemFor r key
      modifyObj r fun o => o.setOwn key (.accessor (d.getter.getD none) (d.setter.getD none) e c)
    else defineData r key (d.value.getD .undefined) (d.writable.getD false) e c
    pure none
  | some current =>
    if !current.configurable then
      if d.configurable == some true then return refused
      if d.enumerable.isSome && d.enumerable != some current.enumerable then return refused
      match current with
      | .data v w _ _ =>
        if d.isAccessor then return refused
        if !w then
          if d.writable == some true then return refused
          if let some nv := d.value then
            if !sameValue nv v then return refused
      | .accessor g st _ _ =>
        if d.value.isSome || d.writable.isSome then return refused
        if let some ng := d.getter then
          if ng != g then return refused
        if let some ns := d.setter then
          if ns != st then return refused
    let e := d.enumerable.getD current.enumerable
    let c := d.configurable.getD current.configurable
    let slot : Slot := match current with
      | .data v w _ _ =>
        if d.isAccessor then .accessor (d.getter.getD none) (d.setter.getD none) e c
        else .data (d.value.getD v) (d.writable.getD w) e c
      | .accessor g st _ _ =>
        if d.value.isSome || d.writable.isSome then .data (d.value.getD .undefined) (d.writable.getD false) e c
        else .accessor (d.getter.getD g) (d.setter.getD st) e c
    match o.kind, arrayIndex? key, slot with
    | .array _, some _, .data v w e c => defineData r key v w e c
    | .array _, some _, _ =>
      clearItemFor r key
      modifyObj r fun o => o.setOwn key slot
    | .array _, none, .data (.num n) w _ _ =>
      if key == "length" then
        setArrayLength r (integerPart n)
        if !w then modifyObj r fun o => { o with fixedLength := true }
      else modifyObj r fun o => o.setOwn key slot
    | _, _, _ => modifyObj r fun o => o.setOwn key slot
    pure none

/-- Defines each property an object of descriptions lists, reading all the descriptions
first. -/
def Host.defineAll (h : Host) (r : Nat) (props : Value) : Eval Unit := do
  let src <- toObject props
  let mut descs := #[]
  for k in (← ownEnumerableKeys src) ++ (← ownEnumerableSymbolKeys src) do
    descs := descs.push (k, <- h.readDescriptor (<- h.get (.obj src) k))
  for (k, d) in descs do
    if let some why <- defineFromDescriptor r k d then throwType why

/-- The description of an own property, as an object. -/
def descriptorObject (s : Slot) : Eval Value := do
  let ref <- newObject
  match s with
  | .data v w e c =>
    defineData ref "value" v true true true
    defineData ref "writable" (.bool w) true true true
    defineData ref "enumerable" (.bool e) true true true
    defineData ref "configurable" (.bool c) true true true
  | .accessor g st e c =>
    defineData ref "get" (match g with | some f => .obj f | none => .undefined) true true true
    defineData ref "set" (match st with | some f => .obj f | none => .undefined) true true true
    defineData ref "enumerable" (.bool e) true true true
    defineData ref "configurable" (.bool c) true true true
  pure (.obj ref)

/-- `Object.getOwnPropertyDescriptors`. -/
def objectGetOwnPropertyDescriptors : NativeFn := fun _ _ args _ => do
  let r <- toObject (argAt args 0)
  let out <- newObject
  let o <- getObj r
  for k in (← ownKeys r) ++ (← ownSymbolKeys r) do
    if let some s := ownSlot? o k then defineData out k (<- descriptorObject s) true true true
  pure (.obj out)

/-- `Object.defineProperties`. -/
def objectDefineProperties : NativeFn := fun h _ args _ => do
  match argAt args 0 with
  | .obj r => h.defineAll r (argAt args 1); pure (.obj r)
  | _ => throwType "Object.defineProperties called on non-object"

/-- The groups `Object.groupBy` and `Map.groupBy` make: each key the callback gives, with the
items that gave it, keys in the order first given. -/
def Host.groupItems (h : Host) (items : Value) (f : Value) (asKey : Value -> Eval Value) :
    Eval (List (Value × Array Value)) := do
  requireCallable f (<- describeValue f)
  let values <- h.iterate items
  let mut groups : Array (Value × Array Value) := #[]
  for (v, i) in values.toList.zipIdx do
    let k <- asKey (<- h.call f .undefined [v, .num i.toFloat])
    match groups.findIdx? (fun g => sameValueZero g.1 k) with
    | some j => groups := groups.modify j fun (k, vs) => (k, vs.push v)
    | none => groups := groups.push (k, #[v])
  pure groups.toList

/-- `Object.groupBy`: an object without prototype, one property for each group. -/
def objectGroupBy : NativeFn := fun h _ args _ => do
  let groups <- h.groupItems (argAt args 0) (argAt args 1) fun k => do pure (.str (<- h.toKey k))
  let ref <- alloc {}
  for (k, vs) in groups do
    defineData ref (<- h.toKey k) (<- newArray vs) true true true
  pure (.obj ref)

/-- `Object.create`. -/
def objectCreate : NativeFn := fun h _ args _ => do
  let proto <- match argAt args 0 with
    | .obj r => pure (some r)
    | .null => pure none
    | v => throwType ("Object prototype may only be an Object or null: " ++ (<- describeValue v))
  let ref <- alloc { proto := proto }
  match argAt args 1 with
  | .undefined => pure ()
  | props => h.defineAll ref props
  pure (.obj ref)

/-- Sets the prototype of an object; the error when that is refused: the object takes no
changes, or the new prototype inherits from the object. -/
def setPrototype (r : Nat) (p : Option Nat) : Eval (Option String) := do
  let o <- getObj r
  if o.proto == p then return none
  if !o.extensible then return some ((<- describeValue (.obj r)) ++ " is not extensible")
  if let some q := p then
    if q == r || (<- inheritsFrom r (<- heapBound) q) then return some "Cyclic __proto__ value"
  modifyObj r fun o => { o with proto := p }
  pure none

/-- The prototype argument of `Object.setPrototypeOf` and `Object.create`: an object or
`null`. -/
def protoArg (v : Value) : Eval (Option Nat) := do
  match v with
  | .obj p => pure (some p)
  | .null => pure none
  | _ => throwType ("Object prototype may only be an Object or null: " ++ (<- describeValue v))

/-! ## Operations that proxies answer

On a proxy, each of these operations calls the handler's trap of the operation's name, or, where
the handler has none, performs the operation on the proxy's target. A revoked proxy refuses
them all. -/

/-- The target, the handler and the trap of `op` of a proxy; `none` for any other object. -/
def Host.trapOf? (h : Host) (ref : Nat) (op : String) : Eval (Option (Nat × Nat × Value)) := do
  match (<- getObj ref).kind with
  | .proxy target handler _ revoked =>
    if revoked then throwType ("Cannot perform '" ++ op ++ "' on a proxy that has been revoked")
    pure (some (target, handler, <- h.get (.obj handler) op))
  | _ => pure none

/-- The own keys of an object, strings before symbols. -/
def Host.ownKeysOf (h : Host) : Nat -> Nat -> Eval (List String)
  | 0, _ => pure []
  | fuel + 1, ref => do
    match <- h.trapOf? ref "ownKeys" with
    | some (target, handler, trap) =>
      if trap.isNullish then h.ownKeysOf fuel target
      else
        let list <- h.call trap (.obj handler) [.obj target]
        let n <- h.lengthOf list
        (List.range n).mapM fun i => do h.toKey (<- h.get list (toString i))
    | none => pure ((<- ownKeys ref) ++ (<- ownSymbolKeys ref))

/-- A property as a description tells it, what it leaves out taken as `false` or `undefined`. -/
def Descriptor.toSlot (d : Descriptor) : Slot :=
  if d.isAccessor then
    .accessor (d.getter.getD none) (d.setter.getD none) (d.enumerable.getD false) (d.configurable.getD false)
  else .data (d.value.getD .undefined) (d.writable.getD false) (d.enumerable.getD false) (d.configurable.getD false)

/-- An own property of an object. -/
def Host.ownPropertyOf (h : Host) : Nat -> Nat -> String -> Eval (Option Slot)
  | 0, _, _ => pure none
  | fuel + 1, ref, key => do
    match <- h.trapOf? ref "getOwnPropertyDescriptor" with
    | some (target, handler, trap) =>
      if trap.isNullish then h.ownPropertyOf fuel target key
      else
        match <- h.call trap (.obj handler) [.obj target, keyValue key] with
        | .undefined => pure none
        | d@(.obj _) => pure (some (<- h.readDescriptor d).toSlot)
        | _ => throwType ("'getOwnPropertyDescriptor' on proxy: trap returned neither object nor " ++
            "undefined for property '" ++ keyText key ++ "'")
    | none => ownSlotOf ref key

/-- The own enumerable string keys of an object, in order. -/
def Host.enumerableKeysOf (h : Host) (ref : Nat) : Eval (List String) := do
  match (<- getObj ref).kind with
  | .proxy .. =>
    let keys := (<- h.ownKeysOf proxyChain ref).filter fun k => (keySymbol? k).isNone
    keys.filterM fun k => do
      match <- h.ownPropertyOf proxyChain ref k with
      | some s => pure s.enumerable
      | none => pure false
  | _ => ownEnumerableKeys ref

/-- Deletes an own property; `false` when that is refused. -/
def Host.deleteOf (h : Host) : Nat -> Nat -> String -> Eval Bool
  | 0, _, _ => pure false
  | fuel + 1, ref, key => do
    match <- h.trapOf? ref "deleteProperty" with
    | some (target, handler, trap) =>
      if trap.isNullish then h.deleteOf fuel target key
      else pure (<- h.call trap (.obj handler) [.obj target, keyValue key]).truthy
    | none => deleteProperty ref key

/-- A description as an object with the fields it has. -/
def Descriptor.toValue (d : Descriptor) : Eval Value := do
  let ref <- newObject
  let fn : Option Nat -> Value := fun f => match f with
    | some f => .obj f
    | none => .undefined
  if let some v := d.value then defineData ref "value" v true true true
  if let some w := d.writable then defineData ref "writable" (.bool w) true true true
  if let some g := d.getter then defineData ref "get" (fn g) true true true
  if let some st := d.setter then defineData ref "set" (fn st) true true true
  if let some e := d.enumerable then defineData ref "enumerable" (.bool e) true true true
  if let some c := d.configurable then defineData ref "configurable" (.bool c) true true true
  pure (.obj ref)

/-- Defines a property from a description; the message of a refusal, if any. -/
def Host.defineOf (h : Host) : Nat -> Nat -> String -> Descriptor -> Eval (Option String)
  | 0, _, _, _ => pure none
  | fuel + 1, ref, key, d => do
    match <- h.trapOf? ref "defineProperty" with
    | some (target, handler, trap) =>
      if trap.isNullish then h.defineOf fuel target key d
      else if (<- h.call trap (.obj handler) [.obj target, keyValue key, <- d.toValue]).truthy then pure none
      else pure (some ("'defineProperty' on proxy: trap returned falsish for property '" ++ keyText key ++ "'"))
    | none => defineFromDescriptor ref key d

/-- The prototype of an object. -/
def Host.protoOf (h : Host) : Nat -> Nat -> Eval (Option Nat)
  | 0, _ => pure none
  | fuel + 1, ref => do
    match <- h.trapOf? ref "getPrototypeOf" with
    | some (target, handler, trap) =>
      if trap.isNullish then h.protoOf fuel target
      else
        match <- h.call trap (.obj handler) [.obj target] with
        | .obj p => pure (some p)
        | .null => pure none
        | _ => throwType "'getPrototypeOf' on proxy: trap returned neither object nor null"
    | none => pure (<- getObj ref).proto

/-- Sets the prototype of an object; the message of a refusal, if any. -/
def Host.setProtoOf (h : Host) : Nat -> Nat -> Option Nat -> Eval (Option String)
  | 0, _, _ => pure none
  | fuel + 1, ref, p => do
    match <- h.trapOf? ref "setPrototypeOf" with
    | some (target, handler, trap) =>
      if trap.isNullish then h.setProtoOf fuel target p
      else
        let pv := match p with
          | some q => Value.obj q
          | none => .null
        if (<- h.call trap (.obj handler) [.obj target, pv]).truthy then pure none
        else pure (some "'setPrototypeOf' on proxy: trap returned falsish")
    | none => setPrototype ref p

/-- `Object.getOwnPropertyDescriptor`. -/
def objectGetOwnPropertyDescriptor : NativeFn := fun h _ args _ => do
  let r <- toObject (argAt args 0)
  let key <- h.toKey (argAt args 1)
  match <- h.ownPropertyOf proxyChain r key with
  | some s => descriptorObject s
  | none => pure .undefined

/-- `Object.keys`. -/
def objectKeys : NativeFn := fun h _ args _ => do
  let r <- toObject (argAt args 0)
  newArray ((<- h.enumerableKeysOf r).map Value.str).toArray

/-- `Object.values`. -/
def objectValues : NativeFn := fun h _ args _ => do
  let r <- toObject (argAt args 0)
  let vs <- (<- h.enumerableKeysOf r).mapM fun k => h.get (.obj r) k
  newArray vs.toArray

/-- `Object.entries`. -/
def objectEntries : NativeFn := fun h _ args _ => do
  let r <- toObject (argAt args 0)
  let vs <- (<- h.enumerableKeysOf r).mapM fun k => do newArray #[.str k, <- h.get (.obj r) k]
  newArray vs.toArray

/-- `Object.assign`: copies own enumerable properties of each source onto the target. -/
def objectAssign : NativeFn := fun h _ args _ => do
  let target <- toObject (argAt args 0)
  for src in args.drop 1 do
    if !src.isNullish then
      let r <- toObject src
      for k in (← h.enumerableKeysOf r) ++ (← ownEnumerableSymbolKeys r) do
        h.assign (.obj target) k (<- h.get (.obj r) k)
  pure (.obj target)

/-- `Object.getPrototypeOf`. -/
def objectGetPrototypeOf : NativeFn := fun h _ args _ => do
  match <- h.protoOf proxyChain (<- toObject (argAt args 0)) with
  | some p => pure (.obj p)
  | none => pure .null

/-- `Object.setPrototypeOf`. -/
def objectSetPrototypeOf : NativeFn := fun h _ args _ => do
  match argAt args 0 with
  | .undefined | .null => throwType "Object.setPrototypeOf called on null or undefined"
  | .obj r =>
    if let some why <- h.setProtoOf proxyChain r (<- protoArg (argAt args 1)) then throwType why
    pure (.obj r)
  | v =>
    let _ <- protoArg (argAt args 1)
    pure v

/-- The getter of `Object.prototype.__proto__`. -/
def objectProtoGetProto : NativeFn := fun _ this _ _ => do
  match (<- getObj (<- toObject this)).proto with
  | some p => pure (.obj p)
  | none => pure .null

/-- The setter of `Object.prototype.__proto__`: only objects take a new prototype, and only an
object or `null`. -/
def objectProtoSetProto : NativeFn := fun _ this args _ => do
  match this with
  | .undefined | .null =>
    throwType "Object.prototype.__proto__ called on null or undefined"
  | .obj r =>
    let p <- match argAt args 0 with
      | .obj p => pure (some (some p))
      | .null => pure (some none)
      | _ => pure none
    if let some p := p then
      if let some why <- setPrototype r p then throwType why
    pure .undefined
  | _ => pure .undefined

/-- `Object.defineProperty`. -/
def objectDefineProperty : NativeFn := fun h _ args _ => do
  let r <- match argAt args 0 with
    | .obj r => pure r
    | _ => throwType "Object.defineProperty called on non-object"
  let key <- h.toKey (argAt args 1)
  let d <- h.readDescriptor (argAt args 2)
  if let some why <- h.defineOf proxyChain r key d then throwType why
  pure (.obj r)

/-- `Object.getOwnPropertyNames`. -/
def objectGetOwnPropertyNames : NativeFn := fun h _ args _ => do
  let r <- toObject (argAt args 0)
  let keys := (<- h.ownKeysOf proxyChain r).filter fun k => (keySymbol? k).isNone
  newArray (keys.map Value.str).toArray

/-- `Object.getOwnPropertySymbols`. -/
def objectGetOwnPropertySymbols : NativeFn := fun _ _ args _ => do
  let r <- toObject (argAt args 0)
  newArray ((<- ownSymbolKeys r).filterMap keySymbol?).toArray

/-- `Object.fromEntries`. -/
def objectFromEntries : NativeFn := fun h _ args _ => do
  let ref <- newObject
  for entry in ← h.iterate (argAt args 0) do
    let k <- h.toKey (<- h.get entry "0")
    setField ref k (<- h.get entry "1")
  pure (.obj ref)

/-- `Object.is`. -/
def objectIs : NativeFn := fun _ _ args _ => do
  pure (.bool (sameValue (argAt args 0) (argAt args 1)))

/-- The tag `Object.prototype.toString` shows for a value. -/
def toStringTag (v : Value) : Eval String := do
  match v with
  | .undefined => pure "Undefined"
  | .null => pure "Null"
  | .bool _ => pure "Boolean"
  | .num _ => pure "Number"
  | .str _ => pure "String"
  | .bigint _ => pure "Object"
  | .symbol .. => pure "Object"
  | .obj r =>
    let o <- getObj (<- proxyTarget proxyChain r)
    match o.kind with
    | .array _ => pure "Array"
    | .closure .. => pure "Function"
    | .native .. => pure "Function"
    | .bound .. => pure "Function"
    | .error => pure "Error"
    | .date _ => pure "Date"
    | .regexp .. => pure "RegExp"
    | .boxed (.bool _) => pure "Boolean"
    | .boxed (.num _) => pure "Number"
    | .boxed (.str _) => pure "String"
    | .map _ => pure "Map"
    | .set _ => pure "Set"
    | .iterator _ _ tag | .walker _ _ _ tag => pure tag
    | .arguments => pure "Arguments"
    | _ => pure "Object"

/-- `Object.prototype.toString`: the value's own kind, unless a `Symbol.toStringTag` property
found from it is text. -/
def objectProtoToString : NativeFn := fun h this _ _ => do
  let builtin <- toStringTag this
  let tag <- if this.isNullish then pure builtin
    else match <- h.get this (wellKnownKey "toStringTag") with
      | .str t => pure t
      | _ => pure builtin
  pure (.str ("[object " ++ tag ++ "]"))

/-- `Object.prototype.toLocaleString`. -/
def objectProtoToLocaleString : NativeFn := fun h this _ _ => do
  h.call (<- h.get this "toString") this []

/-- `Object.prototype.hasOwnProperty`. -/
def objectProtoHasOwnProperty : NativeFn := fun h this args _ => do
  let key <- h.toKey (argAt args 0)
  let r <- toObject this
  pure (.bool (<- hasOwnProperty r key))

/-- `Object.hasOwn`. -/
def objectHasOwn : NativeFn := fun h _ args _ => do
  let r <- toObject (argAt args 0)
  let key <- h.toKey (argAt args 1)
  pure (.bool (<- hasOwnProperty r key))

/-- `Object.prototype.valueOf`. -/
def objectProtoValueOf : NativeFn := fun _ this _ _ => do
  pure (.obj (<- toObject this))

/-- `Object.prototype.isPrototypeOf`. -/
def objectProtoIsPrototypeOf : NativeFn := fun _ this args _ => do
  match argAt args 0, this with
  | .obj r, .obj p => pure (.bool (<- inheritsFrom p (<- heapBound) r))
  | _, _ => pure (.bool false)

/-- `Object.prototype.propertyIsEnumerable`. -/
def objectProtoPropertyIsEnumerable : NativeFn := fun h this args _ => do
  let key <- h.toKey (argAt args 0)
  let r <- toObject this
  match ownSlot? (<- getObj r) key with
  | some s => pure (.bool s.enumerable)
  | none => pure (.bool false)

/-! ## Functions -/

/-- The text of the service's `print` function, which the service defines in script text as an
arrow function inside its setup code. -/
def printSource : String :=
  "(...args) => \x7b\n    printed.push(args.map(render).join(' '));\n  \x7d"

/-- The source text a function prints as. -/
def functionSource (ref : Nat) : Eval String := do
  let o <- getObj ref
  if ref == (<- intrinsics).printFunction then return printSource
  match o.kind with
  | .closure fn .. => pure fn.source
  | .native .. => pure ("function " ++ functionNameOf o ++ "() { [native code] }")
  | _ => pure "function () { [native code] }"
where
  functionNameOf (o : Obj) : String :=
    match o.findOwn? "name" with
    | some (.data (.str n) _ _ _) => n
    | _ => ""

/-- `Function.prototype.toString`. -/
def functionProtoToString : NativeFn := fun _ this _ _ => do
  match this with
  | .obj r =>
    if (<- getObj r).isCallable then pure (.str (<- functionSource r))
    else throwType "Function.prototype.toString requires that 'this' be a Function"
  | _ => throwType "Function.prototype.toString requires that 'this' be a Function"

/-- `Function.prototype.call`. -/
def functionProtoCall : NativeFn := fun h this args _ => do
  h.call this (argAt args 0) (args.drop 1)

/-- The values of an array-like object, as arguments. -/
def Host.listOf (h : Host) (v : Value) : Eval (List Value) := do
  match v with
  | .undefined => pure []
  | .null => pure []
  | .obj r =>
    match (<- getObj r).kind with
    | .array items => pure (items.toList.map fun x => x.getD .undefined)
    | _ =>
      let n <- h.lengthOf v
      (List.range n).mapM fun i => h.get v (toString i)
  | _ => throwType "CreateListFromArrayLike called on non-object"

/-- `Function.prototype.apply`. -/
def functionProtoApply : NativeFn := fun h this args _ => do
  h.call this (argAt args 0) (<- h.listOf (argAt args 1))

/-- `Function.prototype.bind`. -/
def functionProtoBind : NativeFn := fun _ this args _ => do
  match this with
  | .obj target =>
    let o <- getObj target
    if !o.isCallable then throwType "Bind must be called on a function"
    let name := match o.findOwn? "name" with
      | some (.data (.str n) _ _ _) => n
      | _ => ""
    let len := match o.findOwn? "length" with
      | some (.data (.num n) _ _ _) => integerPart n
      | _ => 0
    let bound := args.drop 1
    let ref <- newFunction (.bound target (argAt args 0) bound) ("bound " ++ name) (len - bound.length)
    pure (.obj ref)
  | _ => throwType "Bind must be called on a function"

/-- `Function(p1, …, body)` and its kin for generators and `async` functions: a function made
from text in the global scope, named `anonymous`, whose text is its keyword, then
`anonymous(p1,…` and a line break before `)`, then the body between line breaks in braces. -/
def functionFromText (keyword : String) : NativeFn := fun h _ args _ => do
  let texts <- args.mapM h.toStr
  let (params, body) := match texts.reverse with
    | [] => ("", "")
    | b :: ps => (",".intercalate ps.reverse, b)
  let source := keyword ++ " anonymous(" ++ params ++ "\n) \x7b\n" ++ body ++ "\n\x7d"
  h.evalGlobal (.str ("(" ++ source ++ ")"))

/-- `Function(…)`. -/
def functionCtor : NativeFn := functionFromText "function"

/-- `__defineGetter__(key, getter)` and `__defineSetter__(key, setter)`: defines half of an
enumerable accessor property, keeping the other half of one already there. -/
def objectDefineAccessor (setter : Bool) : NativeFn := fun h this args _ => do
  let r <- toObject this
  let f := argAt args 1
  let name := if setter then "__defineSetter__" else "__defineGetter__"
  if !(<- isCallable f) then throwType ("Object.prototype." ++ name ++ ": Expecting function")
  let key <- h.toKey (argAt args 0)
  match f with
  | .obj fn =>
    if setter then defineAccessor r key none (some fn) true
    else defineAccessor r key (some fn) none true
  | _ => pure ()
  pure .undefined

/-- `__lookupGetter__(key)` and `__lookupSetter__(key)`: the getter or setter of the first
object on the prototype chain that has the property, if it is an accessor. -/
def objectLookupAccessor (setter : Bool) : NativeFn := fun h this args _ => do
  let r <- toObject this
  let key <- h.toKey (argAt args 0)
  match <- findSlot key (<- heapBound) r with
  | some (.accessor g s _ _) =>
    match (if setter then s else g) with
    | some f => pure (.obj f)
    | none => pure .undefined
  | _ => pure .undefined

end TranscriptTest.Js
