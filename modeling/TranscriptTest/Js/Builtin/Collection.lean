import TranscriptTest.Js.Builtin.Error

/-!
# `Map`, `Set` and iterators

Maps and sets keep their entries in insertion order and compare keys by same-value-zero (NaN
equals itself, `-0` is `+0`); a removed entry leaves a gap, as the iterators walking the
collection keep their place by position. The iterators of maps, sets and arrays see the changes
made while they run; those of strings walk the text's characters. A generator's `next`, `throw` and `return` resume
it.
-/

namespace TranscriptTest.Js

/-- A key as maps store it: `-0` becomes `+0`. -/
def normalizeKey (v : Value) : Value :=
  match v with
  | .num x => if x == 0 then .num 0 else v
  | _ => v

/-- The entries of the map `this` refers to, gaps included. -/
def rawMap (this : Value) (method : String) : Eval (Nat × Array (Option (Value × Value))) := do
  match this with
  | .obj r => match (<- getObj r).kind with
    | .map es => pure (r, es)
    | _ => throwType ("Method Map.prototype." ++ method ++ " called on incompatible receiver " ++ (<- describeValue this))
  | _ => throwType ("Method Map.prototype." ++ method ++ " called on incompatible receiver " ++ (<- describeValue this))

/-- The entries of the map `this` refers to. -/
def thisMap (this : Value) (method : String) : Eval (Nat × Array (Value × Value)) := do
  let (r, es) <- rawMap this method
  pure (r, es.filterMap id)

/-- The items of the set `this` refers to, gaps included. -/
def rawSet (this : Value) (method : String) : Eval (Nat × Array (Option Value)) := do
  match this with
  | .obj r => match (<- getObj r).kind with
    | .set xs => pure (r, xs)
    | _ => throwType ("Method Set.prototype." ++ method ++ " called on incompatible receiver " ++ (<- describeValue this))
  | _ => throwType ("Method Set.prototype." ++ method ++ " called on incompatible receiver " ++ (<- describeValue this))

/-- The items of the set `this` refers to. -/
def thisSet (this : Value) (method : String) : Eval (Nat × Array Value) := do
  let (r, xs) <- rawSet this method
  pure (r, xs.filterMap id)

/-- Whether a map entry (not a gap) has the key. -/
def entryHas (k : Value) : Option (Value × Value) -> Bool
  | some e => sameValueZero e.1 k
  | none => false

/-- Adds or replaces a map entry. -/
def mapPut (es : Array (Option (Value × Value))) (k v : Value) : Array (Option (Value × Value)) :=
  let k := normalizeKey k
  match es.findIdx? (entryHas k) with
  | some i => es.set! i (some (k, v))
  | none => es.push (some (k, v))

/-- `new Map(entries)`. -/
def mapCtor : NativeFn := fun h _ args nt => do
  let some _ := nt | throwType "Constructor Map requires 'new'"
  let proto <- h.protoFor nt (<- intrinsics).mapProto
  let ref <- alloc { kind := .map #[], proto := some proto }
  match argAt args 0 with
  | .undefined => pure ()
  | .null => pure ()
  | src =>
    for e in ← h.iterate src do
      match e with
      | .obj _ =>
        let k <- h.get e "0"
        let v <- h.get e "1"
        modifyObj ref fun o => match o.kind with
          | .map es => { o with kind := .map (mapPut es k v) }
          | _ => o
      | _ => throwType ("Iterator value " ++ (<- describeValue e) ++ " is not an entry object")
  pure (.obj ref)

/-- `Map.prototype.get`. -/
def mapGet : NativeFn := fun _ this args _ => do
  let (_, es) <- thisMap this "get"
  let k := normalizeKey (argAt args 0)
  pure ((es.find? fun e => sameValueZero e.1 k).map (·.2) |>.getD .undefined)

/-- `Map.prototype.set`. -/
def mapSet : NativeFn := fun _ this args _ => do
  let (r, es) <- rawMap this "set"
  modifyObj r fun o => { o with kind := .map (mapPut es (argAt args 0) (argAt args 1)) }
  pure this

/-- `Map.prototype.has`. -/
def mapHas : NativeFn := fun _ this args _ => do
  let (_, es) <- rawMap this "has"
  pure (.bool (es.any (entryHas (normalizeKey (argAt args 0)))))

/-- `Map.prototype.delete`: the entry becomes a gap. -/
def mapDelete : NativeFn := fun _ this args _ => do
  let (r, es) <- rawMap this "delete"
  match es.findIdx? (entryHas (normalizeKey (argAt args 0))) with
  | some i =>
    modifyObj r fun o => { o with kind := .map (es.set! i none) }
    pure (.bool true)
  | none => pure (.bool false)

/-- `Map.prototype.clear`: every entry becomes a gap, so that iterators go on with entries
added later. -/
def mapClear : NativeFn := fun _ this _ _ => do
  let (r, es) <- rawMap this "clear"
  modifyObj r fun o => { o with kind := .map (es.map fun _ => none) }
  pure .undefined

/-- `Map.prototype.size`. -/
def mapSize : NativeFn := fun _ this _ _ => do
  let (_, es) <- thisMap this "size"
  pure (.num es.size.toFloat)

/-- The most steps a `forEach` of a map or set takes; entries added meanwhile are visited. -/
def collectionSteps : Nat := 100000000

/-- `Map.prototype.forEach`: the entries as they are when reached. -/
def mapForEach : NativeFn := fun h this args _ => do
  let (r, _) <- rawMap this "forEach"
  let f := argAt args 0
  requireCallable f (<- describeValue f)
  for i in [0:collectionSteps] do
    match (<- getObj r).kind with
    | .map es =>
      match es[i]? with
      | some (some (k, v)) => let _ <- h.call f (argAt args 1) [v, k, this]
      | some none => pure ()
      | none => break
    | _ => break
  pure .undefined

/-- `Map.prototype.keys`. -/
def mapKeys : NativeFn := fun _ this _ _ => do
  let (r, _) <- rawMap this "keys"
  newWalker r .keys "Map Iterator"

/-- `Map.prototype.values`. -/
def mapValues : NativeFn := fun _ this _ _ => do
  let (r, _) <- rawMap this "values"
  newWalker r .values "Map Iterator"

/-- `Map.prototype.entries`. -/
def mapEntries : NativeFn := fun _ this _ _ => do
  let (r, _) <- rawMap this "entries"
  newWalker r .entries "Map Iterator"

/-- Whether a set's place (not a gap) holds the value. -/
def itemIs (v : Value) : Option Value -> Bool
  | some x => sameValueZero x v
  | none => false

/-- Adds an item to a set's items if it is not there. -/
def setPut (xs : Array (Option Value)) (v : Value) : Array (Option Value) :=
  let v := normalizeKey v
  if xs.any (itemIs v) then xs else xs.push (some v)

/-- `new Set(values)`. -/
def setCtor : NativeFn := fun h _ args nt => do
  let some _ := nt | throwType "Constructor Set requires 'new'"
  let proto <- h.protoFor nt (<- intrinsics).setProto
  let items <- match argAt args 0 with
    | .undefined => pure #[]
    | .null => pure #[]
    | src => do pure ((<- h.iterate src).foldl setPut #[])
  let ref <- alloc { kind := .set items, proto := some proto }
  pure (.obj ref)

/-- `Set.prototype.add`. -/
def setAdd : NativeFn := fun _ this args _ => do
  let (r, xs) <- rawSet this "add"
  modifyObj r fun o => { o with kind := .set (setPut xs (argAt args 0)) }
  pure this

/-- `Set.prototype.has`. -/
def setHas : NativeFn := fun _ this args _ => do
  let (_, xs) <- rawSet this "has"
  pure (.bool (xs.any (itemIs (normalizeKey (argAt args 0)))))

/-- `Set.prototype.delete`: the item becomes a gap. -/
def setDelete : NativeFn := fun _ this args _ => do
  let (r, xs) <- rawSet this "delete"
  match xs.findIdx? (itemIs (normalizeKey (argAt args 0))) with
  | some i =>
    modifyObj r fun o => { o with kind := .set (xs.set! i none) }
    pure (.bool true)
  | none => pure (.bool false)

/-- `Set.prototype.clear`. -/
def setClear : NativeFn := fun _ this _ _ => do
  let (r, xs) <- rawSet this "clear"
  modifyObj r fun o => { o with kind := .set (xs.map fun _ => none) }
  pure .undefined

/-- `Set.prototype.size`. -/
def setSize : NativeFn := fun _ this _ _ => do
  let (_, xs) <- thisSet this "size"
  pure (.num xs.size.toFloat)

/-- `Set.prototype.forEach`: the items as they are when reached. -/
def setForEach : NativeFn := fun h this args _ => do
  let (r, _) <- rawSet this "forEach"
  let f := argAt args 0
  requireCallable f (<- describeValue f)
  for i in [0:collectionSteps] do
    match (<- getObj r).kind with
    | .set xs =>
      match xs[i]? with
      | some (some v) => let _ <- h.call f (argAt args 1) [v, v, this]
      | some none => pure ()
      | none => break
    | _ => break
  pure .undefined

/-- `Set.prototype.values`. -/
def setValues : NativeFn := fun _ this _ _ => do
  let (r, _) <- rawSet this "values"
  newWalker r .values "Set Iterator"

/-- `Set.prototype.entries`. -/
def setEntries : NativeFn := fun _ this _ _ => do
  let (r, _) <- rawSet this "entries"
  newWalker r .entries "Set Iterator"

/-! ## Weak collections

A weak map or set holds objects by reference and cannot be listed or counted; anything but an
object is refused as a key. A weak reference gives its object back. -/

/-- The entries of the weak map `this` refers to. -/
def thisWeakMap (this : Value) (method : String) : Eval (Nat × Array (Nat × Value)) := do
  let refused : Eval (Nat × Array (Nat × Value)) := do
    throwType ("Method WeakMap.prototype." ++ method ++ " called on incompatible receiver " ++
      (<- describeValue this))
  match this with
  | .obj r => match (<- getObj r).kind with
    | .weakMap es => pure (r, es)
    | _ => refused
  | _ => refused

/-- The objects of the weak set `this` refers to. -/
def thisWeakSet (this : Value) (method : String) : Eval (Nat × Array Nat) := do
  let refused : Eval (Nat × Array Nat) := do
    throwType ("Method WeakSet.prototype." ++ method ++ " called on incompatible receiver " ++
      (<- describeValue this))
  match this with
  | .obj r => match (<- getObj r).kind with
    | .weakSet xs => pure (r, xs)
    | _ => refused
  | _ => refused

/-- Adds or replaces an entry of a weak map. -/
def weakPut (es : Array (Nat × Value)) (k : Nat) (v : Value) : Array (Nat × Value) :=
  match es.findIdx? (·.1 == k) with
  | some i => es.set! i (k, v)
  | none => es.push (k, v)

/-- The key of a weak collection: an object, or the error for anything else. -/
def weakKey (v : Value) (refusal : String) : Eval Nat := do
  match v with
  | .obj k => pure k
  | _ => throwType refusal

/-- `new WeakMap(entries)`. -/
def weakMapCtor : NativeFn := fun h _ args nt => do
  let some _ := nt | throwType "Constructor WeakMap requires 'new'"
  let proto <- h.protoFor nt (<- intrinsics).weakMapProto
  let ref <- alloc { kind := .weakMap #[], proto := some proto }
  match argAt args 0 with
  | .undefined | .null => pure ()
  | src =>
    for e in ← h.iterate src do
      match e with
      | .obj _ =>
        let k <- weakKey (<- h.get e "0") "Invalid value used as weak map key"
        let v <- h.get e "1"
        modifyObj ref fun o => match o.kind with
          | .weakMap es => { o with kind := .weakMap (weakPut es k v) }
          | _ => o
      | _ => throwType ("Iterator value " ++ (<- describeValue e) ++ " is not an entry object")
  pure (.obj ref)

/-- `WeakMap.prototype.get`. -/
def weakMapGet : NativeFn := fun _ this args _ => do
  let (_, es) <- thisWeakMap this "get"
  match argAt args 0 with
  | .obj k => pure (((es.find? (·.1 == k)).map (·.2)).getD .undefined)
  | _ => pure .undefined

/-- `WeakMap.prototype.set`. -/
def weakMapSet : NativeFn := fun _ this args _ => do
  let (r, es) <- thisWeakMap this "set"
  let k <- weakKey (argAt args 0) "Invalid value used as weak map key"
  modifyObj r fun o => { o with kind := .weakMap (weakPut es k (argAt args 1)) }
  pure this

/-- `WeakMap.prototype.has`. -/
def weakMapHas : NativeFn := fun _ this args _ => do
  let (_, es) <- thisWeakMap this "has"
  match argAt args 0 with
  | .obj k => pure (.bool (es.any (·.1 == k)))
  | _ => pure (.bool false)

/-- `WeakMap.prototype.delete`. -/
def weakMapDelete : NativeFn := fun _ this args _ => do
  let (r, es) <- thisWeakMap this "delete"
  match argAt args 0 with
  | .obj k =>
    let kept := es.filter (·.1 != k)
    modifyObj r fun o => { o with kind := .weakMap kept }
    pure (.bool (kept.size < es.size))
  | _ => pure (.bool false)

/-- `new WeakSet(values)`. -/
def weakSetCtor : NativeFn := fun h _ args nt => do
  let some _ := nt | throwType "Constructor WeakSet requires 'new'"
  let proto <- h.protoFor nt (<- intrinsics).weakSetProto
  let items <- match argAt args 0 with
    | .undefined | .null => pure #[]
    | src => do
      let mut xs : Array Nat := #[]
      for v in ← h.iterate src do
        let k <- weakKey v "Invalid value used in weak set"
        if !xs.contains k then xs := xs.push k
      pure xs
  pure (.obj (<- alloc { kind := .weakSet items, proto := some proto }))

/-- `WeakSet.prototype.add`. -/
def weakSetAdd : NativeFn := fun _ this args _ => do
  let (r, xs) <- thisWeakSet this "add"
  let k <- weakKey (argAt args 0) "Invalid value used in weak set"
  if !xs.contains k then modifyObj r fun o => { o with kind := .weakSet (xs.push k) }
  pure this

/-- `WeakSet.prototype.has`. -/
def weakSetHas : NativeFn := fun _ this args _ => do
  let (_, xs) <- thisWeakSet this "has"
  match argAt args 0 with
  | .obj k => pure (.bool (xs.contains k))
  | _ => pure (.bool false)

/-- `WeakSet.prototype.delete`. -/
def weakSetDelete : NativeFn := fun _ this args _ => do
  let (r, xs) <- thisWeakSet this "delete"
  match argAt args 0 with
  | .obj k =>
    let kept := xs.filter (· != k)
    modifyObj r fun o => { o with kind := .weakSet kept }
    pure (.bool (kept.size < xs.size))
  | _ => pure (.bool false)

/-- `new WeakRef(target)`. -/
def weakRefCtor : NativeFn := fun h _ args nt => do
  let some _ := nt | throwType "Constructor WeakRef requires 'new'"
  let proto <- h.protoFor nt (<- intrinsics).weakRefProto
  let k <- weakKey (argAt args 0) "WeakRef: invalid target"
  pure (.obj (<- alloc { kind := .weakRef k, proto := some proto }))

/-- `WeakRef.prototype.deref`. -/
def weakRefDeref : NativeFn := fun _ this _ _ => do
  match this with
  | .obj r => match (<- getObj r).kind with
    | .weakRef k => pure (.obj k)
    | _ => throwType ("Method WeakRef.prototype.deref called on incompatible receiver " ++
        (<- describeValue this))
  | _ => throwType ("Method WeakRef.prototype.deref called on incompatible receiver " ++
      (<- describeValue this))

/-- `new FinalizationRegistry(cleanup)`: a registry whose cleanup never runs, since nothing a
script can still reach is collected while it runs. -/
def finalizationRegistryCtor : NativeFn := fun h _ args nt => do
  let some _ := nt | throwType "Constructor FinalizationRegistry requires 'new'"
  if !(<- isCallable (argAt args 0)) then throwType "FinalizationRegistry: cleanup must be callable"
  let proto <- h.protoFor nt (<- intrinsics).objectProto
  pure (.obj (<- alloc { proto := some proto }))

/-- `FinalizationRegistry.prototype.register(target, held, token)`. -/
def finalizationRegister : NativeFn := fun _ _ args _ => do
  match argAt args 0 with
  | .obj t =>
    match argAt args 1 with
    | .obj hd => if hd == t then
        throwType "FinalizationRegistry.prototype.register: target and holdings must not be same"
    | _ => pure ()
    pure .undefined
  | _ => throwType "FinalizationRegistry.prototype.register: invalid target"

/-- `FinalizationRegistry.prototype.unregister(token)`: nothing was registered under a token. -/
def finalizationUnregister : NativeFn := fun _ _ args _ => do
  match argAt args 0 with
  | .obj _ => pure (.bool false)
  | v => throwType ("Invalid unregisterToken ('" ++ v.primitiveText ++ "')")

/-- The next value of a built-in iterator object, or `none` once it has run out, after which
it stays finished. -/
def Host.advanceIterator (h : Host) (r : Nat) : Eval (Option Value) := do
  match (<- getObj r).kind with
  | .iterator items i tag =>
    match items[i]? with
    | some v =>
      modifyObj r fun o => { o with kind := .iterator items (i + 1) tag }
      pure (some v)
    | none => pure none
  | .walker source part i tag =>
    let finish : Eval (Option Value) := do
      modifyObj r fun o => { o with kind := .iterator #[] 0 tag }
      pure none
    let give (next : Nat) (k v : Value) : Eval (Option Value) := do
      modifyObj r fun o => { o with kind := .walker source part next tag }
      match part with
      | .keys => pure (some k)
      | .values => pure (some v)
      | .entries => pure (some (<- newArray #[k, v]))
    match (<- getObj source).kind with
    | .map es =>
      for j in [i:es.size] do
        if let some (some (k, v)) := es[j]? then return <- give (j + 1) k v
      finish
    | .set xs =>
      for j in [i:xs.size] do
        if let some (some x) := xs[j]? then return <- give (j + 1) x x
      finish
    | .array items =>
      match items[i]? with
      | some (some v) => give (i + 1) (.num i.toFloat) v
      | some none =>
        let v <- if part == .keys then pure .undefined else h.get (.obj source) (toString i)
        give (i + 1) (.num i.toFloat) v
      | none => finish
    | _ =>
      if i >= (<- h.lengthOf (.obj source)) then finish
      else
        let v <- if part == .keys then pure .undefined else h.get (.obj source) (toString i)
        give (i + 1) (.num i.toFloat) v
  | _ => throwType "next method called on incompatible receiver"

/-- The `next` method of iterators. -/
def iteratorNext : NativeFn := fun h this _ _ => do
  match this with
  | .obj r =>
    match <- h.advanceIterator r with
    | some v => iterResult v false
    | none => iterResult .undefined true
  | _ => throwType "next method called on incompatible receiver"

/-- An iterator's own iterator is itself. -/
def iteratorSelf : NativeFn := fun _ this _ _ => pure this

/-- `next`, `throw` and `return` of generators: each resumes the generator `this` refers to
in its own way, with the first argument. -/
def generatorResume (method : String) (how : Value → Resumption) : NativeFn :=
  fun h this args _ => do
    match this with
    | .obj r =>
      match (<- getObj r).kind with
      | .generator _ => h.resume r (how (argAt args 0))
      | _ => throwType (method ++ " method called on incompatible receiver " ++ (<- describeValue this))
    | _ => throwType (method ++ " method called on incompatible receiver " ++ (<- describeValue this))

end TranscriptTest.Js
