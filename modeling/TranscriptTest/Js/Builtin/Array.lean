import TranscriptTest.Js.Builtin.Object
import TranscriptTest.Sort.TimSort

/-!
# `Array`

The functions of `Array` and `Array.prototype`. Methods read the items of `this` once, as a
list with holes, and write a whole new list back when they change it. Methods that call a
function skip holes, as arrays do; `includes`, `join` and the like read a hole as `undefined`.
Sorting follows the engine's own steps (natural runs, binary insertion, merging), so that even a
comparison that is not consistent puts the items where the engine would.
-/

namespace TranscriptTest.Js

/-- The items of an array-like value, with holes. -/
def Host.itemsOf (h : Host) (v : Value) : Eval (Array (Option Value)) := do
  match v with
  | .obj r =>
    match (<- getObj r).kind with
    | .array items =>
      if items.all Option.isSome then pure items
      else
        -- a hole shows what the prototypes have at its index
        let mut out := items
        for i in [0:items.size] do
          if items[i]?.bind id |>.isNone then
            if <- hasProperty r (toString i) then out := out.set! i (some (<- h.get v (toString i)))
        pure out
    | .typedArray .. => pure (((<- typedItems? r).getD #[]).map some)
    | _ =>
      let n <- h.lengthOf v
      let mut out := #[]
      for i in List.range n do
        if <- hasProperty r (toString i) then out := out.push (some (<- h.get v (toString i)))
        else out := out.push none
      pure out
  | .str s => pure ((unitsOf s).map fun u => some (.str (ofUnits [u])))
  | .undefined => throwType "Array.prototype method called on null or undefined"
  | .null => throwType "Array.prototype method called on null or undefined"
  | _ => pure #[]

/-- Item `i` of an array-like value when a method reaches it: `none` when neither the object
nor its prototypes have that index. -/
def Host.elementAt? (h : Host) (v : Value) (i : Nat) : Eval (Option Value) := do
  match v with
  | .obj r =>
    let o <- getObj r
    match o.kind with
    | .array items =>
      match items[i]? with
      | some (some x) => pure (some x)
      | _ => if <- hasProperty r (toString i) then pure (some (<- h.get v (toString i))) else pure none
    | .typedArray _ _ _ length => if i < length then pure (some (<- h.get v (toString i))) else pure none
    | _ => if <- hasProperty r (toString i) then pure (some (<- h.get v (toString i))) else pure none
  | .str s => pure (if i < unitLength s then some (.str (unitSlice s i (i + 1))) else none)
  | _ => pure none

/-- The length of the array-like value `this` of a method; `null` and `undefined` are refused. -/
def Host.lengthFor (h : Host) (this : Value) (name : String) : Eval Nat := do
  if this.isNullish then throwType ("Array.prototype." ++ name ++ " called on null or undefined")
  h.lengthOf this

/-- The array `this` refers to, for methods that change it. -/
def arrayOfThis (this : Value) (name : String) : Eval (Nat × Array (Option Value)) := do
  match this with
  | .obj r =>
    match (<- getObj r).kind with
    | .array items => pure (r, items)
    | _ => throwType ("Array.prototype." ++ name ++ " called on an object that is not an array")
  | _ => throwType ("Array.prototype." ++ name ++ " called on null or undefined")

/-- Replaces the items of an array. -/
def setItems (r : Nat) (items : Array (Option Value)) : Eval Unit :=
  modifyObj r fun o => { o with kind := .array items }

/-- A new array with holes. -/
def newArrayWithHoles (items : Array (Option Value)) : Eval Value := do
  let ref <- alloc { kind := .array items, proto := some (<- intrinsics).arrayProto }
  pure (.obj ref)

/-- `Array(…)`: one number is a length, anything else lists the items. -/
def arrayCtor : NativeFn := fun h _ args nt => do
  let made <- match args with
    | [.num n] =>
      if n < 0 || n != n.floor || n > maxArrayLength.toFloat || n.isNaN then
        raiseError .rangeError "Invalid array length"
      else newArrayWithHoles (Array.replicate (integerPart n) none)
    | _ => newArray args.toArray
  h.withProtoOf nt made

/-- `get [Symbol.species]` of the constructors whose methods make objects of their kind: the
constructor itself, so a subclass's methods make the subclass. -/
def speciesGetter : NativeFn := fun _ this _ _ => pure this

/-- Whether a value is the `Array` constructor, or nothing: a copy made by it is a plain array. -/
def isPlainArrayMaker (c : Value) : Eval Bool := do
  match c with
  | .undefined => pure true
  | .obj r => pure (r == (<- intrinsics).arrayCtor)
  | _ => pure false

/-- Gives an object made by a constructor the items of a new array, with its `length`. -/
def Host.fillMade (h : Host) (made : Value) (items : Array (Option Value)) : Eval Value := do
  match made with
  | .obj r =>
    match (<- getObj r).kind with
    | .array _ => setItems r items
    | _ =>
      for (item, i) in items.toList.zipIdx do
        match item with
        | some v => h.put made (toString i) v
        | none => pure ()
      h.put made "length" (.num items.size.toFloat)
  | _ => pure ()
  pure made

/-- The constructor that the arrays a method copies from `this` come from: `this.constructor`
and its `Symbol.species`, when `this` is an array. -/
def Host.speciesOf (h : Host) (this : Value) : Eval Value := do
  match this with
  | .obj r =>
    match (<- getObj r).kind with
    | .array _ =>
      let c <- h.get this "constructor"
      let c <- match c with
        | .obj _ => match <- h.get c (wellKnownKey "species") with
          | .null => pure .undefined
          | s => pure s
        | _ => pure c
      if (<- isPlainArrayMaker c) || (<- isConstructor c) then pure c
      else throwType "object.constructor[Symbol.species] is not a constructor"
    | _ => pure .undefined
  | _ => pure .undefined

/-- Starts the array a method makes from `this`, of the given length: `none` for a plain array,
or the object the species constructor made. -/
def Host.speciesCreate (h : Host) (this : Value) (len : Nat) : Eval (Option Value) := do
  let c <- h.speciesOf this
  if <- isPlainArrayMaker c then pure none
  else pure (some (<- h.construct c [.num len.toFloat]))

/-- The array a method makes from `this`, holding the given items. -/
def Host.speciesResult (h : Host) (made : Option Value) (items : Array (Option Value)) :
    Eval Value := do
  match made with
  | none => newArrayWithHoles items
  | some m => h.fillMade m items

/-- `Array.isArray`. -/
def arrayIsArray : NativeFn := fun _ _ args _ => do
  match argAt args 0 with
  | .obj r => match (<- getObj (<- proxyTarget proxyChain r)).kind with
    | .array _ => pure (.bool true)
    | _ => pure (.bool false)
  | _ => pure (.bool false)

/-- The array `Array.of` or `Array.from` makes: a plain one, or, called on another constructor,
an object that constructor makes (given the length when `withLength`). -/
def Host.madeBy (h : Host) (this : Value) (items : Array (Option Value)) (withLength : Bool) :
    Eval Value := do
  if (<- isPlainArrayMaker this) || !(<- isConstructor this) then newArrayWithHoles items
  else
    let made <- h.construct this (if withLength then [.num items.size.toFloat] else [])
    h.fillMade made items

/-- `Array.of`. -/
def arrayOf : NativeFn := fun h this args _ => h.madeBy this (args.map some).toArray true

/-- `Array.from`: the values of an iterable or an array-like object, mapped if asked. -/
def arrayFrom : NativeFn := fun h this args _ => do
  let src := argAt args 0
  let (values, arrayLike) <- match src with
    | .undefined => throwType "undefined is not iterable (cannot read property Symbol(Symbol.iterator))"
    | .null => throwType "object null is not iterable (cannot read property Symbol(Symbol.iterator))"
    | .obj r => match (<- getObj r).kind with
      | .plain => pure ((<- h.itemsOf src).map fun x => x.getD .undefined, true)
      | _ => pure (<- h.iterate src, false)
    | _ => pure (<- h.iterate src, false)
  match argAt args 1 with
  | .undefined => h.madeBy this (values.map some) arrayLike
  | f =>
    requireCallable f (<- describeValue f)
    let mut out := #[]
    for (v, i) in values.toList.zipIdx do
      out := out.push (some (<- h.call f .undefined [v, .num i.toFloat]))
    h.madeBy this out arrayLike

/-- The error of adding an item to an array that takes no new properties. -/
def notExtensible {α : Type} (index : Nat) : Eval α :=
  throwType ("Cannot add property " ++ toString index ++ ", object is not extensible")

/-- The error of removing an item an array holds on to. -/
def cannotDelete {α : Type} (index : Nat) : Eval α :=
  throwType ("Cannot delete property '" ++ toString index ++ "' of [object Array]")

/-- The error of changing an item of a frozen array. -/
def readOnlyItem {α : Type} (index : Nat) : Eval α :=
  throwType ("Cannot assign to read only property '" ++ toString index ++ "' of object '[object Array]'")

/-- Fails unless the items of an array may be rewritten in place. -/
def requireWritableItems (r : Nat) (items : Array (Option Value)) : Eval Unit := do
  let o <- getObj r
  if o.frozenItems && items.size > 0 then readOnlyItem 0

/-- The array `this` refers to; `none` for another object, or an array with a read-only `length`
or elements as properties, which a changing method treats through its properties. -/
def arrayOrObject? (this : Value) (name : String) : Eval (Option (Nat × Array (Option Value))) := do
  match this with
  | .obj r =>
    let o <- getObj r
    match o.kind with
    | .array items =>
      if o.fixedLength || o.props.any (fun (k, _) => (arrayIndex? k).isSome) then pure none
      else pure (some (r, items))
    | _ => pure none
  | _ => throwType ("Array.prototype." ++ name ++ " called on an object that is not an array")

/-- Removes element `i` of an array-like object; one that cannot be removed is a type error. -/
def removeItem (r i : Nat) : Eval Unit := do
  if !(<- deleteProperty r (toString i)) then cannotDelete i

/-- Moves property `src` of an array-like object to `dst`, removing `dst` when there is no
`src`. -/
def Host.moveItem (h : Host) (this : Value) (r src dst : Nat) : Eval Unit := do
  if <- hasProperty r (toString src) then h.assign this (toString dst) (<- h.get this (toString src))
  else removeItem r dst

/-- Sets `length` of an array-like object, giving the new length. -/
def Host.putLength (h : Host) (this : Value) (n : Nat) : Eval Value := do
  h.assign this "length" (.num n.toFloat)
  pure (.num n.toFloat)

/-- Fails when an array's `length` is read-only. -/
def requireWritableLength (this : Value) : Eval Unit := do
  if let .obj r := this then
    if (← getObj r).fixedLength then
      throwType "Cannot assign to read only property 'length' of object '[object Array]'"

/-- `push`. -/
def arrayPush : NativeFn := fun h this args _ => do
  match <- arrayOrObject? this "push" with
  | some (r, items) =>
    if !args.isEmpty && !(<- getObj r).extensible then notExtensible items.size
    let items := args.foldl (fun a v => a.push (some v)) items
    setItems r items
    pure (.num items.size.toFloat)
  | none =>
    requireWritableLength this
    let len <- h.lengthOf this
    for (a, i) in args.zipIdx do
      h.assign this (toString (len + i)) a
    h.putLength this (len + args.length)

/-- `pop`. -/
def arrayPop : NativeFn := fun h this _ _ => do
  match <- arrayOrObject? this "pop" with
  | some (r, items) =>
    match items.back? with
    | some last =>
      if (<- getObj r).sealedItems then cannotDelete (items.size - 1)
      setItems r items.pop
      pure (last.getD .undefined)
    | none => pure .undefined
  | none =>
    let .obj r := this | pure .undefined
    let len <- h.lengthOf this
    if len == 0 then
      let _ <- h.putLength this 0
      return .undefined
    let last <- h.get this (toString (len - 1))
    removeItem r (len - 1)
    let _ <- h.putLength this (len - 1)
    pure last

/-- `shift`. -/
def arrayShift : NativeFn := fun h this _ _ => do
  match <- arrayOrObject? this "shift" with
  | some (r, items) =>
    match items[0]? with
    | some first =>
      let o <- getObj r
      if o.frozenItems && items.size > 1 then readOnlyItem 0
      if o.sealedItems then cannotDelete (items.size - 1)
      setItems r (items.extract 1 items.size)
      pure (first.getD .undefined)
    | none => pure .undefined
  | none =>
    let .obj r := this | pure .undefined
    let len <- h.lengthOf this
    if len == 0 then
      let _ <- h.putLength this 0
      return .undefined
    let first <- h.get this "0"
    for k in [1:len] do
      h.moveItem this r k (k - 1)
    removeItem r (len - 1)
    let _ <- h.putLength this (len - 1)
    pure first

/-- `unshift`. -/
def arrayUnshift : NativeFn := fun h this args _ => do
  match <- arrayOrObject? this "unshift" with
  | some (r, items) =>
    if !args.isEmpty && !(<- getObj r).extensible then notExtensible (items.size + args.length - 1)
    let items := (args.map some).toArray ++ items
    setItems r items
    pure (.num items.size.toFloat)
  | none =>
    let .obj r := this | pure .undefined
    if !args.isEmpty then requireWritableLength this
    let len <- h.lengthOf this
    for k in [0:len] do
      h.moveItem this r (len - 1 - k) (len - 1 - k + args.length)
    for (a, i) in args.zipIdx do
      h.assign this (toString i) a
    h.putLength this (len + args.length)

/-- `slice`. -/
def arraySlice : NativeFn := fun h this args _ => do
  let items <- h.itemsOf this
  let start <- h.indexArg (argAt args 0) items.size 0
  let stop <- h.indexArg (argAt args 1) items.size items.size
  let made <- h.speciesCreate this (max start stop - start)
  h.speciesResult made (items.extract start (max start stop))

/-- `splice`: removes and inserts items, returning those removed. -/
def arraySplice : NativeFn := fun h this args _ => do
  let (r, items) <- arrayOfThis this "splice"
  let start <- h.indexArg (argAt args 0) items.size 0
  let count <- match args with
    | [] => pure 0
    | [_] => pure (items.size - start)
    | _ :: c :: _ =>
      let n <- h.toInteger c
      pure (if n <= 0 then 0 else min (integerPart n) (items.size - start))
  let removed := items.extract start (start + count)
  let made <- h.speciesCreate this count
  let inserted := ((args.drop 2).map some).toArray
  setItems r (items.extract 0 start ++ inserted ++ items.extract (start + count) items.size)
  h.speciesResult made removed

/-- `concat`: arrays are spread, other values added as they are. -/
def arrayConcat : NativeFn := fun h this args _ => do
  let first := Value.obj (<- toObject this)
  let made <- h.speciesCreate first 0
  let mut out : Array (Option Value) := #[]
  for a in first :: args do
    match a with
    | .obj r =>
      -- `Symbol.isConcatSpreadable` decides, and without it whether the value is an array
      let spreadable <- match <- h.get a (wellKnownKey "isConcatSpreadable") with
        | .undefined => pure (match (← getObj r).kind with
          | .array _ => true
          | _ => false)
        | v => pure v.truthy
      if spreadable then out := out ++ (<- h.itemsOf a)
      else out := out.push (some a)
    | _ => out := out.push (some a)
  h.speciesResult made out

/-- Joins items with a separator; holes, `undefined` and `null` are empty. -/
def Host.joinItems (h : Host) (items : Array (Option Value)) (sep : String) : Eval String := do
  let mut parts : Array String := #[]
  for x in items do
    match x with
    | some .undefined => parts := parts.push ""
    | some .null => parts := parts.push ""
    | some v => parts := parts.push (<- h.toStr v)
    | none => parts := parts.push ""
  pure (settle (sep.intercalate parts.toList))

/-- `join`. -/
def arrayJoin : NativeFn := fun h this args _ => do
  let items <- h.itemsOf this
  let sep <- match argAt args 0 with
    | .undefined => pure ","
    | v => h.toStr v
  pure (.str (<- h.joinItems items sep))

/-- `toString`: the items joined with commas. -/
def arrayToString : NativeFn := fun h this _ _ => do
  match this with
  | .obj r => match (<- getObj r).kind with
    | .array items => pure (.str (<- h.joinItems items ","))
    | .typedArray .. => pure (.str (<- h.joinItems (<- h.itemsOf this) ","))
    | _ => objectProtoToString h this [] none
  | _ => objectProtoToString h this [] none

/-- `reverse`; another object is reversed through its properties, pair by pair from the ends. -/
def arrayReverse : NativeFn := fun h this _ _ => do
  match <- arrayOrObject? this "reverse" with
  | some (r, items) =>
    if items.size > 1 then requireWritableItems r items
    setItems r items.reverse
  | none =>
    let .obj r := this | return this
    let len <- h.lengthOf this
    for lower in [0:len / 2] do
      let upper := len - 1 - lower
      let low <- h.elementAt? this lower
      let high <- h.elementAt? this upper
      match low, high with
      | some a, some b =>
        h.assign this (toString lower) b
        h.assign this (toString upper) a
      | none, some b =>
        h.assign this (toString lower) b
        removeItem r upper
      | some a, none =>
        removeItem r lower
        h.assign this (toString upper) a
      | none, none => pure ()
  pure this

/-- The index from which a search starts. -/
def Host.fromIndex (h : Host) (v : Value) (len : Nat) : Eval Nat :=
  h.indexArg v len 0

/-- `indexOf`: the first item `===` to the value, skipping holes; items are read one at a
time, up to the first that matches. -/
def arrayIndexOf : NativeFn := fun h this args _ => do
  let len <- h.lengthFor this "indexOf"
  let start <- h.fromIndex (argAt args 1) len
  let x := argAt args 0
  for i in [start:len] do
    if let some v ← h.elementAt? this i then
      if strictEquals v x then return .num i.toFloat
  pure (.num (-1))

/-- `lastIndexOf`. -/
def arrayLastIndexOf : NativeFn := fun h this args _ => do
  let len <- h.lengthFor this "lastIndexOf"
  let x := argAt args 0
  let limit <- match argAt args 1 with
    | .undefined => pure len
    | v => do
      let n <- h.toInteger v
      pure (if n < 0 then len - min len (integerPart (-n)) + 1 else integerPart n + 1)
  let top := min limit len
  for k in [0:top] do
    let i := top - 1 - k
    if let some v ← h.elementAt? this i then
      if strictEquals v x then return .num i.toFloat
  pure (.num (-1))

/-- `includes`: like `indexOf`, but NaN is found and holes are `undefined`. -/
def arrayIncludes : NativeFn := fun h this args _ => do
  let len <- h.lengthFor this "includes"
  let start <- h.fromIndex (argAt args 1) len
  let x := argAt args 0
  for i in [start:len] do
    if sameValueZero ((<- h.elementAt? this i).getD .undefined) x then return .bool true
  pure (.bool false)

/-- Requires the callback argument of an iterating method. -/
def callbackArg (args : List Value) : Eval Value := do
  let f := argAt args 0
  requireCallable f (<- describeValue f)
  pure f

/-- Calls a callback on each item but holes, with the item, its index and the array; items are
read when reached, so earlier calls' changes show. -/
def Host.eachItem (h : Host) (this : Value) (args : List Value) (name : String)
    (step : Nat → Value → Value → Eval Bool) : Eval Unit := do
  let len <- h.lengthFor this name
  let f <- callbackArg args
  for i in [0:len] do
    if let some v ← h.elementAt? this i then
      let r <- h.call f (argAt args 1) [v, .num i.toFloat, this]
      if !(<- step i v r) then return

/-- `forEach`. -/
def arrayForEach : NativeFn := fun h this args _ => do
  h.eachItem this args "forEach" fun _ _ _ => pure true
  pure .undefined

/-- `map`: holes stay holes. -/
def arrayMap : NativeFn := fun h this args _ => do
  let len <- h.lengthFor this "map"
  let f <- callbackArg args
  let made <- h.speciesCreate this len
  let mut result : Array (Option Value) := Array.replicate len none
  for i in [0:len] do
    if let some v ← h.elementAt? this i then
      result := result.set! i (some (<- h.call f (argAt args 1) [v, .num i.toFloat, this]))
  h.speciesResult made result

/-- `filter`. -/
def arrayFilter : NativeFn := fun h this args _ => do
  let len <- h.lengthFor this "filter"
  let f <- callbackArg args
  let made <- h.speciesCreate this 0
  let mut kept : Array (Option Value) := #[]
  for i in [0:len] do
    if let some v ← h.elementAt? this i then
      if (<- h.call f (argAt args 1) [v, .num i.toFloat, this]).truthy then kept := kept.push (some v)
  h.speciesResult made kept

/-- `some`. -/
def arraySome : NativeFn := fun h this args _ => do
  let len <- h.lengthFor this "some"
  let f <- callbackArg args
  for i in [0:len] do
    if let some v ← h.elementAt? this i then
      if (<- h.call f (argAt args 1) [v, .num i.toFloat, this]).truthy then return .bool true
  pure (.bool false)

/-- `every`. -/
def arrayEvery : NativeFn := fun h this args _ => do
  let len <- h.lengthFor this "every"
  let f <- callbackArg args
  for i in [0:len] do
    if let some v ← h.elementAt? this i then
      if !(<- h.call f (argAt args 1) [v, .num i.toFloat, this]).truthy then return .bool false
  pure (.bool true)

/-- The first index (or last, when `backward`) whose item the callback accepts; holes count as
`undefined`. -/
def Host.findIndex (h : Host) (this : Value) (args : List Value) (backward : Bool) :
    Eval (Option (Nat × Value)) := do
  let len <- h.lengthFor this (if backward then "findLast" else "find")
  let f <- callbackArg args
  for k in [0:len] do
    let i := if backward then len - 1 - k else k
    let v := (<- h.elementAt? this i).getD .undefined
    if (<- h.call f (argAt args 1) [v, .num i.toFloat, this]).truthy then return some (i, v)
  pure none

/-- `find`. -/
def arrayFind : NativeFn := fun h this args _ => do
  pure ((<- h.findIndex this args false).map (·.2) |>.getD .undefined)

/-- `findIndex`. -/
def arrayFindIndex : NativeFn := fun h this args _ => do
  pure (.num ((<- h.findIndex this args false).map (·.1.toFloat) |>.getD (-1)))

/-- `findLast`. -/
def arrayFindLast : NativeFn := fun h this args _ => do
  pure ((<- h.findIndex this args true).map (·.2) |>.getD .undefined)

/-- `findLastIndex`. -/
def arrayFindLastIndex : NativeFn := fun h this args _ => do
  pure (.num ((<- h.findIndex this args true).map (·.1.toFloat) |>.getD (-1)))

/-- `reduce` and `reduceRight`: without a starting value, the first item present starts. -/
def Host.reduceItems (h : Host) (this : Value) (args : List Value) (backward : Bool) : Eval Value := do
  let len <- h.lengthFor this (if backward then "reduceRight" else "reduce")
  let f <- callbackArg args
  let place (k : Nat) : Nat := if backward then len - 1 - k else k
  let mut acc : Option Value := match args with
    | _ :: init :: _ => some init
    | _ => none
  for k in [0:len] do
    if let some v ← h.elementAt? this (place k) then
      match acc with
      | some a => acc := some (<- h.call f .undefined [a, v, .num (place k).toFloat, this])
      | none => acc := some v
  match acc with
  | some a => pure a
  | none => throwType "Reduce of empty array with no initial value"

/-- `reduce`. -/
def arrayReduce : NativeFn := fun h this args _ => h.reduceItems this args false

/-- `reduceRight`. -/
def arrayReduceRight : NativeFn := fun h this args _ => h.reduceItems this args true

/-- Compares texts by UTF-16 units. -/
def unitsLess (a b : String) : Bool :=
  let rec go : List Nat -> List Nat -> Bool
    | [], [] => false
    | [], _ :: _ => true
    | _ :: _, [] => false
    | x :: xs, y :: ys => if x < y then true else if y < x then false else go xs ys
  go (unitList a) (unitList b)

/-- The comparison of `sort` and `toSorted`: the script's function, a result below zero putting
its first argument first, else the items' texts by UTF-16 units. -/
def Host.sortOrder (h : Host) (cmp : Value) : Value → Value → Eval Bool :=
  match cmp with
  | .undefined => fun a b => do
    let sa <- h.toStr a
    let sb <- h.toStr b
    pure (unitsLess sa sb)
  | f => fun a b => do
    let c <- h.toNum (<- h.call f .undefined [a, b])
    pure (c < 0)

/-- Requires a comparison that is a function or `undefined`. -/
def requireComparison (cmp : Value) (name : String) : Eval Unit := do
  match cmp with
  | .undefined => pure ()
  | f =>
    let callable <- match f with
      | .obj r => pure (<- getObj r).isCallable
      | _ => pure false
    if !callable then
      let shown <- describeValue f
      throwType (if name == "sort" then "The comparison function must be either a function or undefined"
        else "The comparison function must be either a function or undefined: " ++ shown)

/-- `sort`: `undefined` goes last, then holes; the rest by the comparison or by their text. -/
def arraySort : NativeFn := fun h this args _ => do
  let cmp := argAt args 0
  requireComparison cmp "sort"
  let target <- arrayOrObject? this "sort"
  let items <- match target with
    | some (_, items) => pure items
    | none => h.itemsOf this
  let present := items.toList.filterMap id
  let defined := present.filter fun v => match v with
    | .undefined => false
    | _ => true
  let undefCount := present.length - defined.length
  let holes := items.size - present.length
  if let some (r, _) := target then
    if (<- getObj r).frozenItems && items.size > 0 then readOnlyItem 0
  let sorted <- Sort.timSort (h.sortOrder cmp) defined.toArray
  let out := (sorted.toList.map some).toArray ++ Array.replicate undefCount (some .undefined) ++
    Array.replicate holes none
  match target, this with
  | some (r, _), _ => setItems r out
  | none, .obj r =>
    for i in [0:out.size] do
      match out[i]? with
      | some (some v) => h.assign this (toString i) v
      | _ => removeItem r i
  | none, _ => pure ()
  pure this

/-- `toSorted`: a sorted copy, holes read as `undefined`. -/
def arrayToSorted : NativeFn := fun h this args _ => do
  let cmp := argAt args 0
  requireComparison cmp "toSorted"
  let items <- h.itemsOf this
  let values := items.toList.map (·.getD .undefined)
  let defined := values.filter fun v => match v with
    | .undefined => false
    | _ => true
  let sorted <- Sort.timSort (h.sortOrder cmp) defined.toArray
  newArray (sorted ++ Array.replicate (values.length - defined.length) .undefined)

/-- `toReversed`. -/
def arrayToReversed : NativeFn := fun h this _ _ => do
  let items <- h.itemsOf this
  newArray (items.reverse.map (·.getD .undefined))

/-- `with`: a copy with one item replaced; the index may count from the end. -/
def arrayWith : NativeFn := fun h this args _ => do
  let items <- h.itemsOf this
  let n <- h.toInteger (argAt args 0)
  let len := items.size.toFloat
  let i := if n < 0 then len + n else n
  if i < 0 || i >= len then raiseError .rangeError ("Invalid index : " ++ numberText n)
  let k := integerPart i
  newArray ((items.map (·.getD .undefined)).set! k (argAt args 1))

/-- `toSpliced`: a copy with items removed and inserted, as `splice` would. -/
def arrayToSpliced : NativeFn := fun h this args _ => do
  let items := (<- h.itemsOf this).map (·.getD .undefined)
  let start <- h.indexArg (argAt args 0) items.size 0
  let count <- match args with
    | [] => pure 0
    | [_] => pure (items.size - start)
    | _ :: c :: _ =>
      let n <- h.toInteger c
      pure (if n <= 0 then 0 else min (integerPart n) (items.size - start))
  newArray (items.extract 0 start ++ (args.drop 2).toArray ++ items.extract (start + count) items.size)

/-- `copyWithin`: copies the items from `start` to `end` over those from `target`. -/
def arrayCopyWithin : NativeFn := fun h this args _ => do
  let (r, items) <- arrayOfThis this "copyWithin"
  let len := items.size
  let target <- h.indexArg (argAt args 0) len 0
  let start <- h.indexArg (argAt args 1) len 0
  let stop <- h.indexArg (argAt args 2) len len
  let count := min (stop - start) (len - target)
  if count > 0 then requireWritableItems r items
  let mut out := items
  for k in List.range count do
    out := out.set! (target + k) (items.getD (start + k) none)
  setItems r out
  pure this

/-- `fill`. -/
def arrayFill : NativeFn := fun h this args _ => do
  let (r, items) <- arrayOfThis this "fill"
  let start <- h.indexArg (argAt args 1) items.size 0
  let stop <- h.indexArg (argAt args 2) items.size items.size
  let v := argAt args 0
  setItems r (items.mapIdx fun i x => if start <= i && i < stop then some v else x)
  pure this

/-- Flattens items to a depth. -/
def flattenItems (depth : Nat) (items : List (Option Value)) : Eval (Array Value) := do
  match depth with
  | 0 => pure (items.filterMap id).toArray
  | d + 1 =>
    let mut out := #[]
    for x in items do
      match x with
      | some (.obj r) =>
        match (<- getObj r).kind with
        | .array inner => out := out ++ (<- flattenItems d inner.toList)
        | _ => out := out.push (.obj r)
      | some v => out := out.push v
      | none => pure ()
    pure out

/-- `flat`. -/
def arrayFlat : NativeFn := fun h this args _ => do
  let items <- h.itemsOf this
  let depth <- match argAt args 0 with
    | .undefined => pure 1
    | v => do
      let n <- h.toInteger v
      pure (if n <= 0 then 0 else min (integerPart n) 1000)
  let made <- h.speciesCreate this 0
  h.speciesResult made ((<- flattenItems depth items.toList).map some)

/-- `flatMap`. -/
def arrayFlatMap : NativeFn := fun h this args _ => do
  let items <- h.itemsOf this
  let f <- callbackArg args
  let made <- h.speciesCreate this 0
  let mut mapped : Array (Option Value) := #[]
  for i in List.range items.size do
    match items[i]? with
    | some (some v) => mapped := mapped.push (some (<- h.call f (argAt args 1) [v, .num i.toFloat, this]))
    | _ => pure ()
  h.speciesResult made ((<- flattenItems 1 mapped.toList).map some)

/-- `at`. -/
def arrayAt : NativeFn := fun h this args _ => do
  let items <- h.itemsOf this
  let n <- h.toInteger (argAt args 0)
  let i : Int := if n < 0 then items.size - Int.ofNat (integerPart (-n)) else Int.ofNat (integerPart n)
  if i < 0 || i >= items.size then pure .undefined
  else pure ((items[i.toNat]?.bind id).getD .undefined)

/-- `keys`. -/
def arrayKeys : NativeFn := fun _ this _ _ => do
  newWalker (<- toObject this) .keys "Array Iterator"

/-- `values`. -/
def arrayValues : NativeFn := fun _ this _ _ => do
  newWalker (<- toObject this) .values "Array Iterator"

/-- `entries`. -/
def arrayEntries : NativeFn := fun _ this _ _ => do
  newWalker (<- toObject this) .entries "Array Iterator"

end TranscriptTest.Js
