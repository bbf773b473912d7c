import TranscriptTest.Js.Builtin.RegExp
import TranscriptTest.Js.Builtin.Uri
import TranscriptTest.Js.Builtin.Reflect
import TranscriptTest.Js.Builtin.Number
import TranscriptTest.Js.Builtin.Json
import TranscriptTest.Js.Builtin.Date
import TranscriptTest.Js.Builtin.Collection
import TranscriptTest.Js.Builtin.Symbol
import TranscriptTest.Js.Builtin.TypedArray
import TranscriptTest.Js.Builtin.Process
import TranscriptTest.Js.Builtin.Promise
import TranscriptTest.Js.Builtin.Proxy
import TranscriptTest.Js.Builtin.DataView
import TranscriptTest.Js.Builtin.SetAlgebra
import TranscriptTest.Js.Builtin.Intl
import TranscriptTest.Js.Inspect

/-!
# The global environment

Every built-in function is listed once, with the object it belongs to, its name and its
`length`. Its place in the list is its identity: a built-in function object records that
index, and calling it runs the function at that index. A new realm is built from the list: the
prototypes first, then the global object with the constructors and the objects `Math`, `JSON`
and `console`, then every function on its holder.
-/

namespace TranscriptTest.Js

/-- A built-in function: where it is defined, its name and `length`, what it does, and for
constructors the prototype object it owns. -/
structure NativeSpec where
  holder : String
  name : String
  length : Nat
  fn : NativeFn
  ctor : Option String := none
  getter : Bool := false
  setter : Bool := false
  enumerable : Bool := false
  /-- The property key it is defined under, when that is not its name: a symbol's key. -/
  key : Option String := none

/-- The text a printed value shows: strings as they are, other values by their text, or their
inspection when that fails. -/
def render (h : Host) (v : Value) : Eval String := do
  match v with
  | .str s => pure s
  | _ => tryCatch (h.toStr v) fun a => match a with
    | .thrown _ => inspectValue v
    | other => throw other

/-- `print` and the `console` methods. -/
def printArgs : NativeFn := fun h _ args _ => do
  let parts <- args.mapM (render h)
  printLine (" ".intercalate parts)
  pure .undefined

/-- A method. -/
def method (holder name : String) (length : Nat) (fn : NativeFn) : NativeSpec :=
  { holder, name, length, fn }

/-- Methods of one holder, each with its name, `length` and function. -/
def methods (holder : String) (specs : List (String × Nat × NativeFn)) : List NativeSpec :=
  specs.map fun (name, length, fn) => method holder name length fn

/-- A constructor on the global object owning a prototype. -/
def ctorSpec (name : String) (length : Nat) (fn : NativeFn) : NativeSpec :=
  { holder := "global", name, length, fn, ctor := some (name ++ ".prototype") }

/-- A getter. -/
def getterSpec (holder name : String) (fn : NativeFn) : NativeSpec :=
  { holder, name, length := 0, fn, getter := true }

/-- A setter. -/
def setterSpec (holder name : String) (fn : NativeFn) : NativeSpec :=
  { holder, name, length := 1, fn, setter := true }

/-- A method under a well-known symbol, named `[Symbol.name]`. -/
def symbolMethod (holder symbol : String) (length : Nat) (fn : NativeFn) : NativeSpec :=
  { holder, name := "[Symbol." ++ symbol ++ "]", length, fn, key := some (wellKnownKey symbol) }

/-- The functions of buffers and typed arrays. -/
def typedArraySpecs : List NativeSpec :=
  [ctorSpec "ArrayBuffer" 1 arrayBufferCtor,
   { holder := "hidden", name := "TypedArray", length := 0, fn := typedArrayAbstractCtor,
     ctor := some "TypedArray.prototype" }] ++
  ElementKind.all.map (fun kind => ctorSpec kind.name 3 (typedArrayCtor kind)) ++
  [method "ArrayBuffer" "isView" 1 arrayBufferIsView,
   getterSpec "ArrayBuffer.prototype" "byteLength" arrayBufferByteLength,
   method "ArrayBuffer.prototype" "slice" 2 arrayBufferSlice,
   method "TypedArray" "from" 1 typedArrayFrom,
   method "TypedArray" "of" 0 typedArrayOf,
   getterSpec "TypedArray.prototype" "buffer" typedBuffer,
   getterSpec "TypedArray.prototype" "byteLength" typedByteLength,
   getterSpec "TypedArray.prototype" "byteOffset" typedByteOffset,
   getterSpec "TypedArray.prototype" "length" typedLength,
   { getterSpec "TypedArray.prototype" "[Symbol.toStringTag]" typedToStringTag with
     key := some (wellKnownKey "toStringTag") }] ++
   methods "TypedArray.prototype" [("at", 1, arrayAt), ("copyWithin", 2, typedCopyWithin),
     ("entries", 0, arrayEntries), ("every", 1, arrayEvery), ("fill", 1, typedFill),
     ("filter", 1, typedFilter), ("find", 1, arrayFind), ("findIndex", 1, arrayFindIndex),
     ("findLast", 1, arrayFindLast), ("findLastIndex", 1, arrayFindLastIndex),
     ("forEach", 1, arrayForEach), ("includes", 1, arrayIncludes), ("indexOf", 1, arrayIndexOf),
     ("join", 1, arrayJoin), ("keys", 0, arrayKeys), ("lastIndexOf", 1, arrayLastIndexOf),
     ("map", 1, typedMap), ("reduce", 1, arrayReduce), ("reduceRight", 1, arrayReduceRight),
     ("reverse", 0, typedReverse), ("set", 1, typedSet), ("slice", 2, typedSlice),
     ("some", 1, arraySome), ("sort", 1, typedSort), ("subarray", 2, typedSubarray),
     ("toReversed", 0, typedToReversed), ("toSorted", 1, typedToSorted), ("values", 0, arrayValues),
     ("with", 2, typedWith), ("toString", 0, arrayToString)] ++ [
   method "TypedArray.prototype" "toLocaleString" 0 arrayToLocaleString]

/-- The functions only a standalone script has: `require`, and what `process`, the line reader
module and the `util` module hold. -/
def standaloneSpecs : List NativeSpec :=
  [method "standalone" "require" 1 requireModule,
   method "process" "exit" 1 processExit,
   method "process.stdout" "write" 1 stdoutWrite,
   method "process.stderr" "write" 1 stderrWrite] ++
   methods "process.stdin" [("on", 2, addListener), ("setEncoding", 1, keepSelf),
     ("resume", 0, keepSelf)] ++ [
   method "readline" "createInterface" 1 createLineReader,
   method "util" "inspect" 2 utilInspect,
   method "util" "format" 0 utilFormat,
   method "LineReader.prototype" "on" 2 addListener,
   method "LineReader.prototype" "close" 0 closeLineReader,
   method "standalone.console" "log" 0 consoleLog,
   method "standalone.console" "info" 0 consoleLog,
   method "standalone.console" "debug" 0 consoleLog]

/-- Every built-in function, in a fixed order. -/
def librarySpecs : List NativeSpec := typedArraySpecs ++ standaloneSpecs ++ [
  ctorSpec "Object" 1 objectCtor,
  ctorSpec "Function" 1 functionCtor,
  ctorSpec "Array" 1 arrayCtor,
  ctorSpec "String" 1 stringCtor,
  ctorSpec "Number" 1 numberCtor,
  ctorSpec "Boolean" 1 booleanCtor,
  ctorSpec "Error" 1 (errorCtor .error),
  ctorSpec "TypeError" 1 (errorCtor .typeError),
  ctorSpec "RangeError" 1 (errorCtor .rangeError),
  ctorSpec "ReferenceError" 1 (errorCtor .referenceError),
  ctorSpec "SyntaxError" 1 (errorCtor .syntaxError),
  ctorSpec "EvalError" 1 (errorCtor .evalError),
  ctorSpec "URIError" 1 (errorCtor .uriError),
  ctorSpec "AggregateError" 2 aggregateErrorCtor,
  ctorSpec "Promise" 1 promiseCtor] ++
  methods "Promise.prototype" [("then", 2, promiseThen), ("catch", 1, promiseCatch),
    ("finally", 1, promiseFinally)] ++
  methods "Promise" [("resolve", 1, promiseResolve), ("reject", 1, promiseReject),
    ("all", 1, promiseAll), ("allSettled", 1, promiseAllSettled), ("race", 1, promiseRace),
    ("any", 1, promiseAny), ("withResolvers", 0, promiseWithResolvers)] ++ [
  method "internal" "resolve" 1 promiseResolveFunction,
  method "internal" "reject" 1 promiseRejectFunction,
  ctorSpec "Date" 7 dateCtor,
  ctorSpec "Map" 0 mapCtor,
  ctorSpec "Set" 0 setCtor,
  ctorSpec "WeakMap" 0 weakMapCtor,
  ctorSpec "WeakSet" 0 weakSetCtor,
  ctorSpec "WeakRef" 1 weakRefCtor,
  ctorSpec "DataView" 1 dataViewCtor,
  getterSpec "DataView.prototype" "buffer" dataViewBuffer,
  getterSpec "DataView.prototype" "byteLength" dataViewByteLength,
  getterSpec "DataView.prototype" "byteOffset" dataViewByteOffset] ++
  viewKinds.flatMap (fun (name, kind) =>
    [method "DataView.prototype" ("get" ++ name) 1 (dataViewGet name kind),
     method "DataView.prototype" ("set" ++ name) 2 (dataViewSet name kind)]) ++ [
  ctorSpec "Proxy" 2 proxyCtor,
  method "Proxy" "revocable" 2 proxyRevocable,
  method "internal" "revoke" 0 proxyRevoke,
  { holder := "Intl", name := "NumberFormat", length := 0, fn := numberFormatCtor,
    ctor := some "Intl.NumberFormat.prototype" },
  getterSpec "Intl.NumberFormat.prototype" "format" numberFormatFormat,
  method "Intl.NumberFormat.prototype" "resolvedOptions" 0 numberFormatResolvedOptions,
  method "NumberFormat" "supportedLocalesOf" 1 intlSupportedLocalesOf,
  method "internal" "numberFormat" 1 numberFormatBoundFormat,
  { holder := "Intl", name := "Collator", length := 0, fn := collatorCtor,
    ctor := some "Intl.Collator.prototype" },
  getterSpec "Intl.Collator.prototype" "compare" collatorCompare,
  method "Intl.Collator.prototype" "resolvedOptions" 0 collatorResolvedOptions,
  method "Collator" "supportedLocalesOf" 1 intlSupportedLocalesOf,
  method "internal" "collatorCompare" 2 collatorBoundCompare,
  method "Intl" "getCanonicalLocales" 1 intlGetCanonicalLocales,
  { holder := "Intl", name := "Segmenter", length := 0, fn := segmenterCtor,
    ctor := some "Intl.Segmenter.prototype" },
  method "Intl.Segmenter.prototype" "segment" 1 segmenterSegment,
  method "Intl.Segmenter.prototype" "resolvedOptions" 0 segmenterResolvedOptions,
  method "Segmenter" "supportedLocalesOf" 1 intlSupportedLocalesOf,
  method "Segments.prototype" "containing" 1 segmentsContaining,
  symbolMethod "Segments.prototype" "iterator" 0 segmentsIterator,
  { holder := "internal", name := "GeneratorFunction", length := 1,
    fn := functionFromText "function*", ctor := some "GeneratorFunction.prototype" },
  { holder := "internal", name := "AsyncFunction", length := 1,
    fn := functionFromText "async function", ctor := some "AsyncFunction.prototype" }] ++
  methods "WeakMap.prototype" [("delete", 1, weakMapDelete), ("get", 1, weakMapGet),
    ("set", 2, weakMapSet), ("has", 1, weakMapHas)] ++
  methods "WeakSet.prototype" [("delete", 1, weakSetDelete), ("has", 1, weakSetHas),
    ("add", 1, weakSetAdd)] ++ [
  method "WeakRef.prototype" "deref" 0 weakRefDeref,
  ctorSpec "RegExp" 2 regexpCtor,
  ctorSpec "Symbol" 0 symbolCtor,
  ctorSpec "BigInt" 1 bigintCtor,
  method "Symbol" "for" 1 symbolFor,
  method "Symbol" "keyFor" 1 symbolKeyFor,
  method "Symbol.prototype" "toString" 0 symbolToString,
  method "Symbol.prototype" "valueOf" 0 symbolValueOf,
  getterSpec "Symbol.prototype" "description" symbolDescription,
  method "BigInt" "asIntN" 2 bigintAsIntN,
  method "BigInt" "asUintN" 2 bigintAsUintN] ++
  methods "BigInt.prototype" [("toString", 0, bigintToString),
    ("toLocaleString", 0, bigintToLocaleString), ("valueOf", 0, bigintValueOf)] ++ [
  symbolMethod "String.prototype" "iterator" 0 stringIterator] ++
  methods "global" [("eval", 1, globalEval), ("parseInt", 2, globalParseInt),
    ("parseFloat", 1, globalParseFloat), ("isNaN", 1, globalIsNaN), ("isFinite", 1, globalIsFinite),
    ("decodeURI", 1, globalDecodeURI), ("decodeURIComponent", 1, globalDecodeURIComponent),
    ("encodeURI", 1, globalEncodeURI), ("encodeURIComponent", 1, globalEncodeURIComponent),
    ("escape", 1, globalEscape), ("unescape", 1, globalUnescape)] ++ [
  { holder := "global", name := "print", length := 0, fn := printArgs, enumerable := true }] ++
  methods "Object" [("keys", 1, objectKeys), ("values", 1, objectValues),
    ("entries", 1, objectEntries), ("assign", 2, objectAssign), ("freeze", 1, objectFreeze),
    ("isFrozen", 1, objectIsFrozen), ("seal", 1, objectSeal), ("isSealed", 1, objectIsSealed),
    ("preventExtensions", 1, objectPreventExtensions), ("isExtensible", 1, objectIsExtensible),
    ("getOwnPropertyDescriptor", 2, objectGetOwnPropertyDescriptor),
    ("getOwnPropertyDescriptors", 1, objectGetOwnPropertyDescriptors),
    ("defineProperties", 2, objectDefineProperties), ("groupBy", 2, objectGroupBy),
    ("create", 2, objectCreate), ("getPrototypeOf", 1, objectGetPrototypeOf),
    ("setPrototypeOf", 2, objectSetPrototypeOf), ("defineProperty", 3, objectDefineProperty),
    ("getOwnPropertyNames", 1, objectGetOwnPropertyNames),
    ("getOwnPropertySymbols", 1, objectGetOwnPropertySymbols),
    ("fromEntries", 1, objectFromEntries), ("is", 2, objectIs), ("hasOwn", 2, objectHasOwn)] ++
  methods "Object.prototype" [("toString", 0, objectProtoToString),
    ("toLocaleString", 0, objectProtoToLocaleString),
    ("hasOwnProperty", 1, objectProtoHasOwnProperty)] ++ [
  getterSpec "Object.prototype" "__proto__" objectProtoGetProto,
  setterSpec "Object.prototype" "__proto__" objectProtoSetProto] ++
  methods "Object.prototype" [("valueOf", 0, objectProtoValueOf),
    ("isPrototypeOf", 1, objectProtoIsPrototypeOf),
    ("propertyIsEnumerable", 1, objectProtoPropertyIsEnumerable),
    ("__defineGetter__", 2, (objectDefineAccessor false)),
    ("__defineSetter__", 2, (objectDefineAccessor true)),
    ("__lookupGetter__", 1, (objectLookupAccessor false)),
    ("__lookupSetter__", 1, (objectLookupAccessor true))] ++
  methods "Function.prototype" [("toString", 0, functionProtoToString),
    ("call", 1, functionProtoCall), ("apply", 2, functionProtoApply), ("bind", 1, functionProtoBind)] ++
  methods "Array" [("isArray", 1, arrayIsArray), ("of", 0, arrayOf), ("from", 1, arrayFrom)] ++
  methods "Array.prototype" [("push", 1, arrayPush), ("pop", 0, arrayPop), ("shift", 0, arrayShift),
    ("unshift", 1, arrayUnshift), ("slice", 2, arraySlice), ("splice", 2, arraySplice),
    ("concat", 1, arrayConcat), ("join", 1, arrayJoin), ("toString", 0, arrayToString),
    ("toLocaleString", 0, arrayToLocaleString), ("reverse", 0, arrayReverse),
    ("indexOf", 1, arrayIndexOf), ("lastIndexOf", 1, arrayLastIndexOf),
    ("includes", 1, arrayIncludes), ("forEach", 1, arrayForEach), ("map", 1, arrayMap),
    ("filter", 1, arrayFilter), ("some", 1, arraySome), ("every", 1, arrayEvery),
    ("find", 1, arrayFind), ("findIndex", 1, arrayFindIndex), ("findLast", 1, arrayFindLast),
    ("findLastIndex", 1, arrayFindLastIndex), ("reduce", 1, arrayReduce),
    ("reduceRight", 1, arrayReduceRight), ("sort", 1, arraySort), ("toSorted", 1, arrayToSorted),
    ("toReversed", 0, arrayToReversed), ("toSpliced", 2, arrayToSpliced), ("with", 2, arrayWith),
    ("copyWithin", 2, arrayCopyWithin), ("fill", 1, arrayFill), ("flat", 0, arrayFlat),
    ("flatMap", 1, arrayFlatMap), ("at", 1, arrayAt), ("keys", 0, arrayKeys),
    ("values", 0, arrayValues), ("entries", 0, arrayEntries)] ++
  methods "String" [("fromCharCode", 1, stringFromCharCode),
    ("fromCodePoint", 1, stringFromCodePoint), ("raw", 1, stringRaw)] ++
  methods "String.prototype" [("charAt", 1, stringCharAt), ("charCodeAt", 1, stringCharCodeAt),
    ("codePointAt", 1, stringCodePointAt), ("at", 1, stringAt), ("indexOf", 1, stringIndexOf),
    ("lastIndexOf", 1, stringLastIndexOf), ("includes", 1, stringIncludes),
    ("startsWith", 1, stringStartsWith), ("endsWith", 1, stringEndsWith), ("slice", 2, stringSlice),
    ("substring", 2, stringSubstring), ("substr", 2, stringSubstr),
    ("toUpperCase", 0, stringToUpperCase), ("toLowerCase", 0, stringToLowerCase),
    ("toLocaleUpperCase", 0, stringToLocaleUpperCase),
    ("toLocaleLowerCase", 0, stringToLocaleLowerCase), ("isWellFormed", 0, stringIsWellFormed),
    ("toWellFormed", 0, stringToWellFormed), ("trim", 0, stringTrim),
    ("trimStart", 0, stringTrimStart), ("trimEnd", 0, stringTrimEnd),
    ("padStart", 2, stringPadStart), ("padEnd", 2, stringPadEnd), ("repeat", 1, stringRepeat),
    ("concat", 1, stringConcat), ("split", 2, stringSplitAny), ("replace", 2, stringReplaceAny),
    ("replaceAll", 2, stringReplaceAllAny), ("match", 1, stringMatch),
    ("matchAll", 1, stringMatchAll), ("search", 1, stringSearch),
    ("localeCompare", 1, stringLocaleCompare), ("toString", 0, stringValueOf),
    ("valueOf", 0, stringValueOf), ("normalize", 0, stringNormalize)] ++
  methods "Number" [("isInteger", 1, numberIsInteger), ("isSafeInteger", 1, numberIsSafeInteger),
    ("isFinite", 1, numberIsFinite), ("isNaN", 1, numberIsNaN), ("parseFloat", 1, globalParseFloat),
    ("parseInt", 2, globalParseInt)] ++
  methods "Number.prototype" [("toString", 1, numberToString), ("toFixed", 1, numberToFixed),
    ("toPrecision", 1, numberToPrecision), ("toExponential", 1, numberToExponential),
    ("valueOf", 0, numberValueOf), ("toLocaleString", 0, numberToLocaleString)] ++ [
  method "Boolean.prototype" "toString" 0 booleanToString,
  method "Boolean.prototype" "valueOf" 0 booleanValueOf] ++
  methods "Reflect" [("apply", 3, reflectApply), ("construct", 2, reflectConstruct),
    ("defineProperty", 3, reflectDefineProperty), ("deleteProperty", 2, reflectDeleteProperty),
    ("get", 2, reflectGet), ("getOwnPropertyDescriptor", 2, reflectGetOwnPropertyDescriptor),
    ("getPrototypeOf", 1, reflectGetPrototypeOf), ("has", 2, reflectHas),
    ("isExtensible", 1, reflectIsExtensible), ("ownKeys", 1, reflectOwnKeys),
    ("preventExtensions", 1, reflectPreventExtensions), ("set", 3, reflectSet),
    ("setPrototypeOf", 2, reflectSetPrototypeOf)] ++
  methods "Math" [("abs", 1, (mathUnary Float.abs)), ("floor", 1, (mathUnary Float.floor)),
    ("ceil", 1, (mathUnary Float.ceil)), ("round", 1, (mathUnary roundHalfUp)),
    ("trunc", 1, (mathUnary truncFloat)), ("sign", 1, (mathUnary signOf)),
    ("sqrt", 1, (mathUnary Float.sqrt)), ("cbrt", 1, (mathUnary Elementary.cbrt)),
    ("exp", 1, (mathUnary Elementary.exp)), ("expm1", 1, (mathUnary Elementary.expm1)),
    ("log", 1, (mathUnary Elementary.log)), ("log2", 1, (mathUnary Elementary.log2)),
    ("log10", 1, (mathUnary Elementary.log10)), ("log1p", 1, (mathUnary Elementary.log1p)),
    ("sin", 1, (mathUnary Elementary.sin)), ("cos", 1, (mathUnary Elementary.cos)),
    ("tan", 1, (mathUnary Elementary.tan)), ("asin", 1, (mathUnary Elementary.asin)),
    ("acos", 1, (mathUnary Elementary.acos)), ("atan", 1, (mathUnary Elementary.atan)),
    ("sinh", 1, (mathUnary Elementary.sinh)), ("cosh", 1, (mathUnary Elementary.cosh)),
    ("tanh", 1, (mathUnary Elementary.tanh)), ("asinh", 1, (mathUnary Elementary.asinh)),
    ("acosh", 1, (mathUnary Elementary.acosh)), ("atanh", 1, (mathUnary Elementary.atanh)),
    ("max", 2, mathMax), ("min", 2, mathMin), ("pow", 2, mathPow), ("atan2", 2, mathAtan2),
    ("hypot", 2, mathHypot), ("random", 0, mathRandom), ("clz32", 1, mathClz32),
    ("imul", 2, mathImul), ("fround", 1, mathFround)] ++ [
  method "JSON" "stringify" 3 jsonStringify,
  method "JSON" "parse" 2 jsonParse,
  method "Error" "captureStackTrace" 2 errorCaptureStackTrace,
  method "Error.prototype" "toString" 0 errorToString] ++
  methods "Date" [("now", 0, dateNow), ("parse", 1, dateParse), ("UTC", 7, dateUTC)] ++
  methods "Date.prototype" [("getTime", 0, dateGetTime), ("valueOf", 0, dateGetTime),
    ("getFullYear", 0, (dateField fun f => intToFloat f.year)),
    ("getMonth", 0, (dateField fun f => f.month.toFloat)),
    ("getDate", 0, (dateField fun f => f.day.toFloat)),
    ("getDay", 0, (dateField fun f => f.weekday.toFloat)),
    ("getHours", 0, (dateField fun f => f.hours.toFloat)),
    ("getMinutes", 0, (dateField fun f => f.minutes.toFloat)),
    ("getSeconds", 0, (dateField fun f => f.seconds.toFloat)),
    ("getMilliseconds", 0, (dateField fun f => f.millis.toFloat)),
    ("getUTCFullYear", 0, (dateField fun f => intToFloat f.year)),
    ("getUTCMonth", 0, (dateField fun f => f.month.toFloat)),
    ("getUTCDate", 0, (dateField fun f => f.day.toFloat)),
    ("getUTCDay", 0, (dateField fun f => f.weekday.toFloat)),
    ("getUTCHours", 0, (dateField fun f => f.hours.toFloat)),
    ("getUTCMinutes", 0, (dateField fun f => f.minutes.toFloat)),
    ("getUTCSeconds", 0, (dateField fun f => f.seconds.toFloat)),
    ("getUTCMilliseconds", 0, (dateField fun f => f.millis.toFloat)),
    ("getTimezoneOffset", 0, dateTimezoneOffset), ("toISOString", 0, dateToISOString),
    ("toJSON", 1, dateToJSON), ("toString", 0, (dateText' longText)),
    ("toDateString", 0, (dateText' dateText)), ("toTimeString", 0, (dateText' timeText)),
    ("toUTCString", 0, (dateText' utcText)), ("toGMTString", 0, (dateText' utcText)),
    ("toLocaleDateString", 0, (dateText' localeDateText)),
    ("toLocaleTimeString", 0, (dateText' localeTimeText)),
    ("toLocaleString", 0, (dateText' fun t => localeDateText t ++ ", " ++ localeTimeText t)),
    ("setTime", 1, dateSetTime), ("setFullYear", 3, (dateSetFields 0)),
    ("setMonth", 2, (dateSetFields 1)), ("setDate", 1, (dateSetFields 2)),
    ("setHours", 4, (dateSetFields 3)), ("setMinutes", 3, (dateSetFields 4)),
    ("setSeconds", 2, (dateSetFields 5)), ("setMilliseconds", 1, (dateSetFields 6)),
    ("setUTCFullYear", 3, (dateSetFields 0)), ("setUTCMonth", 2, (dateSetFields 1)),
    ("setUTCDate", 1, (dateSetFields 2)), ("setUTCHours", 4, (dateSetFields 3)),
    ("setUTCMinutes", 3, (dateSetFields 4)), ("setUTCSeconds", 2, (dateSetFields 5)),
    ("setUTCMilliseconds", 1, (dateSetFields 6))] ++
  methods "Map.prototype" [("get", 1, mapGet), ("set", 2, mapSet), ("has", 1, mapHas),
    ("delete", 1, mapDelete), ("clear", 0, mapClear), ("forEach", 1, mapForEach),
    ("keys", 0, mapKeys), ("values", 0, mapValues), ("entries", 0, mapEntries)] ++ [
  getterSpec "Map.prototype" "size" mapSize] ++
  methods "Set.prototype" [("add", 1, setAdd), ("has", 1, setHas), ("delete", 1, setDelete),
    ("clear", 0, setClear), ("forEach", 1, setForEach), ("values", 0, setValues),
    ("keys", 0, setValues), ("entries", 0, setEntries)] ++ [
  getterSpec "Set.prototype" "size" setSize] ++
  methods "Set.prototype" [("union", 1, setUnion), ("intersection", 1, setIntersection),
    ("difference", 1, setDifference), ("symmetricDifference", 1, setSymmetricDifference),
    ("isSubsetOf", 1, setIsSubsetOf), ("isSupersetOf", 1, setIsSupersetOf),
    ("isDisjointFrom", 1, setIsDisjointFrom)] ++ [
  method "Map" "groupBy" 2 mapGroupBy,
  ctorSpec "Iterator" 0 iteratorCtor,
  getterSpec "Iterator.prototype" "constructor" iteratorCtorGetter,
  setterSpec "Iterator.prototype" "constructor" (iteratorProtoSetter "constructor"),
  method "Iterator" "from" 1 iteratorFrom,
  symbolMethod "Iterator.prototype" "iterator" 0 iteratorSelf] ++
  methods "Iterator.prototype" [("map", 1, (iteratorLazy "map" .map)),
    ("filter", 1, (iteratorLazy "filter" .filter)), ("take", 1, iteratorTake),
    ("drop", 1, iteratorDrop), ("flatMap", 1, (iteratorLazy "flatMap" fun f => .flatMap f none)),
    ("reduce", 1, iteratorReduce), ("toArray", 0, iteratorToArray), ("forEach", 1, iteratorForEach),
    ("some", 1, (iteratorSearch "some" true (fun _ => .bool true) fun _ => .bool false)),
    ("every", 1, (iteratorSearch "every" false (fun _ => .bool false) fun _ => .bool true)),
    ("find", 1, (iteratorSearch "find" true id fun _ => .undefined))] ++ [
  { getterSpec "Iterator.prototype" "[Symbol.toStringTag]" iteratorTagGetter with
      key := some (wellKnownKey "toStringTag") },
  { setterSpec "Iterator.prototype" "[Symbol.toStringTag]" (iteratorProtoSetter (wellKnownKey "toStringTag")) with
      key := some (wellKnownKey "toStringTag") },
  method "Iterator Helper" "next" 0 helperNext,
  method "Iterator Helper" "return" 0 helperReturn] ++
  (iteratorTags.filter (· != "Iterator Helper")).map (fun tag => method tag "next" 0 iteratorNext) ++
  methods "Generator.prototype" [("next", 1, (generatorResume "next" .next)),
    ("return", 1, (generatorResume "return" .returning)),
    ("throw", 1, (generatorResume "throw" .throwing))] ++
  methods "RegExp.prototype" [("exec", 1, regexpExec), ("test", 1, regexpTest),
    ("toString", 0, regexpToString), ("compile", 2, regexpCompile)] ++ [
  getterSpec "RegExp.prototype" "dotAll" (flagGetter "dotAll" 's'),
  getterSpec "RegExp.prototype" "flags" regexpFlags,
  getterSpec "RegExp.prototype" "global" (flagGetter "global" 'g'),
  getterSpec "RegExp.prototype" "hasIndices" (flagGetter "hasIndices" 'd'),
  getterSpec "RegExp.prototype" "ignoreCase" (flagGetter "ignoreCase" 'i'),
  getterSpec "RegExp.prototype" "multiline" (flagGetter "multiline" 'm'),
  getterSpec "RegExp.prototype" "source" regexpSource,
  getterSpec "RegExp.prototype" "sticky" (flagGetter "sticky" 'y'),
  getterSpec "RegExp.prototype" "unicode" (flagGetter "unicode" 'u'),
  getterSpec "RegExp.prototype" "unicodeSets" (flagGetter "unicodeSets" 'v'),
  method "JSON" "rawJSON" 1 jsonRawJson,
  method "JSON" "isRawJSON" 1 jsonIsRawJson,
  method "Array" "fromAsync" 1 arrayFromAsync,
  method "Date.prototype" "getYear" 0 (dateField fun f => intToFloat f.year - 1900),
  method "Date.prototype" "setYear" 1 dateSetYear,
  ctorSpec "FinalizationRegistry" 1 finalizationRegistryCtor,
  method "FinalizationRegistry.prototype" "register" 2 finalizationRegister,
  method "FinalizationRegistry.prototype" "unregister" 1 finalizationUnregister,
  ctorSpec "SharedArrayBuffer" 1 arrayBufferCtor,
  getterSpec "SharedArrayBuffer.prototype" "byteLength" arrayBufferByteLength] ++
  htmlMethods.map (fun (name, tag, attr) =>
    method "String.prototype" name (if attr.isSome then 1 else 0) (stringHtml name tag attr)) ++
  legacyProperties.flatMap (fun (name, read, setsInput) =>
    [getterSpec "RegExp" name (legacyGetter read),
     setterSpec "RegExp" name (if setsInput then legacyInputSetter else legacyIgnore)]) ++
  ["Array", "ArrayBuffer", "Map", "Set", "Promise", "RegExp", "TypedArray"].map fun holder =>
    { getterSpec holder "[Symbol.species]" speciesGetter with key := some (wellKnownKey "species") }

/-- The built-in functions by index. -/
def nativeTable : Array NativeFn :=
  (librarySpecs.map (·.fn)).toArray

/-- A built-in function that does nothing, for indices outside the table. -/
def nativeAt (i : Nat) : NativeFn :=
  nativeTable.getD i fun _ _ _ _ => pure .undefined

/-- Number constants of the library: holder, name, value. -/
def libraryNumbers : List (String × String × Float) := [
  ("global", "NaN", nan), ("global", "Infinity", infinity),
  ("Math", "PI", 3.141592653589793), ("Math", "E", 2.718281828459045),
  ("Math", "LN2", 0.6931471805599453), ("Math", "LN10", 2.302585092994046),
  ("Math", "LOG2E", 1.4426950408889634), ("Math", "LOG10E", 0.4342944819032518),
  ("Math", "SQRT2", 1.4142135623730951), ("Math", "SQRT1_2", 0.7071067811865476),
  ("Number", "MAX_SAFE_INTEGER", 9007199254740991), ("Number", "MIN_SAFE_INTEGER", -9007199254740991),
  ("Number", "EPSILON", 2.220446049250313e-16), ("Number", "MAX_VALUE", 1.7976931348623157e308),
  ("Number", "MIN_VALUE", 5e-324), ("Number", "POSITIVE_INFINITY", infinity),
  ("Number", "NEGATIVE_INFINITY", -infinity), ("Number", "NaN", nan)
]

/-- The error kinds with the names their prototypes carry. -/
def errorNames : List (ErrorKind × String) :=
  [(.error, "Error"), (.typeError, "TypeError"), (.rangeError, "RangeError"),
   (.referenceError, "ReferenceError"), (.syntaxError, "SyntaxError"), (.evalError, "EvalError"),
   (.uriError, "URIError"), (.aggregateError, "AggregateError")]

/-- Builds the global environment into an empty realm: the evaluation service's, or with
`standalone` that of a script run on its own. -/
def buildGlobals (standalone : Bool) : Eval Unit := do
  let objectProto <- alloc {}
  let plain : Eval Nat := alloc { proto := some objectProto }
  let functionProto <- plain
  let arrayProto <- alloc { kind := .array #[], proto := some objectProto }
  let stringProto <- alloc { kind := .boxed (.str ""), proto := some objectProto }
  let numberProto <- alloc { kind := .boxed (.num 0), proto := some objectProto }
  let booleanProto <- alloc { kind := .boxed (.bool false), proto := some objectProto }
  let errorProto <- plain
  let sub : Eval Nat := alloc { proto := some errorProto }
  let typeErrorProto <- sub
  let rangeErrorProto <- sub
  let referenceErrorProto <- sub
  let syntaxErrorProto <- sub
  let evalErrorProto <- sub
  let uriErrorProto <- sub
  let aggregateErrorProto <- sub
  let dateProto <- plain
  let mapProto <- plain
  let setProto <- plain
  let iteratorProto <- plain
  let regexpProto <- plain
  let symbolProto <- plain
  let bigintProto <- plain
  let weakMapProto <- plain
  let weakSetProto <- plain
  let weakRefProto <- plain
  let generatorProto <- alloc { proto := some iteratorProto }
  let mut iteratorProtos : List (String × Nat) := []
  for tag in iteratorTags do
    iteratorProtos := iteratorProtos ++ [(tag, <- alloc { proto := some iteratorProto })]
  let finalizationProto <- plain
  let sharedBufferProto <- plain
  let intl <- plain
  let numberFormatProto <- plain
  let collatorProto <- plain
  let segmenterProto <- plain
  let segmentsProto <- plain
  let atomics <- plain
  let webAssembly <- plain
  let generatorFunctionProto <- alloc { proto := some functionProto }
  let asyncFunctionProto <- alloc { proto := some functionProto }
  let promiseProto <- plain
  let internal <- plain
  let arrayBufferProto <- plain
  let dataViewProto <- plain
  let typedArrayProto <- plain
  let mut typedArrayProtos : List Nat := []
  for _ in ElementKind.all do
    typedArrayProtos := typedArrayProtos ++ [<- alloc { proto := some typedArrayProto }]
  let global <- plain
  let globalScope <- newScope { this := .bound (.obj global) }
  modify fun r => { r with global := global, globalScope := globalScope, intrinsics :=
    { objectProto, functionProto, arrayProto, stringProto, numberProto, booleanProto,
      symbolProto, bigintProto, errorProto, typeErrorProto, rangeErrorProto,
      referenceErrorProto, syntaxErrorProto, evalErrorProto, uriErrorProto, dateProto,
      mapProto, setProto, iteratorProto, regexpProto, arrayBufferProto, typedArrayProtos,
      weakMapProto, weakSetProto, weakRefProto, generatorProto, generatorFunctionProto,
      asyncFunctionProto, promiseProto, aggregateErrorProto, dataViewProto, iteratorProtos,
      numberFormatProto, collatorProto, segmenterProto, segmentsProto } }
  let math <- plain
  let json <- plain
  let reflect <- plain
  let console <- plain
  let process <- plain
  let stdout <- plain
  let stderr <- plain
  let stdin <- plain
  let readline <- plain
  let util <- plain
  let lineReaderProto <- plain
  modify fun r =>
    let i := { r.intrinsics with readlineModule := readline, utilModule := util,
                                 lineReaderProto := lineReaderProto }
    { r with intrinsics := i }
  let standaloneHolders : List (String × Nat) :=
    [("standalone", global), ("standalone.console", console), ("process", process),
     ("process.stdout", stdout), ("process.stderr", stderr), ("process.stdin", stdin),
     ("readline", readline), ("util", util), ("LineReader.prototype", lineReaderProto)]
  let mut holders : List (String × Nat) :=
    [("global", global), ("Math", math), ("JSON", json), ("Reflect", reflect), ("console", console),
     ("Object.prototype", objectProto), ("Function.prototype", functionProto),
     ("Array.prototype", arrayProto), ("String.prototype", stringProto),
     ("Number.prototype", numberProto), ("Boolean.prototype", booleanProto),
     ("Error.prototype", errorProto), ("TypeError.prototype", typeErrorProto),
     ("RangeError.prototype", rangeErrorProto), ("ReferenceError.prototype", referenceErrorProto),
     ("SyntaxError.prototype", syntaxErrorProto), ("EvalError.prototype", evalErrorProto),
     ("URIError.prototype", uriErrorProto), ("Date.prototype", dateProto),
     ("Map.prototype", mapProto), ("Set.prototype", setProto),
     ("Iterator.prototype", iteratorProto), ("RegExp.prototype", regexpProto),
     ("Symbol.prototype", symbolProto), ("BigInt.prototype", bigintProto),
     ("ArrayBuffer.prototype", arrayBufferProto), ("TypedArray.prototype", typedArrayProto),
     ("DataView.prototype", dataViewProto),
     ("WeakMap.prototype", weakMapProto), ("WeakSet.prototype", weakSetProto),
     ("WeakRef.prototype", weakRefProto), ("Generator.prototype", generatorProto),
     ("GeneratorFunction.prototype", generatorFunctionProto),
     ("AsyncFunction.prototype", asyncFunctionProto), ("Promise.prototype", promiseProto),
     ("AggregateError.prototype", aggregateErrorProto), ("internal", internal),
     ("FinalizationRegistry.prototype", finalizationProto),
     ("SharedArrayBuffer.prototype", sharedBufferProto), ("Intl", intl),
     ("Intl.NumberFormat.prototype", numberFormatProto), ("Intl.Collator.prototype", collatorProto),
     ("Intl.Segmenter.prototype", segmenterProto), ("Segments.prototype", segmentsProto)] ++
    iteratorProtos ++
    (ElementKind.all.zip typedArrayProtos).map (fun (kind, p) => (kind.name ++ ".prototype", p)) ++
    (if standalone then standaloneHolders else [])
  defineData global "Math" (.obj math) true false true
  defineData global "JSON" (.obj json) true false true
  defineData global "Reflect" (.obj reflect) true false true
  defineData global "Intl" (.obj intl) true false true
  defineData global "Atomics" (.obj atomics) true false true
  defineData global "WebAssembly" (.obj webAssembly) true false true
  defineData global "globalThis" (.obj global) true false true
  defineData global "undefined" .undefined false false false
  for (spec, i) in librarySpecs.zipIdx do
    let shownName := if spec.getter then "get " ++ spec.name
      else if spec.setter then "set " ++ spec.name else spec.name
    let fnRef <- newFunction (.native i spec.ctor.isSome) shownName spec.length
    match spec.ctor with
    | some protoName =>
      match holders.lookup protoName with
      | some p =>
        defineData fnRef "prototype" (.obj p) false false false
        defineData p "constructor" (.obj fnRef) true false true
      | none => pure ()
      holders := (spec.name, fnRef) :: holders
    | none => pure ()
    match holders.lookup spec.holder with
    | some holder =>
      let key := spec.key.getD spec.name
      if spec.getter then defineAccessor holder key (some fnRef) none false
      else if spec.setter then defineAccessor holder key none (some fnRef) false
      else defineData holder key (.obj fnRef) true spec.enumerable true
    | none => pure ()
  -- `print` comes first among the global object's own listed properties, then `console`,
  -- whose methods are `print` itself
  match (<- getObj global).findOwn? "print" with
  | some (.data (.obj p) _ _ _) =>
    if !standalone then
      for m in ["log", "info", "warn", "error"] do
        defineData console m (.obj p) true true true
    modify fun r => { r with intrinsics := { r.intrinsics with printFunction := p } }
  | _ => pure ()
  -- a standalone script has `process`, and its console's warnings and errors go to standard
  -- error, which is `print` no more
  if standalone then
    modifyObj global fun o => o.removeOwn "print"
    defineData global "process" (.obj process) true false true
    defineData process "stdout" (.obj stdout) true true true
    defineData process "stderr" (.obj stderr) true true true
    defineData process "stdin" (.obj stdin) true true true
    match (<- getObj stderr).findOwn? "write" with
    | some (.data w _ _ _) =>
      for m in ["warn", "error"] do
        defineData console m w true true true
    | _ => pure ()
  match (<- getObj global).findOwn? "eval" with
  | some (.data (.obj e) _ _ _) =>
    modify fun r => { r with intrinsics := { r.intrinsics with evalFunction := e } }
  | _ => pure ()
  defineData global "console" (.obj console) true true true
  for (holder, name, x) in libraryNumbers do
    match holders.lookup holder with
    | some h => defineData h name (.num x) false false false
    | none => pure ()
  -- the well-known symbols, and what the built-in objects answer to them
  match holders.lookup "Symbol" with
  | some sym =>
    for name in wellKnownSymbols do
      defineData sym name (wellKnownSymbol name) false false false
  | none => pure ()
  -- the typed array constructors inherit from the abstract one, and tell their element size
  for (kind, p) in ElementKind.all.zip typedArrayProtos do
    match holders.lookup kind.name, holders.lookup "TypedArray" with
    | some c, some abstract =>
      modifyObj c fun o => { o with proto := some abstract }
      let size := Value.num kind.size.toFloat
      defineData c "BYTES_PER_ELEMENT" size false false false
      defineData p "BYTES_PER_ELEMENT" size false false false
    | _, _ => pure ()
  match holders.lookup "Array" with
  | some a => modify fun r => { r with intrinsics := { r.intrinsics with arrayCtor := a } }
  | none => pure ()
  -- the other error constructors inherit from `Error`
  match holders.lookup "Error" with
  | some base =>
    for (_, name) in errorNames.drop 1 do
      match holders.lookup name with
      | some c => modifyObj c fun o => { o with proto := some base }
      | none => pure ()
  | none => pure ()
  -- the functions a promise's resolving functions call are reachable from nowhere else
  match (<- getObj internal).findOwn? "resolve", (<- getObj internal).findOwn? "reject" with
  | some (.data (.obj res) _ _ _), some (.data (.obj rej) _ _ _) =>
    modify fun r => { r with intrinsics :=
      { r.intrinsics with promiseResolveFn := res, promiseRejectFn := rej } }
  | _, _ => pure ()
  match (<- getObj internal).findOwn? "revoke" with
  | some (.data (.obj rev) _ _ _) =>
    modify fun r => { r with intrinsics := { r.intrinsics with proxyRevokeFn := rev } }
  | _ => pure ()
  match (<- getObj internal).findOwn? "numberFormat", (<- getObj internal).findOwn? "collatorCompare" with
  | some (.data (.obj fmt) _ _ _), some (.data (.obj cmp) _ _ _) =>
    modify fun r => { r with intrinsics :=
      { r.intrinsics with numberFormatFn := fmt, collatorCompareFn := cmp } }
  | _, _ => pure ()
  -- generator functions and the generators they make point at each other's prototypes
  defineData generatorFunctionProto "prototype" (.obj generatorProto) false false true
  defineData generatorProto "constructor" (.obj generatorFunctionProto) false false true
  for (holder, tag) in iteratorTags.map (fun t => (t, t)) ++
      [("FinalizationRegistry.prototype", "FinalizationRegistry"),
       ("SharedArrayBuffer.prototype", "SharedArrayBuffer"), ("Intl", "Intl"),
       ("Intl.NumberFormat.prototype", "Intl.NumberFormat"), ("Intl.Collator.prototype", "Intl.Collator"),
       ("Intl.Segmenter.prototype", "Intl.Segmenter"),
       ("ArrayBuffer.prototype", "ArrayBuffer"), ("DataView.prototype", "DataView"),
      ("WeakMap.prototype", "WeakMap"),
      ("WeakSet.prototype", "WeakSet"), ("WeakRef.prototype", "WeakRef"),
      ("Symbol.prototype", "Symbol"), ("BigInt.prototype", "BigInt"),
      ("Map.prototype", "Map"), ("Set.prototype", "Set"), ("Math", "Math"), ("JSON", "JSON"), ("Reflect", "Reflect"),
      ("Generator.prototype", "Generator"), ("GeneratorFunction.prototype", "GeneratorFunction"),
      ("AsyncFunction.prototype", "AsyncFunction"), ("Promise.prototype", "Promise")] do
    match holders.lookup holder with
    | some h => defineData h (wellKnownKey "toStringTag") (.str tag) false false true
    | none => pure ()
  for (holder, name) in [("Array.prototype", "values"), ("Map.prototype", "entries"),
      ("Set.prototype", "values"), ("TypedArray.prototype", "values")] do
    match holders.lookup holder with
    | some h =>
      match (<- getObj h).findOwn? name with
      | some (.data f _ _ _) =>
        defineData h (wellKnownKey "iterator") f true false true
        match holder, f with
        | "Array.prototype", .obj fn =>
          modify fun r => { r with intrinsics := { r.intrinsics with arrayValues := fn } }
        | _, _ => pure ()
      | _ => pure ()
    | none => pure ()
  -- older names that are the same functions as newer ones
  for (holder, older, name) in [("String.prototype", "trimLeft", "trimStart"),
      ("String.prototype", "trimRight", "trimEnd"), ("Date.prototype", "toGMTString", "toUTCString")] do
    match holders.lookup holder with
    | some h =>
      match (<- getObj h).findOwn? name with
      | some (.data f _ _ _) => defineData h older f true false true
      | _ => pure ()
    | none => pure ()
  -- `Error.stackTraceLimit` is an ordinary property scripts may change
  match holders.lookup "Error" with
  | some e => defineData e "stackTraceLimit" (.num 10) true true true
  | none => pure ()
  -- the names `with` statements do not see on arrays
  let unscopables <- alloc { proto := none }
  for name in ["at", "copyWithin", "entries", "fill", "find", "findIndex", "findLast",
      "findLastIndex", "flat", "flatMap", "includes", "keys", "toReversed", "toSorted",
      "toSpliced", "values"] do
    defineData unscopables name (.bool true) true true true
  defineData arrayProto (wellKnownKey "unscopables") (.obj unscopables) false false true
  for (holder, tag) in [("Atomics", atomics), ("WebAssembly", webAssembly)] do
    defineData tag (wellKnownKey "toStringTag") (.str holder) false false true
  for (kind, name) in errorNames do
    let i <- intrinsics
    let p := i.errorProtoOf kind
    defineData p "name" (.str name) true false true
    defineData p "message" (.str "") true false true
  pure ()

/-- A fresh realm: the global environment, nothing printed, no budget. -/
def freshRealm : Realm :=
  match (buildGlobals false).run {} with
  | .ok _ r | .error _ r => r

/-- A fresh realm for a script run on its own. -/
def standaloneRealm : Realm :=
  match (buildGlobals true).run {} with
  | .ok _ r | .error _ r => r

end TranscriptTest.Js
