import TranscriptTest.Js.Builtin.Symbol
import TranscriptTest.Js.Builtin.String
import TranscriptTest.Locale.Numbers
import TranscriptTest.Unicode.Segment

/-!
# `Intl`

The locale services: `Intl.NumberFormat`, `Intl.Collator` and `Intl.Segmenter`, and the
`toLocaleString` methods of numbers, integers and arrays that write through a number format.
-/

namespace TranscriptTest.Js

open TranscriptTest.Locale

/-! ## Locales -/

/-- The languages the services know; a locale of another language falls back to the default. -/
def knownLanguages : List String :=
  ["en", "de", "fr", "es", "it", "pt", "nl", "ru", "uk", "pl", "cs", "sv", "nb", "no", "fi", "da",
   "tr", "az", "lt", "hi", "ja", "zh", "ko", "ar", "he", "el", "hu", "ro", "sk", "bg", "hr", "sr",
   "sl", "et", "lv", "is", "ga", "ca", "eu", "gl", "th", "vi", "id", "ms", "fa", "ur", "bn", "ta"]

/-- The locale used when none is asked for. -/
def defaultLocale : String := "en-US"

/-- Whether every character of a text is an ASCII letter or digit. -/
def isAlphanumeric (s : String) : Bool :=
  s.all fun c => c.isAlpha || c.isDigit

/-- A subtag in its canonical case: four letters are a script (`Latn`), two letters a region
(`US`), the rest lower case. -/
def canonicalSubtag (s : String) : String :=
  if s.length == 4 && s.all Char.isAlpha then
    String.ofList (s.toList.zipIdx.map fun (c, i) => if i == 0 then c.toUpper else c.toLower)
  else if s.length == 2 && s.all Char.isAlpha then s.toUpper
  else s.toLower

/-- A language tag in canonical case, or nothing if it is not well formed: a language of two or
three (or five to eight) letters, then subtags of one to eight letters and digits. -/
def canonicalTag (tag : String) : Option String :=
  match tag.splitOn "-" with
  | [] => none
  | language :: rest =>
    let okLanguage := language.all Char.isAlpha &&
      (language.length == 2 || language.length == 3 || (language.length >= 5 && language.length <= 8))
    let okRest := rest.all fun s => !s.isEmpty && s.length <= 8 && isAlphanumeric s
    if okLanguage && okRest then some ("-".intercalate (language.toLower :: rest.map canonicalSubtag))
    else none

/-- The locale tags a `locales` argument asks for, canonical and in order. -/
def Host.requestedLocales (h : Host) (locales : Value) : Eval (List String) := do
  let one (v : Value) : Eval String := do
    match v with
    | .str s => match canonicalTag s with
      | some t => pure t
      | none => raiseError .rangeError ("Incorrect locale information provided")
    | .obj _ => match canonicalTag (<- h.toStr v) with
      | some t => pure t
      | none => raiseError .rangeError ("Incorrect locale information provided")
    | _ => throwType "Language ID should be string or object."
  match locales with
  | .undefined => pure []
  | .str _ => pure [<- one locales]
  | .obj _ =>
    let n <- h.lengthOf locales
    let mut tags : List String := []
    for i in List.range n do
      if ← hasPropertyOf locales (toString i) then
        let t <- one (<- h.get locales (toString i))
        unless tags.contains t do tags := tags ++ [t]
    pure tags
  | .null => throwType "Cannot convert undefined or null to object"
  | _ => pure []
where
  hasPropertyOf (v : Value) (key : String) : Eval Bool := do
    match v with
    | .obj r => hasProperty r key
    | _ => pure false

/-- The locale a service uses: the first requested one whose language it knows. -/
def Host.resolveLocale (h : Host) (locales : Value) : Eval String := do
  let tags <- h.requestedLocales locales
  pure ((tags.find? fun t => knownLanguages.contains (languageOf t)).getD defaultLocale)

/-! ## Options -/

/-- The options object of a service: `undefined` reads as no options; other primitives are
refused unless they convert to objects. -/
def optionsOf (options : Value) : Eval Value := do
  match options with
  | .undefined => pure .undefined
  | .null => throwType "Cannot convert undefined or null to object"
  | v => pure v

/-- Reads an option of text: `none` when absent, else its text, which must be one of `allowed`
when that list is not empty. -/
def Host.textOption (h : Host) (options : Value) (service key : String) (allowed : List String) :
    Eval (Option String) := do
  if options matches .undefined then return none
  match <- h.get options key with
  | .undefined => pure none
  | v =>
    let s <- h.toStr v
    if !allowed.isEmpty && !allowed.contains s then
      raiseError .rangeError ("Value " ++ s ++ " out of range for " ++ service ++
        " options property " ++ key)
    pure (some s)

/-- Reads a boolean option: `none` when absent. -/
def Host.flagOption (h : Host) (options : Value) (key : String) : Eval (Option Bool) := do
  if options matches .undefined then return none
  match <- h.get options key with
  | .undefined => pure none
  | v => pure (some v.truthy)

/-- Checks a number read for an option against its range and takes its floor. -/
def Host.numberInRange (h : Host) (v : Value) (key : String) (lo hi : Nat) : Eval Nat := do
  let x <- h.toNum v
  if x.isNaN || x < lo.toFloat || x > hi.toFloat then
    raiseError .rangeError (key ++ " value is out of range.")
  pure x.floor.toUInt64.toNat

/-- Reads a number option in a range, with a default when absent. -/
def Host.numberOption (h : Host) (options : Value) (key : String) (lo hi fallback : Nat) :
    Eval Nat := do
  if options matches .undefined then return fallback
  match <- h.get options key with
  | .undefined => pure fallback
  | v => h.numberInRange v key lo hi

/-- Reads an option's raw value, `undefined` when there are no options. -/
def Host.rawOption (h : Host) (options : Value) (key : String) : Eval Value := do
  if options matches .undefined then pure .undefined else h.get options key

/-! ## Number formats -/

/-- The currency codes are three letters; they are kept in upper case. -/
def isCurrencyCode (s : String) : Bool :=
  s.length == 3 && s.all Char.isAlpha

/-- The digit settings of a number format's options, with the fraction digits a style uses when
none are given; compact notation rounds to two significant digits or whole numbers. -/
def Host.digitOptions (h : Host) (options : Value) (minDefault maxDefault : Nat) (compact : Bool) :
    Eval DigitOptions := do
  let service := "Intl.NumberFormat"
  let minInteger <- h.numberOption options "minimumIntegerDigits" 1 21 1
  let mnfd <- h.rawOption options "minimumFractionDigits"
  let mxfd <- h.rawOption options "maximumFractionDigits"
  let mnsd <- h.rawOption options "minimumSignificantDigits"
  let mxsd <- h.rawOption options "maximumSignificantDigits"
  let increment <- h.numberOption options "roundingIncrement" 1 5000 1
  unless [1, 2, 5, 10, 20, 25, 50, 100, 200, 250, 500, 1000, 2000, 2500, 5000].contains increment do
    raiseError .rangeError "roundingIncrement value is out of range."
  let _ <- h.textOption options service "roundingMode"
    ["ceil", "floor", "expand", "trunc", "halfCeil", "halfFloor", "halfExpand", "halfTrunc",
     "halfEven"]
  let priority := (← h.textOption options service "roundingPriority"
    ["auto", "morePrecision", "lessPrecision"]).getD "auto"
  let _ <- h.textOption options service "trailingZeroDisplay" ["auto", "stripIfInteger"]
  let hasSd := !(mnsd matches .undefined) || !(mxsd matches .undefined)
  let hasFd := !(mnfd matches .undefined) || !(mxfd matches .undefined)
  let needSd := priority != "auto" || hasSd
  let needFd := priority != "auto" || !(hasSd || (!hasFd && compact))
  let mut o : DigitOptions := { minInteger }
  if needSd && hasSd then
    let lo <- match mnsd with
      | .undefined => pure 1
      | v => h.numberInRange v "minimumSignificantDigits" 1 21
    let hi <- match mxsd with
      | .undefined => pure 21
      | v => h.numberInRange v "maximumSignificantDigits" lo 21
    o := { o with minSignificant := lo, maxSignificant := hi }
  if needFd then
    if hasFd then
      let lo <- match mnfd with
        | .undefined => pure none
        | v => some <$> h.numberInRange v "minimumFractionDigits" 0 100
      let hi <- match mxfd with
        | .undefined => pure none
        | v => some <$> h.numberInRange v "maximumFractionDigits" 0 100
      let (lo, hi) <- match lo, hi with
        | none, some hi => pure (Nat.min minDefault hi, hi)
        | some lo, none => pure (lo, Nat.max maxDefault lo)
        | some lo, some hi =>
          if lo > hi then raiseError .rangeError "maximumFractionDigits value is out of range."
          pure (lo, hi)
        | none, none => pure (minDefault, maxDefault)
      o := { o with minFraction := lo, maxFraction := hi }
    else
      o := { o with minFraction := minDefault, maxFraction := maxDefault }
  if !needSd && !needFd then
    pure { o with minFraction := 0, maxFraction := 0, minSignificant := 1, maxSignificant := 2,
                  rounding := .morePrecision }
  else if priority == "morePrecision" then pure { o with rounding := .morePrecision }
  else if priority == "lessPrecision" then pure { o with rounding := .lessPrecision }
  else if hasSd then pure { o with rounding := .significantDigits }
  else pure { o with rounding := .fractionDigits }

/-- The number format a `locales` argument and an options object ask for, the options read in
the order the language fixes. -/
def Host.numberFormatOf (h : Host) (locales options : Value) : Eval NumberFormat := do
  let service := "Intl.NumberFormat"
  let locale <- h.resolveLocale locales
  let options <- optionsOf options
  let _ <- h.textOption options service "localeMatcher" ["lookup", "best fit"]
  let _ <- h.textOption options service "numberingSystem" []
  let styleName := (← h.textOption options service "style"
    ["decimal", "percent", "currency", "unit"]).getD "decimal"
  let currency <- h.textOption options service "currency" []
  match currency with
  | some c =>
    unless isCurrencyCode c do raiseError .rangeError ("Invalid currency code : " ++ c)
  | none =>
    if styleName == "currency" then throwType "Currency code is required with currency style."
  let currencyDisplay := (← h.textOption options service "currencyDisplay"
    ["code", "symbol", "narrowSymbol", "name"]).getD "symbol"
  let currencySign := (← h.textOption options service "currencySign"
    ["standard", "accounting"]).getD "standard"
  let unit <- h.textOption options service "unit" []
  match unit with
  | some u =>
    unless isKnownUnit u do
      raiseError .rangeError ("Invalid unit argument for Intl.NumberFormat() '" ++ u ++ "'")
  | none =>
    if styleName == "unit" then throwType "Unit is required with unit style."
  let unitDisplay := (← h.textOption options service "unitDisplay"
    ["short", "narrow", "long"]).getD "short"
  let style : NumberStyle := match styleName with
    | "percent" => .percent
    | "currency" => .currency ((currency.getD "").toUpper) currencyDisplay (currencySign == "accounting")
    | "unit" => .unit (unit.getD "") unitDisplay
    | _ => .decimal
  let (minDefault, maxDefault) := match style with
    | .currency code _ _ => (currencyDigits code, currencyDigits code)
    | .percent => (0, 0)
    | _ => (0, 3)
  let notationName := (← h.textOption options service "notation"
    ["standard", "scientific", "engineering", "compact"]).getD "standard"
  let digits <- h.digitOptions options minDefault maxDefault (notationName == "compact")
  let compactDisplay := (<- h.textOption options service "compactDisplay" ["short", "long"]).getD "short"
  let grouping <- match <- h.rawOption options "useGrouping" with
    | .undefined => pure (if notationName == "compact" then Grouping.min2 else .auto)
    | .bool true => pure .always
    | v =>
      if !v.truthy then pure .never
      else match <- h.toStr v with
        | "min2" => pure .min2
        | "auto" => pure .auto
        | "always" => pure .always
        | "true" | "false" => pure (if notationName == "compact" then Grouping.min2 else .auto)
        | other => raiseError .rangeError ("Value " ++ other ++
            " out of range for Intl.NumberFormat options property useGrouping")
  let sign := match (← h.textOption options service "signDisplay"
      ["auto", "never", "always", "exceptZero", "negative"]).getD "auto" with
    | "never" => SignDisplay.never
    | "always" => .always
    | "exceptZero" => .exceptZero
    | "negative" => .negative
    | _ => .auto
  let layout : Layout := if notationName == "compact" then .compact (compactDisplay == "long")
    else .standard
  pure { locale, style, digits, grouping, layout, sign }

/-- The quantity a value to format stands for: integers keep every digit, other values are
converted to numbers. -/
def Host.amountOf (h : Host) (v : Value) : Eval Amount := do
  match <- h.toNumeric v with
  | .bigint n => pure (Amount.ofInt n)
  | .num x => pure (Amount.ofFloat x)
  | _ => pure .notANumber

/-- The number format of `this`. -/
def thisNumberFormat (this : Value) (method : String) : Eval NumberFormat := do
  match this with
  | .obj r => match (<- getObj r).kind with
    | .numberFormat f => pure f
    | _ => throwType ("Method Intl.NumberFormat.prototype." ++ method ++
        " called on incompatible receiver " ++ (<- describeValue this))
  | _ => throwType ("Method Intl.NumberFormat.prototype." ++ method ++
      " called on incompatible receiver " ++ (<- describeValue this))

/-- `Intl.NumberFormat(locales, options)`, with or without `new`. -/
def numberFormatCtor : NativeFn := fun h _ args nt => do
  let f <- h.numberFormatOf (argAt args 0) (argAt args 1)
  let proto <- h.protoFor nt (<- intrinsics).numberFormatProto
  pure (.obj (<- alloc { kind := .numberFormat f, proto := some proto }))

/-- The function `format` gives: it writes its argument with the format it is bound to. -/
def numberFormatBoundFormat : NativeFn := fun h _ args _ => do
  let f <- thisNumberFormat (argAt args 0) "format"
  pure (.str (f.formatAmount (<- h.amountOf (argAt args 1))))

/-- The getter `format`: a function bound to this format. -/
def numberFormatFormat : NativeFn := fun _ this _ _ => do
  let _ <- thisNumberFormat this "format"
  let fn <- newFunction (.bound (<- intrinsics).numberFormatFn .undefined [this]) "" 1
  pure (.obj fn)

/-- The name of a grouping as `resolvedOptions` gives it. -/
def groupingValue : Grouping -> Value
  | .auto => .str "auto"
  | .always => .str "always"
  | .min2 => .str "min2"
  | .never => .bool false

/-- `resolvedOptions()`: the settings of the format, in the order the language lists them. -/
def numberFormatResolvedOptions : NativeFn := fun _ this _ _ => do
  let f <- thisNumberFormat this "resolvedOptions"
  let num (n : Nat) : Value := .num n.toFloat
  let styleEntries : List (String × Value) := match f.style with
    | .decimal => [("style", .str "decimal")]
    | .percent => [("style", .str "percent")]
    | .currency code display accounting =>
      [("style", .str "currency"), ("currency", .str code), ("currencyDisplay", .str display),
       ("currencySign", .str (if accounting then "accounting" else "standard"))]
    | .unit u display => [("style", .str "unit"), ("unit", .str u), ("unitDisplay", .str display)]
  let d := f.digits
  let fractionEntries := [("minimumFractionDigits", num d.minFraction),
    ("maximumFractionDigits", num d.maxFraction)]
  let significantEntries := [("minimumSignificantDigits", num d.minSignificant),
    ("maximumSignificantDigits", num d.maxSignificant)]
  let digitEntries := match d.rounding with
    | .fractionDigits => fractionEntries
    | .significantDigits => significantEntries
    | _ => fractionEntries ++ significantEntries
  let layoutEntries : List (String × Value) := match f.layout with
    | .standard => [("notation", .str "standard")]
    | .compact long => [("notation", .str "compact"),
        ("compactDisplay", .str (if long then "long" else "short"))]
  let priority := match d.rounding with
    | .morePrecision => "morePrecision"
    | .lessPrecision => "lessPrecision"
    | _ => "auto"
  let entries : List (String × Value) :=
    [("locale", .str f.locale), ("numberingSystem", .str "latn")] ++ styleEntries ++
    [("minimumIntegerDigits", num d.minInteger)] ++ digitEntries ++
    [("useGrouping", groupingValue f.grouping)] ++ layoutEntries ++
    [("signDisplay", .str f.sign.name), ("roundingIncrement", num 1),
     ("roundingMode", .str "halfExpand"), ("roundingPriority", .str priority),
     ("trailingZeroDisplay", .str "auto")]
  let o <- newObject
  for (k, v) in entries do defineData o k v true true true
  pure (.obj o)

/-- `supportedLocalesOf(locales)`: the requested locales the services know. -/
def intlSupportedLocalesOf : NativeFn := fun h _ args _ => do
  let tags <- h.requestedLocales (argAt args 0)
  newArray ((tags.filter fun t => knownLanguages.contains (languageOf t)).map Value.str).toArray

/-- `Intl.getCanonicalLocales(locales)`. -/
def intlGetCanonicalLocales : NativeFn := fun h _ args _ => do
  newArray ((<- h.requestedLocales (argAt args 0)).map Value.str).toArray

/-! ## `toLocaleString` -/

/-- `Number.prototype.toLocaleString(locales, options)`. -/
def numberToLocaleString : NativeFn := fun h this args _ => do
  let x <- thisNumber this "toLocaleString"
  let f <- h.numberFormatOf (argAt args 0) (argAt args 1)
  pure (.str (f.format x))

/-- `BigInt.prototype.toLocaleString(locales, options)`: every digit kept. -/
def bigintToLocaleString : NativeFn := fun h this args _ => do
  let n <- thisBigInt this "toLocaleString"
  let f <- h.numberFormatOf (argAt args 0) (argAt args 1)
  pure (.str (f.formatAmount (Amount.ofInt n)))

/-- `Array.prototype.toLocaleString(locales, options)`: the items' own `toLocaleString` with the
same arguments, joined by commas; `undefined`, `null`, holes are empty. -/
def arrayToLocaleString : NativeFn := fun h this args _ => do
  let items <- h.itemsOf this
  let mut parts : Array String := #[]
  for x in items do
    match x with
    | none | some .undefined | some .null => parts := parts.push ""
    | some v =>
      let m <- h.get v "toLocaleString"
      unless <- isCallable m do throwType ((<- describeValue m) ++ " is not a function")
      parts := parts.push (<- h.toStr (<- h.call m v [argAt args 0, argAt args 1]))
  pure (.str (",".intercalate parts.toList))

/-! ## Collators -/

/-- The collator of `this`. -/
def thisCollator (this : Value) (method : String) :
    Eval (String × String × Unicode.CollationOptions) := do
  match this with
  | .obj r => match (<- getObj r).kind with
    | .collator locale usage o => pure (locale, usage, o)
    | _ => throwType ("Method Intl.Collator.prototype." ++ method ++
        " called on incompatible receiver " ++ (<- describeValue this))
  | _ => throwType ("Method Intl.Collator.prototype." ++ method ++
      " called on incompatible receiver " ++ (<- describeValue this))

/-- The collator a `locales` argument and an options object ask for: its locale, its usage and
its settings, the options read in the order the language fixes. -/
def Host.collatorOf (h : Host) (locales options : Value) :
    Eval (String × String × Unicode.CollationOptions) := do
  let service := "Intl.Collator"
  let locale <- h.resolveLocale locales
  let options <- optionsOf options
  let usage := (<- h.textOption options service "usage" ["sort", "search"]).getD "sort"
  let _ <- h.textOption options service "localeMatcher" ["lookup", "best fit"]
  let _ <- h.textOption options service "collation" []
  let numeric := (<- h.flagOption options "numeric").getD false
  let caseFirst := (<- h.textOption options service "caseFirst" ["upper", "lower", "false"]).getD "false"
  let sensitivity ← match (← h.textOption options service "sensitivity"
      ["base", "accent", "case", "variant"]).getD "variant" with
    | "base" => pure Unicode.Sensitivity.base
    | "accent" => pure .accent
    | "case" => pure .case
    | _ => pure .variant
  let ignorePunctuation := (<- h.flagOption options "ignorePunctuation").getD false
  pure (locale, usage, { sensitivity, numeric, upperFirst := caseFirst == "upper", ignorePunctuation,
                         language := languageOf locale })

/-- `Intl.Collator(locales, options)`, with or without `new`. -/
def collatorCtor : NativeFn := fun h _ args nt => do
  let (locale, usage, o) <- h.collatorOf (argAt args 0) (argAt args 1)
  let proto <- h.protoFor nt (<- intrinsics).collatorProto
  pure (.obj (<- alloc { kind := .collator locale usage o, proto := some proto }))

/-- -1, 0 or 1 as a text sorts before, with or after another. -/
def collationNumber (o : Unicode.CollationOptions) (s t : String) : Value :=
  .num (match Unicode.collate o s t with
    | .lt => -1
    | .eq => 0
    | .gt => 1)

/-- `localeCompare(that, locales, options)`: compares as a collator made with the same
arguments does. -/
def stringLocaleCompare : NativeFn := fun h this args _ => do
  let s <- h.thisText this "localeCompare"
  let t <- h.toStr (argAt args 0)
  let (_, _, o) <- h.collatorOf (argAt args 1) (argAt args 2)
  pure (collationNumber o s t)

/-- The function `compare` gives: -1, 0 or 1 as its first argument sorts before, with or after
its second. -/
def collatorBoundCompare : NativeFn := fun h _ args _ => do
  let (_, _, o) <- thisCollator (argAt args 0) "compare"
  let s <- h.toStr (argAt args 1)
  let t <- h.toStr (argAt args 2)
  pure (collationNumber o s t)

/-- The getter `compare`: a function bound to this collator. -/
def collatorCompare : NativeFn := fun _ this _ _ => do
  let _ <- thisCollator this "compare"
  let fn <- newFunction (.bound (<- intrinsics).collatorCompareFn .undefined [this]) "" 2
  pure (.obj fn)

/-- The name of a sensitivity. -/
def sensitivityName : Unicode.Sensitivity -> String
  | .base => "base"
  | .accent => "accent"
  | .case => "case"
  | .variant => "variant"

/-- `resolvedOptions()` of a collator. -/
def collatorResolvedOptions : NativeFn := fun _ this _ _ => do
  let (locale, usage, opts) <- thisCollator this "resolvedOptions"
  let entries : List (String × Value) :=
    [("locale", .str locale), ("usage", .str usage), ("sensitivity", .str (sensitivityName opts.sensitivity)),
     ("ignorePunctuation", .bool opts.ignorePunctuation), ("collation", .str "default"),
     ("numeric", .bool opts.numeric), ("caseFirst", .str (if opts.upperFirst then "upper" else "false"))]
  let o <- newObject
  for (k, v) in entries do defineData o k v true true true
  pure (.obj o)

/-! ## Segmenters -/

/-- The segmenter of `this`: its locale and granularity. -/
def thisSegmenter (this : Value) (method : String) : Eval (String × String) := do
  match this with
  | .obj r => match (<- getObj r).kind with
    | .segmenter locale granularity => pure (locale, granularity)
    | _ => throwType ("Method Intl.Segmenter.prototype." ++ method ++
        " called on incompatible receiver " ++ (<- describeValue this))
  | _ => throwType ("Method Intl.Segmenter.prototype." ++ method ++
      " called on incompatible receiver " ++ (<- describeValue this))

/-- `new Intl.Segmenter(locales, options)`. -/
def segmenterCtor : NativeFn := fun h _ args nt => do
  let some _ := nt | throwType "Constructor Intl.Segmenter requires 'new'"
  let service := "Intl.Segmenter"
  let locale <- h.resolveLocale (argAt args 0)
  let options <- optionsOf (argAt args 1)
  let _ <- h.textOption options service "localeMatcher" ["lookup", "best fit"]
  let granularity := (← h.textOption options service "granularity"
    ["grapheme", "word", "sentence"]).getD "grapheme"
  let proto <- h.protoFor nt (<- intrinsics).segmenterProto
  pure (.obj (<- alloc { kind := .segmenter locale granularity, proto := some proto }))

/-- The pieces of a text at a granularity, each with the index of its first code unit. -/
def segmentPieces (granularity text : String) : List (String × Nat) :=
  let cs := text.toList
  let pieces := match granularity with
    | "word" => Unicode.words cs
    | "sentence" => Unicode.sentences cs
    | _ => Unicode.graphemes cs
  let (_, out) := pieces.foldl (fun (at_, acc) piece =>
    (at_ + (piece.map charWidth).foldr (· + ·) 0, (String.ofList piece, at_) :: acc)) (0, [])
  out.reverse

/-- The object describing one piece: its text, index and input, and for words whether it is
one. -/
def segmentData (granularity text : String) (piece : String × Nat) : Eval Value := do
  let o <- newObject
  defineData o "segment" (.str piece.1) true true true
  defineData o "index" (.num piece.2.toFloat) true true true
  defineData o "input" (.str text) true true true
  if granularity == "word" then
    defineData o "isWordLike" (.bool (Unicode.isWordLike piece.1.toList)) true true true
  pure (.obj o)

/-- `segment(text)`: the pieces of the text, to iterate or search. -/
def segmenterSegment : NativeFn := fun h this args _ => do
  let (_, granularity) <- thisSegmenter this "segment"
  let text <- h.toStr (argAt args 0)
  pure (.obj (← alloc { kind := .segments granularity text,
                        proto := some (<- intrinsics).segmentsProto }))

/-- `resolvedOptions()` of a segmenter. -/
def segmenterResolvedOptions : NativeFn := fun _ this _ _ => do
  let (locale, granularity) <- thisSegmenter this "resolvedOptions"
  let o <- newObject
  defineData o "locale" (.str locale) true true true
  defineData o "granularity" (.str granularity) true true true
  pure (.obj o)

/-- The granularity and text of a `segment` result. -/
def thisSegments (this : Value) (method : String) : Eval (String × String) := do
  match this with
  | .obj r => match (<- getObj r).kind with
    | .segments granularity text => pure (granularity, text)
    | _ => throwType ("Method %Segments.prototype%." ++ method ++
        " called on incompatible receiver " ++ (<- describeValue this))
  | _ => throwType ("Method %Segments.prototype%." ++ method ++
      " called on incompatible receiver " ++ (<- describeValue this))

/-- `containing(index)`: the piece holding a code unit, or `undefined` past the ends. -/
def segmentsContaining : NativeFn := fun h this args _ => do
  let (granularity, text) <- thisSegments this "containing"
  let n <- h.toInteger (argAt args 0)
  let pieces := segmentPieces granularity text
  if n < 0 then return .undefined
  let i := n.toUInt64.toNat
  match pieces.find? fun (piece, start) => start <= i && i < start + (piece.toList.map charWidth).foldr (· + ·) 0 with
  | some piece => segmentData granularity text piece
  | none => pure .undefined

/-- `[Symbol.iterator]()`: the pieces in order. -/
def segmentsIterator : NativeFn := fun _ this _ _ => do
  let (granularity, text) <- thisSegments this "[Symbol.iterator]"
  let items <- (segmentPieces granularity text).mapM (segmentData granularity text)
  newIterator items.toArray "Segmenter String Iterator"

end TranscriptTest.Js
