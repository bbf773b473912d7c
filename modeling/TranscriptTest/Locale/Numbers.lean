import TranscriptTest.Decimal.Shortest

/-!
# Numbers as locales write them

The rules behind `toLocaleString` and `Intl.NumberFormat`. A number is taken as the shortest
decimal that reads back as the same double, and rounded in exact decimal arithmetic, half away
from zero: either to a number of fraction digits, or to a number of significant digits, or to
whichever of the two keeps more precision. The digits are then grouped, given a sign, and
wrapped in the locale's signs for percentages, currencies, units and compact magnitudes.
-/

namespace TranscriptTest.Locale

open TranscriptTest.Decimal

/-- How a locale writes numbers. -/
structure NumberSymbols where
  decimal : String := "."
  group : String := ","
  /-- Digits are grouped only when the highest group would have at least this many. -/
  minGrouping : Nat := 1
  /-- Groups above the first have two digits (`12,34,567`). -/
  indian : Bool := false
  minus : String := "-"
  /-- The percent sign with the space before it, and whether it comes before the number. -/
  percentSign : String := "%"
  percentBefore : Bool := false
  /-- Whether a currency comes after the number, and the space between the two. -/
  currencyAfter : Bool := false
  currencySpace : String := ""
  deriving Inhabited

/-- The no-break space and the narrow no-break space. -/
def nbsp : String := " "
def narrowNbsp : String := " "

/-- The languages with their own way of writing numbers; the others write them as English. -/
def languageSymbols : List (String × NumberSymbols) :=
  [("de", { decimal := ",", group := ".", percentSign := nbsp ++ "%", currencyAfter := true,
            currencySpace := nbsp }),
   ("fr", { decimal := ",", group := narrowNbsp, percentSign := narrowNbsp ++ "%",
            currencyAfter := true, currencySpace := nbsp }),
   ("es", { decimal := ",", group := ".", minGrouping := 2, percentSign := nbsp ++ "%",
            currencyAfter := true, currencySpace := nbsp }),
   ("it", { decimal := ",", group := ".", currencyAfter := true, currencySpace := nbsp }),
   ("pt", { decimal := ",", group := ".", currencySpace := nbsp }),
   ("nl", { decimal := ",", group := ".", currencySpace := nbsp }),
   ("ru", { decimal := ",", group := nbsp, percentSign := nbsp ++ "%", currencyAfter := true,
            currencySpace := nbsp }),
   ("uk", { decimal := ",", group := nbsp, currencyAfter := true, currencySpace := nbsp }),
   ("pl", { decimal := ",", group := nbsp, minGrouping := 2, currencyAfter := true,
            currencySpace := nbsp }),
   ("cs", { decimal := ",", group := nbsp, percentSign := nbsp ++ "%", currencyAfter := true,
            currencySpace := nbsp }),
   ("sv", { decimal := ",", group := nbsp, minus := "\u2212", percentSign := nbsp ++ "%",
            currencyAfter := true, currencySpace := nbsp }),
   ("nb", { decimal := ",", group := nbsp, minus := "\u2212", percentSign := nbsp ++ "%",
            currencyAfter := true, currencySpace := nbsp }),
   ("fi", { decimal := ",", group := nbsp, minus := "\u2212", percentSign := nbsp ++ "%",
            currencyAfter := true, currencySpace := nbsp }),
   ("da", { decimal := ",", group := ".", percentSign := nbsp ++ "%", currencyAfter := true,
            currencySpace := nbsp }),
   ("tr", { decimal := ",", group := ".", percentBefore := true, currencySpace := "" }),
   ("hi", { indian := true })]

/-- The regions that write numbers otherwise than their language. -/
def regionSymbols : List (String × NumberSymbols) :=
  [("en-IN", { indian := true }),
   ("de-CH", { group := "\u2019", currencySpace := nbsp }),
   ("de-AT", { decimal := ",", group := nbsp, percentSign := nbsp ++ "%", currencySpace := nbsp }),
   ("pt-PT", { decimal := ",", group := nbsp, minGrouping := 2, currencyAfter := true,
               currencySpace := nbsp }),
   ("es-MX", { percentSign := nbsp ++ "%" }),
   ("es-US", { percentSign := nbsp ++ "%" })]

/-- The language of a locale tag: what stands before its first `-`. -/
def languageOf (tag : String) : String :=
  (tag.splitOn "-").headD tag

/-- How a locale writes numbers. -/
def NumberSymbols.forLocale (tag : String) : NumberSymbols :=
  match regionSymbols.lookup tag with
  | some s => s
  | none => (languageSymbols.lookup (languageOf tag)).getD {}

/-! ## Rounding -/

/-- A number rounded for writing: its integer digits, its fraction digits, and the place of its
last kept digit (`-2` for hundredths), which says how precise it is. -/
structure Rounded where
  whole : String
  fraction : String
  magnitude : Int
  deriving Inhabited

/-- `digits · 10^exp` rounded to `places` fraction digits (fewer than none rounds to tens,
hundreds, ...), half away from zero: the result counts units of `10^(-places)`. -/
def roundTo (digits : Nat) (exp : Int) (places : Int) : Nat :=
  let shift := exp + places
  if shift >= 0 then digits * Nat.pow 10 shift.toNat
  else
    let unit := Nat.pow 10 (-shift).toNat
    let q := digits / unit
    if 2 * (digits % unit) >= unit then q + 1 else q

/-- Drops trailing zeros of fraction digits, at most `cut` of them. -/
def trimZeros (fraction : String) (cut : Nat) : String :=
  let cs := fraction.toList.reverse
  let zeros := (cs.takeWhile (· == '0')).length
  String.ofList (cs.drop (Nat.min zeros cut)).reverse

/-- Splits `n` units of `10^(-places)` into integer and fraction digits. -/
def splitUnits (n : Nat) (places : Nat) : String × String :=
  let text := toString n
  let text := if text.length <= places then String.ofList (List.replicate (places + 1 - text.length) '0') ++ text
    else text
  (String.ofList (text.toList.take (text.length - places)), String.ofList (text.toList.drop (text.length - places)))

/-- Rounds to between `minF` and `maxF` fraction digits. -/
def roundFixed (d : Decimal) (minF maxF : Nat) : Rounded :=
  let n := roundTo d.digits d.exponent maxF
  let (whole, fraction) := splitUnits n maxF
  ⟨whole, trimZeros fraction (maxF - minF), -(maxF : Int)⟩

/-- The place of the first digit of a non-zero decimal: `0` for units, `-1` for tenths. -/
def leadingPlace (d : Decimal) : Int :=
  ((toString d.digits).length : Int) - 1 + d.exponent

/-- Rounds to between `minP` and `maxP` significant digits. -/
def roundPrecision (d : Decimal) (minP maxP : Nat) : Rounded :=
  if d.digits == 0 then
    let fraction := trimZeros (String.ofList (List.replicate (maxP - 1) '0')) (maxP - minP)
    ⟨"0", fraction, -((maxP : Int) - 1)⟩
  else
    let e := leadingPlace d
    let places : Int := (maxP : Int) - 1 - e
    let n := roundTo d.digits d.exponent places
    -- rounding up may carry into a new leading digit
    let (n, places) := if (toString n).length > maxP then (n / 10, places - 1) else (n, places)
    if places <= 0 then ⟨toString (n * Nat.pow 10 (-places).toNat), "", -places⟩
    else
      let (whole, fraction) := splitUnits n places.toNat
      ⟨whole, trimZeros fraction (maxP - minP), -places⟩

/-- How digits are rounded: by fraction digits, by significant digits, or by whichever of the
two is more (`morePrecision`) or less precise. -/
inductive RoundingKind where
  | fractionDigits
  | significantDigits
  | morePrecision
  | lessPrecision
  deriving Inhabited, BEq

/-- The digit settings of a format. -/
structure DigitOptions where
  minInteger : Nat := 1
  minFraction : Nat := 0
  maxFraction : Nat := 3
  minSignificant : Nat := 1
  maxSignificant : Nat := 21
  rounding : RoundingKind := .fractionDigits
  deriving Inhabited

/-- Rounds a non-negative decimal as the settings say, then pads the integer digits. -/
def DigitOptions.round (o : DigitOptions) (d : Decimal) : Rounded :=
  let fixed := roundFixed d o.minFraction o.maxFraction
  let precise := roundPrecision d o.minSignificant o.maxSignificant
  let r := match o.rounding with
    | .fractionDigits => fixed
    | .significantDigits => precise
    | .morePrecision => if precise.magnitude <= fixed.magnitude then precise else fixed
    | .lessPrecision => if precise.magnitude <= fixed.magnitude then fixed else precise
  let pad := o.minInteger - r.whole.length
  { r with whole := String.ofList (List.replicate pad '0') ++ r.whole }

/-! ## Grouping -/

/-- When digits are grouped: as the locale says, always, only with at least two digits in the
highest group, or never. -/
inductive Grouping where
  | auto
  | always
  | min2
  | never
  deriving Inhabited, BEq

/-- Groups integer digits by threes (or as the locale groups them). -/
def groupDigits (s : NumberSymbols) (how : Grouping) (whole : String) : String :=
  let minGroup := match how with
    | .auto => s.minGrouping
    | .always => 1
    | .min2 => 2
    | .never => whole.length
  if how == .never || whole.length < 3 + minGroup then whole
  else
    let cs := whole.toList
    let last := cs.drop (cs.length - 3)
    let rest := cs.take (cs.length - 3)
    let size := if s.indian then 2 else 3
    let rec chunks : Nat -> List Char -> List (List Char)
      | 0, xs => [xs]
      | fuel + 1, xs =>
        if xs.length <= size then [xs]
        else chunks fuel (xs.take (xs.length - size)) ++ [xs.drop (xs.length - size)]
    let groups := chunks rest.length rest ++ [last]
    s.group.intercalate (groups.map String.ofList)

/-! ## Compact notation -/

/-- The short or long words of compact notation for a locale: for each power of ten from a
thousand on, what follows the number (empty when the number stays whole). -/
def compactWords (language : String) (long : Bool) : List (Nat × String) :=
  match language, long with
  | "de", false => [(6, nbsp ++ "Mio."), (9, nbsp ++ "Mrd."), (12, nbsp ++ "Bio.")]
  | "de", true => [(3, " Tausend"), (6, " Millionen"), (9, " Milliarden"), (12, " Billionen")]
  | "fr", false => [(3, nbsp ++ "k"), (6, nbsp ++ "M"), (9, nbsp ++ "Md"), (12, nbsp ++ "Bn")]
  | "fr", true => [(3, " mille"), (6, " millions"), (9, " milliards"), (12, " billions")]
  | _, false => [(3, "K"), (6, "M"), (9, "B"), (12, "T")]
  | _, true => [(3, " thousand"), (6, " million"), (9, " billion"), (12, " trillion")]

/-- The power of ten a compact number is counted in, and its word: the largest listed power
whose group of three the number reaches. -/
def compactPower (words : List (Nat × String)) (leading : Int) : Nat × String :=
  let group := if leading < 3 then 0 else (leading.toNat / 3) * 3
  let fits := words.filter fun (p, _) => p <= group
  match fits.getLast? with
  | some (p, w) => if p + 3 > group || p == 12 then (p, w) else (0, "")
  | none => (0, "")

/-- A decimal divided by a power of ten. -/
def shiftPlaces (d : Decimal) (k : Int) : Decimal := { d with exponent := d.exponent + k }

/-! ## The whole number -/

/-- When a sign is written. -/
inductive SignDisplay where
  | auto
  | always
  | exceptZero
  | negative
  | never
  deriving Inhabited, BEq

/-- What a number stands for: a plain number, a percentage, an amount of a currency, or a
measure in a unit. -/
inductive NumberStyle where
  | decimal
  | percent
  | currency (code : String) (display : String) (accounting : Bool)
  | unit (name : String) (display : String)
  deriving Inhabited

/-- Whether the number is written in full or in compact notation (`1.2M`). -/
inductive Layout where
  | standard
  | compact (long : Bool)
  deriving Inhabited

/-- The name of a sign display. -/
def SignDisplay.name : SignDisplay -> String
  | .auto => "auto"
  | .always => "always"
  | .exceptZero => "exceptZero"
  | .negative => "negative"
  | .never => "never"

/-- Everything a number format settles. -/
structure NumberFormat where
  locale : String := "en-US"
  style : NumberStyle := .decimal
  digits : DigitOptions := {}
  grouping : Grouping := .auto
  layout : Layout := .standard
  sign : SignDisplay := .auto
  deriving Inhabited

/-- The symbols of currencies in English, and the digits they are written with. -/
def currencySymbols : List (String × String × Nat) :=
  [("USD", "$", 2), ("EUR", "€", 2), ("GBP", "£", 2), ("JPY", "¥", 0), ("INR", "₹", 2),
   ("CNY", "CN¥", 2), ("KRW", "₩", 0), ("CAD", "CA$", 2), ("AUD", "A$", 2), ("MXN", "MX$", 2),
   ("BRL", "R$", 2), ("HKD", "HK$", 2), ("NZD", "NZ$", 2), ("ILS", "₪", 2), ("VND", "₫", 0),
   ("TWD", "NT$", 2), ("XAF", "FCFA", 0), ("CLP", "CLP", 0), ("ISK", "ISK", 0)]

/-- The English names of currencies, one and many. -/
def currencyNames : List (String × String × String) :=
  [("USD", "US dollar", "US dollars"), ("EUR", "euro", "euros"),
   ("GBP", "British pound", "British pounds"), ("JPY", "Japanese yen", "Japanese yen"),
   ("INR", "Indian rupee", "Indian rupees"), ("CNY", "Chinese yuan", "Chinese yuan"),
   ("CAD", "Canadian dollar", "Canadian dollars"), ("AUD", "Australian dollar", "Australian dollars"),
   ("CHF", "Swiss franc", "Swiss francs"), ("MXN", "Mexican peso", "Mexican pesos")]

/-- How many fraction digits a currency is written with. -/
def currencyDigits (code : String) : Nat :=
  match currencySymbols.find? (·.1 == code) with
  | some (_, _, n) => n
  | none => 2

/-- The symbol of a currency in a locale. -/
def currencySymbol (locale code : String) (narrow : Bool) : String :=
  let language := languageOf locale
  if narrow then
    match code with
    | "USD" | "CAD" | "AUD" | "MXN" | "HKD" | "NZD" | "TWD" => "$"
    | "JPY" | "CNY" => "¥"
    | _ => match currencySymbols.find? (·.1 == code) with
      | some (_, s, _) => s
      | none => code
  else if language == "ja" && code == "JPY" then "￥"
  else if language == "zh" && code == "CNY" then "¥"
  else if language != "en" && code == "USD" then
    (if language == "fr" then "$US" else if language == "es" then "US$" else "$")
  else if locale == "en-CA" && code == "CAD" then "$"
  else if locale == "en-AU" && code == "AUD" then "$"
  else if locale == "en-IN" && code == "INR" then "₹"
  else match currencySymbols.find? (·.1 == code) with
    | some (_, s, _) => s
    | none => code

/-- The English words of units: short, long for one and for many, and narrow; `@` marks where
the number goes. -/
def unitWords : List (String × String × String × String × String) :=
  [("kilometer-per-hour", "@ km/h", "@ kilometer per hour", "@ kilometers per hour", "@km/h"),
   ("mile-per-hour", "@ mph", "@ mile per hour", "@ miles per hour", "@mph"),
   ("meter-per-second", "@ m/s", "@ meter per second", "@ meters per second", "@m/s"),
   ("meter", "@ m", "@ meter", "@ meters", "@m"),
   ("kilometer", "@ km", "@ kilometer", "@ kilometers", "@km"),
   ("centimeter", "@ cm", "@ centimeter", "@ centimeters", "@cm"),
   ("millimeter", "@ mm", "@ millimeter", "@ millimeters", "@mm"),
   ("mile", "@ mi", "@ mile", "@ miles", "@mi"),
   ("foot", "@ ft", "@ foot", "@ feet", "@′"),
   ("inch", "@ in", "@ inch", "@ inches", "@″"),
   ("yard", "@ yd", "@ yard", "@ yards", "@yd"),
   ("kilogram", "@ kg", "@ kilogram", "@ kilograms", "@kg"),
   ("gram", "@ g", "@ gram", "@ grams", "@g"),
   ("pound", "@ lb", "@ pound", "@ pounds", "@#"),
   ("ounce", "@ oz", "@ ounce", "@ ounces", "@oz"),
   ("liter", "@ L", "@ liter", "@ liters", "@L"),
   ("milliliter", "@ mL", "@ milliliter", "@ milliliters", "@mL"),
   ("gallon", "@ gal", "@ gallon", "@ gallons", "@gal"),
   ("millisecond", "@ ms", "@ millisecond", "@ milliseconds", "@ms"),
   ("second", "@ sec", "@ second", "@ seconds", "@s"),
   ("minute", "@ min", "@ minute", "@ minutes", "@m"),
   ("hour", "@ hr", "@ hour", "@ hours", "@h"),
   ("day", "@ day", "@ day", "@ days", "@d"),
   ("week", "@ wk", "@ week", "@ weeks", "@w"),
   ("month", "@ mth", "@ month", "@ months", "@m"),
   ("year", "@ yr", "@ year", "@ years", "@y"),
   ("bit", "@ bit", "@ bit", "@ bits", "@bit"),
   ("byte", "@ byte", "@ byte", "@ bytes", "@B"),
   ("kilobit", "@ kb", "@ kilobit", "@ kilobits", "@kb"),
   ("kilobyte", "@ kB", "@ kilobyte", "@ kilobytes", "@kB"),
   ("megabit", "@ Mb", "@ megabit", "@ megabits", "@Mb"),
   ("megabyte", "@ MB", "@ megabyte", "@ megabytes", "@MB"),
   ("gigabit", "@ Gb", "@ gigabit", "@ gigabits", "@Gb"),
   ("gigabyte", "@ GB", "@ gigabyte", "@ gigabytes", "@GB"),
   ("terabyte", "@ TB", "@ terabyte", "@ terabytes", "@TB"),
   ("petabyte", "@ PB", "@ petabyte", "@ petabytes", "@PB"),
   ("percent", "@%", "@ percent", "@ percent", "@%"),
   ("celsius", "@°C", "@ degree Celsius", "@ degrees Celsius", "@°C"),
   ("fahrenheit", "@°F", "@ degree Fahrenheit", "@ degrees Fahrenheit", "@°"),
   ("degree", "@ deg", "@ degree", "@ degrees", "@°"),
   ("acre", "@ ac", "@ acre", "@ acres", "@ac"),
   ("hectare", "@ ha", "@ hectare", "@ hectares", "@ha"),
   ("fluid-ounce", "@ fl oz", "@ fluid ounce", "@ fluid ounces", "@fl oz"),
   ("stone", "@ st", "@ stone", "@ stones", "@st")]

/-- The simple units a format accepts. -/
def knownUnits : List String := unitWords.map (·.1)

/-- Whether a unit is one the formats know: a simple unit, or two joined by `-per-`. -/
def isKnownUnit (u : String) : Bool :=
  knownUnits.contains u ||
    match u.splitOn "-per-" with
    | [a, b] => knownUnits.contains a && knownUnits.contains b
    | _ => false

/-- Puts a number into a unit's words. -/
def unitText (u display : String) (number : String) (one : Bool) : String :=
  let fill (pattern : String) : String := pattern.replace "@" number
  match unitWords.find? (·.1 == u) with
  | some (_, short, long1, long, narrow) =>
    match display with
    | "long" => fill (if one then long1 else long)
    | "narrow" => fill narrow
    | _ => fill short
  | none =>
    match u.splitOn "-per-" with
    | [a, b] =>
      let word (x : String) := match unitWords.find? (·.1 == x) with
        | some (_, short, _, _, _) => (short.replace "@ " "").replace "@" ""
        | none => x
      number ++ " " ++ word a ++ "/" ++ word b
    | _ => number ++ " " ++ u

/-- The digits of a number written out: grouped integer digits, then the fraction. -/
def NumberFormat.digitsText (f : NumberFormat) (s : NumberSymbols) (r : Rounded) : String :=
  groupDigits s f.grouping r.whole ++ (if r.fraction.isEmpty then "" else s.decimal ++ r.fraction)

/-- A quantity to write: not a number, an infinity, or a finite magnitude, each with its sign
(zero has one too). -/
inductive Amount where
  | notANumber
  | infinite (negative : Bool)
  | finite (negative : Bool) (magnitude : Decimal)
  deriving Inhabited

/-- The quantity a double stands for: its shortest decimal. -/
def Amount.ofFloat (x : Float) : Amount :=
  if x.isNaN then .notANumber
  else
    let negative := x < 0 || (x == 0 && 1 / x < 0)
    if x.isInf then .infinite negative
    else .finite negative (Decimal.ofFloat (if x < 0 then -x else x))

/-- The quantity an integer stands for, every digit kept. -/
def Amount.ofInt (n : Int) : Amount :=
  .finite (n < 0) ⟨n.natAbs, 0⟩

/-- Whether rounded digits are all zeros. -/
def Rounded.isZero (r : Rounded) : Bool :=
  (r.whole ++ r.fraction).all (· == '0')

/-- Whether rounded digits are exactly one, which English words take in the singular. -/
def Rounded.isOne (r : Rounded) : Bool :=
  r.whole.dropWhile (· == '0') == "1" && r.fraction.isEmpty

/-- A magnitude rounded in compact notation, with its power of ten's word: the power its size
calls for, or the next when rounding carries it there. -/
def NumberFormat.compactRound (f : NumberFormat) (long : Bool) (d : Decimal) : Rounded × String :=
  let words := compactWords (languageOf f.locale) long
  let place (d : Decimal) : Nat × String :=
    if d.digits == 0 then (0, "") else compactPower words (leadingPlace d)
  let (p, w) := place d
  let r := f.digits.round (shiftPlaces d (-(p : Int)))
  let reached : Decimal := ⟨(r.whole ++ r.fraction).toNat!, (p : Int) - r.fraction.length⟩
  let (p', w') := place reached
  if p' != p then (f.digits.round (shiftPlaces d (-(p' : Int))), w') else (r, w)

/-- Writes a quantity as the format says. -/
def NumberFormat.formatAmount (f : NumberFormat) (a : Amount) : String :=
  let s := NumberSymbols.forLocale f.locale
  -- the digits, whether they are zero, and whether they read as one
  let (negative, number, zero, one) : Bool × String × Bool × Bool := match a with
    | .notANumber => (false, "NaN", false, false)
    | .infinite n => (n, "∞", false, false)
    | .finite n d =>
      let d := match f.style with
        | .percent => shiftPlaces d 2
        | _ => d
      match f.layout with
      | .standard =>
        let r := f.digits.round d
        (n, f.digitsText s r, r.isZero, r.isOne)
      | .compact long =>
        let (r, w) := f.compactRound long d
        let grouping := if f.grouping == .auto then .min2 else f.grouping
        (n, { f with grouping := grouping }.digitsText s r ++ w, r.isZero, false)
  let signText := match f.sign with
    | .auto => if negative then s.minus else ""
    | .always => if negative then s.minus else "+"
    | .exceptZero => if zero then "" else if negative then s.minus else "+"
    | .negative => if negative && !zero then s.minus else ""
    | .never => ""
  match f.style with
  | .decimal => signText ++ number
  | .percent =>
    if s.percentBefore then signText ++ s.percentSign ++ number
    else signText ++ number ++ s.percentSign
  | .currency code display accounting =>
    if display == "name" then
      let (single, many) := match currencyNames.find? (·.1 == code) with
        | some (_, a, b) => (a, b)
        | none => (code, code)
      signText ++ number ++ " " ++ (if one then single else many)
    else
      let symbol := match display with
        | "code" => code
        | "narrowSymbol" => currencySymbol f.locale code true
        | _ => currencySymbol f.locale code false
      let alphabetic := symbol.all Char.isAlpha
      let text := if s.currencyAfter then number ++ s.currencySpace ++ symbol
        else symbol ++ (if alphabetic && s.currencySpace.isEmpty then nbsp else s.currencySpace) ++ number
      if accounting && negative && !zero then "(" ++ text ++ ")" else signText ++ text
  | .unit u display => unitText u display (signText ++ number) one

/-- Writes a double as the format says. -/
def NumberFormat.format (f : NumberFormat) (x : Float) : String :=
  f.formatAmount (Amount.ofFloat x)

end TranscriptTest.Locale
