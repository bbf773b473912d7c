import TranscriptTest.Js.Builtin.Error
import TranscriptTest.Js.DateText

/-!
# `Date`

A date is a time value: milliseconds since 1970-01-01T00:00:00Z, or NaN for an invalid date.
The local time zone is UTC, so local and UTC fields agree. Calendar fields come from the
proleptic Gregorian calendar by the days-from-civil arithmetic; a month out of range carries
into the year. The clock is fixed at 2025-01-01T00:00:00Z, so that runs repeat.
-/

namespace TranscriptTest.Js

/-- Milliseconds in a day. -/
def msPerDay : Int := 86400000

/-- The time value the clock reads. -/
def clockTime : Float := 1735689600000

/-- Days since 1970-01-01 of a civil date (month 1 to 12). -/
def daysFromCivil (y : Int) (m : Nat) (d : Int) : Int :=
  let y := if m <= 2 then y - 1 else y
  let era := y / 400
  let yoe := y - era * 400
  let mp : Int := if m > 2 then m - 3 else m + 9
  let doy := (153 * mp + 2) / 5 + d - 1
  let doe := yoe * 365 + yoe / 4 - yoe / 100 + doy
  era * 146097 + doe - 719468

/-- The civil date (year, month 1 to 12, day) of a day count since 1970-01-01. -/
def civilFromDays (z : Int) : Int × Nat × Nat :=
  let z := z + 719468
  let era := z / 146097
  let doe := z - era * 146097
  let yoe := (doe - doe / 1460 + doe / 36524 - doe / 146096) / 365
  let y := yoe + era * 400
  let doy := doe - (365 * yoe + yoe / 4 - yoe / 100)
  let mp := (5 * doy + 2) / 153
  let d := doy - (153 * mp + 2) / 5 + 1
  let m := if mp < 10 then mp + 3 else mp - 9
  (if m <= 2 then y + 1 else y, m.toNat, d.toNat)

/-- The fields of a valid time value. -/
structure DateFields where
  year : Int
  month : Nat
  day : Nat
  hours : Nat
  minutes : Nat
  seconds : Nat
  millis : Nat
  weekday : Nat

/-- The fields of a time value. -/
def fieldsOf (t : Float) : DateFields :=
  let ms := truncInt t
  let days := ms.fdiv msPerDay
  let rem := (ms - days * msPerDay).toNat
  let (y, m, d) := civilFromDays days
  ⟨y, m - 1, d, rem / 3600000, rem / 60000 % 60, rem / 1000 % 60, rem % 1000,
   ((days + 4) % 7).toNat⟩

/-- A time value from fields; months and days out of range carry. -/
def makeTime (y m d h mi s ms : Float) : Float :=
  if [y, m, d, h, mi, s, ms].any (fun x => x.isNaN || x.isInf) then nan
  else
    let yi := truncInt y
    let mi' := truncInt m
    let ym := yi + mi'.fdiv 12
    let mn := (mi'.emod 12).toNat
    let days := daysFromCivil ym (mn + 1) 1 + truncInt d - 1
    let t := intToFloat days * 86400000 + integerOf h * 3600000 + integerOf mi * 60000 +
      integerOf s * 1000 + integerOf ms
    if t.abs > 8.64e15 then nan else t

/-- Clips a time value to the valid range. -/
def timeClip (t : Float) : Float :=
  if t.isNaN || t.isInf || t.abs > 8.64e15 then nan else integerOf t + 0

/-- Digits of a number, padded with zeros to a width. -/
def padNum (width : Nat) (n : Nat) : String :=
  let s := toString n
  String.ofList (List.replicate (width - s.length) '0') ++ s

/-- The year as ISO text: four digits, or six with a sign outside 0 to 9999. -/
def isoYear (y : Int) : String :=
  if 0 <= y && y <= 9999 then padNum 4 y.toNat
  else (if y < 0 then "-" else "+") ++ padNum 6 y.natAbs

/-- Abbreviated day names, Sunday first. -/
def dayNames : List String := ["Sun", "Mon", "Tue", "Wed", "Thu", "Fri", "Sat"]

/-- Abbreviated month names. -/
def monthNames : List String :=
  ["Jan", "Feb", "Mar", "Apr", "May", "Jun", "Jul", "Aug", "Sep", "Oct", "Nov", "Dec"]

/-- A year as text in the long forms: at least four digits, with a minus sign in front when
negative. -/
def longYear (y : Int) : String :=
  if y < 0 then "-" ++ padNum 4 y.natAbs else padNum 4 y.toNat

/-- The ISO text of a valid time value. -/
def isoText (t : Float) : String :=
  let f := fieldsOf t
  isoYear f.year ++ "-" ++ padNum 2 (f.month + 1) ++ "-" ++ padNum 2 f.day ++ "T" ++
    padNum 2 f.hours ++ ":" ++ padNum 2 f.minutes ++ ":" ++ padNum 2 f.seconds ++ "." ++
    padNum 3 f.millis ++ "Z"

/-- The date part of the long text: `Thu Jan 01 1970`. -/
def dateText (t : Float) : String :=
  let f := fieldsOf t
  dayNames.getD f.weekday "" ++ " " ++ monthNames.getD f.month "" ++ " " ++ padNum 2 f.day ++ " " ++
    longYear f.year

/-- The time part of the long text. -/
def timeText (t : Float) : String :=
  let f := fieldsOf t
  padNum 2 f.hours ++ ":" ++ padNum 2 f.minutes ++ ":" ++ padNum 2 f.seconds ++
    " GMT+0000 (Coordinated Universal Time)"

/-- The long text of a time value. -/
def longText (t : Float) : String :=
  if t.isNaN then "Invalid Date" else dateText t ++ " " ++ timeText t

/-- The UTC text of a time value: `Thu, 01 Jan 1970 00:00:00 GMT`. -/
def utcText (t : Float) : String :=
  if t.isNaN then "Invalid Date"
  else
    let f := fieldsOf t
    dayNames.getD f.weekday "" ++ ", " ++ padNum 2 f.day ++ " " ++ monthNames.getD f.month "" ++ " " ++
      longYear f.year ++ " " ++ padNum 2 f.hours ++ ":" ++ padNum 2 f.minutes ++ ":" ++
      padNum 2 f.seconds ++ " GMT"

/-- The US-English local date and time texts. -/
def localeDateText (t : Float) : String :=
  let f := fieldsOf t
  toString (f.month + 1) ++ "/" ++ toString f.day ++ "/" ++ toString f.year

/-- The US-English local time text. -/
def localeTimeText (t : Float) : String :=
  let f := fieldsOf t
  let h12 := if f.hours % 12 == 0 then 12 else f.hours % 12
  toString h12 ++ ":" ++ padNum 2 f.minutes ++ ":" ++ padNum 2 f.seconds ++
    (if f.hours < 12 then " AM" else " PM")

/-- The time value a date text gives, before clipping: NaN for a text that is no date. -/
def parseDateText (s : String) : Float :=
  match DateText.readDate s with
  | none => nan
  | some d =>
    let days := daysFromCivil d.year (d.month + 1).toNat 1 + d.day - 1
    let ms := days * msPerDay + d.hour * 3600000 + d.minute * 60000 + d.second * 1000 +
      d.millisecond
    match d.offsetSeconds with
    | none => if ms.natAbs > 8640000864000000 then nan else intToFloat ms
    | some off =>
      let ms := ms - off * 1000
      if ms.natAbs > 8640000000000000 then nan else intToFloat ms

/-- The time value `this` holds. -/
def thisTime (this : Value) : Eval Float := do
  match this with
  | .obj r => match (<- getObj r).kind with
    | .date t => pure t
    | _ => throwType "this is not a Date object."
  | _ => throwType "this is not a Date object."

/-- `Date(…)`: with `new`, a date from nothing (the clock), a time value, a text, or fields;
without `new`, the clock's long text. -/
def dateCtor : NativeFn := fun h _ args nt => do
  match nt with
  | none => pure (.str (longText clockTime))
  | some _ =>
    let t <- match args with
      | [] => pure clockTime
      | [v] =>
        let v <- match v with
          | .obj r => match (<- getObj r).kind with
            | .date t => pure (Value.num t)
            | _ => h.toPrimitive v .default
          | _ => pure v
        match v with
        | .str s => pure (timeClip (parseDateText s))
        | v => pure (timeClip v.primitiveNumber)
      | _ =>
        let ns <- args.mapM h.toNum
        let get (i : Nat) (d : Float) : Float := ns.getD i d
        let y := get 0 nan
        let y := if !y.isNaN && 0 <= integerOf y && integerOf y <= 99 then 1900 + integerOf y else y
        pure (makeTime y (get 1 0) (get 2 1) (get 3 0) (get 4 0) (get 5 0) (get 6 0))
    let proto <- h.protoFor nt (<- intrinsics).dateProto
    let ref <- alloc { kind := .date t, proto := some proto }
    pure (.obj ref)

/-- `Date.now`. -/
def dateNow : NativeFn := fun _ _ _ _ => pure (.num clockTime)

/-- `Date.parse`. -/
def dateParse : NativeFn := fun h _ args _ => do
  pure (.num (parseDateText (<- h.toStr (argAt args 0))))

/-- `Date.UTC`. -/
def dateUTC : NativeFn := fun h _ args _ => do
  let ns <- args.mapM h.toNum
  let get (i : Nat) (d : Float) : Float := ns.getD i d
  let y := get 0 nan
  let y := if !y.isNaN && 0 <= integerOf y && integerOf y <= 99 then 1900 + integerOf y else y
  pure (.num (makeTime y (get 1 0) (get 2 1) (get 3 0) (get 4 0) (get 5 0) (get 6 0)))

/-- A date method reading one field of a valid date; NaN for an invalid one. -/
def dateField (f : DateFields → Float) : NativeFn := fun _ this _ _ => do
  let t <- thisTime this
  pure (.num (if t.isNaN then nan else f (fieldsOf t)))

/-- `getTime` and `valueOf`. -/
def dateGetTime : NativeFn := fun _ this _ _ => do
  pure (.num (<- thisTime this))

/-- `getTimezoneOffset`. -/
def dateTimezoneOffset : NativeFn := fun _ this _ _ => do
  let t <- thisTime this
  pure (.num (if t.isNaN then nan else 0))

/-- A date method giving a text of a valid date. -/
def dateText' (f : Float → String) : NativeFn := fun _ this _ _ => do
  let t <- thisTime this
  pure (.str (if t.isNaN then "Invalid Date" else f t))

/-- `toISOString`. -/
def dateToISOString : NativeFn := fun _ this _ _ => do
  let t <- thisTime this
  if t.isNaN then raiseError .rangeError "Invalid time value"
  pure (.str (isoText t))

/-- `toJSON`. -/
def dateToJSON : NativeFn := fun h this _ _ => do
  let tv <- h.toPrimitive this .number
  match tv with
  | .num x => if x.isNaN || x.isInf then return .null
  | _ => pure ()
  h.call (<- h.get this "toISOString") this []

/-- `setTime`. -/
def dateSetTime : NativeFn := fun h this args _ => do
  let _ <- thisTime this
  let t := timeClip (<- h.toNum (argAt args 0))
  match this with
  | .obj r => modifyObj r fun o => { o with kind := .date t }
  | _ => pure ()
  pure (.num t)

/-- A setter of some fields: `which` picks the first field set (0 year … 6 milliseconds), and
the arguments give it and the fields after it. -/
def dateSetFields (which : Nat) : NativeFn := fun h this args _ => do
  let t <- thisTime this
  let t := if t.isNaN && which == 0 then 0 else t
  if t.isNaN then return .num nan
  let f := fieldsOf t
  let current : List Float := [intToFloat f.year, f.month.toFloat, f.day.toFloat, f.hours.toFloat,
    f.minutes.toFloat, f.seconds.toFloat, f.millis.toFloat]
  let given <- args.mapM h.toNum
  let maxCount := match which with
    | 0 => 3
    | 1 => 2
    | 2 => 1
    | 3 => 4
    | 4 => 3
    | 5 => 2
    | _ => 1
  let given := given.take maxCount
  let fields := current.mapIdx fun i x =>
    if which <= i && i < which + given.length then given.getD (i - which) x else x
  let t := makeTime (fields.getD 0 0) (fields.getD 1 0) (fields.getD 2 1) (fields.getD 3 0)
    (fields.getD 4 0) (fields.getD 5 0) (fields.getD 6 0)
  match this with
  | .obj r => modifyObj r fun o => { o with kind := .date t }
  | _ => pure ()
  pure (.num t)

/-- `Date.prototype.setYear(year)`: a year from 0 to 99 counts from 1900; the month, day and
time of day stay. -/
def dateSetYear : NativeFn := fun h this args _ => do
  let t <- thisTime this
  let t := if t.isNaN then 0 else t
  let y <- h.toNum (argAt args 0)
  let result :=
    if y.isNaN then nan
    else
      let whole := if y < 0 then -((-y).floor) else y.floor
      let full := if 0 <= whole && whole <= 99 then 1900 + whole else y
      let f := fieldsOf t
      makeTime full f.month.toFloat f.day.toFloat f.hours.toFloat f.minutes.toFloat
        f.seconds.toFloat f.millis.toFloat
  match this with
  | .obj r => modifyObj r fun o => { o with kind := .date result }
  | _ => pure ()
  pure (.num result)

end TranscriptTest.Js
