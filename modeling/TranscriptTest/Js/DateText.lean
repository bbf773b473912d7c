/-!
# Reading dates from text

`Date.parse` and `new Date(text)` read the ISO form
`[±YY]YYYY[-MM[-DD]][THH:mm[:ss[.sss]][Z|±hh:mm]]` first. Where the text leaves that form they go
on with a lenient reader of the older forms (`Thu, 01 Jan 1970 00:00:00 GMT`,
`3/7/2020 10:00 PM`, …), keeping what the ISO reader had read.
-/

namespace TranscriptTest.Js.DateText

/-! ## Tokens -/

/-- What a word is. -/
inductive WordKind where
  /-- A month name, 1 to 12. -/
  | month (n : Nat)
  /-- `am` (0) or `pm` (12): hours to add to a 12-hour clock reading. -/
  | meridiem (hours : Nat)
  /-- A time zone name with its offset in hours. -/
  | zone (hours : Int)
  /-- `t`, between an ISO date and its time. -/
  | timeMark
  /-- Any other word. -/
  | other
  deriving BEq, Inhabited

/-- A token of a date text. -/
inductive DateToken where
  /-- A run of digits: the value of its first nine significant digits, and its length. -/
  | number (value : Nat) (length : Nat)
  | symbol (c : Char)
  | blank
  | word (kind : WordKind) (length : Nat)
  /-- Parenthesized text or a character no other token takes. -/
  | other
  deriving BEq, Inhabited

/-- The blanks between words: tab, vertical tab, form feed, space, no-break space, the byte
order mark and the other space separators. -/
def isSpaceChar (c : Char) : Bool :=
  let n := c.toNat
  n == 9 || n == 0xB || n == 0xC || n == 0x20 || n == 0xA0 || n == 0xFEFF || n == 0x1680 ||
    (0x2000 <= n && n <= 0x200A) || n == 0x202F || n == 0x205F || n == 0x3000

/-- Blanks and line terminators. -/
def isBlankChar (c : Char) : Bool :=
  isSpaceChar c || c == '\n' || c == '\r' || c == '\u2028' || c == '\u2029'

/-- Whether a character belongs to a word. -/
def isWordChar (c : Char) : Bool :=
  c.toNat >= 65 && !isSpaceChar c

/-- Whether a character is an ASCII digit. -/
def isDigitChar (c : Char) : Bool :=
  '0' <= c && c <= '9'

/-- The value of decimal digits. -/
def digitsNumber (ds : List Char) : Nat :=
  ds.foldl (fun n d => 10 * n + (d.toNat - 48)) 0

/-- The month names' first letters. -/
def monthPrefixes : List String :=
  ["jan", "feb", "mar", "apr", "may", "jun", "jul", "aug", "sep", "oct", "nov", "dec"]

/-- The whole words that are not months. -/
def exactWords : List (String × WordKind) :=
  [("am", .meridiem 0), ("pm", .meridiem 12), ("ut", .zone 0), ("utc", .zone 0), ("z", .zone 0),
   ("gmt", .zone 0), ("cdt", .zone (-5)), ("cst", .zone (-6)), ("edt", .zone (-4)),
   ("est", .zone (-5)), ("mdt", .zone (-6)), ("mst", .zone (-7)), ("pdt", .zone (-7)),
   ("pst", .zone (-8)), ("t", .timeMark)]

/-- The kind of a word, from its first three characters with the case bit set. -/
def wordKind (word : List Char) : WordKind :=
  let pre := String.ofList ((word.take 3).map fun c => Char.ofNat (c.toNat ||| 0x20))
  match monthPrefixes.findIdx? (· == pre) with
  | some i => .month (i + 1)
  | none =>
    if word.length > 3 then .other
    else match exactWords.find? (·.1 == pre) with
      | some (_, k) => k
      | none => .other

/-- The characters after parenthesized text that starts the list: nesting counts, and the text
runs to the end if it is not closed. -/
def afterParentheses : Nat -> Nat -> List Char -> List Char
  | 0, _, cs => cs
  | _, _, [] => []
  | fuel + 1, depth, c :: rest =>
    let depth := if c == ')' then depth - 1 else if c == '(' then depth + 1 else depth
    if depth > 0 then afterParentheses fuel depth rest else rest

/-- The tokens of a text. -/
def tokens : Nat -> List Char -> List DateToken
  | 0, _ => []
  | _, [] => []
  | fuel + 1, c :: rest =>
    let cs := c :: rest
    if isDigitChar c then
      let ds := cs.takeWhile isDigitChar
      let significant := ds.dropWhile (· == '0')
      .number (digitsNumber (significant.take 9)) ds.length :: tokens fuel (cs.drop ds.length)
    else if c == ':' || c == '-' || c == '+' || c == '.' || c == ')' then
      .symbol c :: tokens fuel rest
    else if isWordChar c then
      let w := cs.takeWhile isWordChar
      .word (wordKind w) w.length :: tokens fuel (cs.drop w.length)
    else if isBlankChar c then .blank :: tokens fuel rest
    else if c == '(' then .other :: tokens fuel (afterParentheses (rest.length + 1) 1 rest)
    else .other :: tokens fuel rest

/-- The tokens of a text, up to its first NUL. -/
def tokenize (s : String) : List DateToken :=
  let cs := s.toList.takeWhile (· != '\x00')
  tokens (cs.length + 1) cs

/-- The value of a number token, zero for others. -/
def DateToken.value : DateToken -> Nat
  | .number v _ => v
  | _ => 0

/-- Whether a token is `+` or `-`. -/
def DateToken.isSign : DateToken -> Bool
  | .symbol c => c == '+' || c == '-'
  | _ => false

/-- Whether a token is the zone word `z`. -/
def DateToken.isZoneZ : DateToken -> Bool
  | .word (.zone 0) 1 => true
  | _ => false

/-! ## The parts of a date -/

/-- Whether a number can be a month. -/
def isMonth (n : Int) : Bool := 1 <= n && n <= 12

/-- Whether a number can be a day of a month. -/
def isDay (n : Int) : Bool := 1 <= n && n <= 31

/-- Whether a number can be an hour. -/
def isHour (n : Int) : Bool := 0 <= n && n <= 23

/-- Whether a number can be a minute or a second. -/
def isMinute (n : Int) : Bool := 0 <= n && n <= 59

/-- Whether a number can be a millisecond. -/
def isMillisecond (n : Int) : Bool := 0 <= n && n <= 999

/-- The date numbers read so far, a month name, and whether the text was ISO. -/
structure DayParts where
  numbers : List Int := []
  namedMonth : Option Nat := none
  iso : Bool := false
  deriving Inhabited

/-- Adds a date number; there is room for three. -/
def DayParts.add (d : DayParts) (n : Int) : Option DayParts :=
  if d.numbers.length >= 3 then none else some { d with numbers := d.numbers ++ [n] }

/-- The time numbers read so far (hour, minute, second, millisecond) and an `am`/`pm`. -/
structure TimeParts where
  numbers : List Int := []
  meridiem : Option Nat := none
  deriving Inhabited

/-- Whether no time number was read. -/
def TimeParts.isEmpty (t : TimeParts) : Bool := t.numbers.isEmpty

/-- Whether a number fits as the next time number after an hour. -/
def TimeParts.expects (t : TimeParts) (n : Int) : Bool :=
  (t.numbers.length == 1 && isMinute n) || (t.numbers.length == 2 && isMinute n) ||
    (t.numbers.length == 3 && isMillisecond n)

/-- Adds a time number; there is room for four. -/
def TimeParts.add (t : TimeParts) (n : Int) : Option TimeParts :=
  if t.numbers.length >= 4 then none else some { t with numbers := t.numbers ++ [n] }

/-- Adds the last time number, the rest being zero. -/
def TimeParts.addFinal (t : TimeParts) (n : Int) : Option TimeParts :=
  (t.add n).map fun t => { t with numbers := t.numbers ++ List.replicate (4 - t.numbers.length) 0 }

/-- The time zone read so far: a sign and absolute hours and minutes. -/
structure ZoneParts where
  sign : Option Int := none
  hour : Option Int := none
  minute : Option Int := none
  deriving Inhabited

/-- A zone of a whole number of hours. -/
def ZoneParts.ofHours (h : Int) : ZoneParts :=
  { sign := some (if h < 0 then -1 else 1), hour := some h.natAbs, minute := some 0 }

/-- Whether a zone has hours but waits for its minutes. -/
def ZoneParts.expects (z : ZoneParts) (n : Int) : Bool :=
  z.hour.isSome && z.minute.isNone && isMinute n

/-- Whether a zone is UTC itself. -/
def ZoneParts.isUTC (z : ZoneParts) : Bool := z.hour == some 0 && z.minute == some 0

/-- A date as read: calendar fields, and the zone offset in seconds when the text gave one. -/
structure DateReading where
  year : Int
  /-- The month, 0 to 11. -/
  month : Int
  day : Int
  hour : Int
  minute : Int
  second : Int
  millisecond : Int
  offsetSeconds : Option Int
  deriving Inhabited

/-- Year, month (0 to 11) and day from the date parts. -/
def DayParts.finish (d : DayParts) : Option (Int × Int × Int) :=
  if d.numbers.isEmpty then none
  else
    let c := d.numbers ++ List.replicate (3 - d.numbers.length) 1
    let c0 := c.getD 0 1
    let c1 := c.getD 1 1
    let c2 := c.getD 2 1
    let (year, month, day) := match d.namedMonth with
      | none => if d.iso || !isDay c0 then (c0, c1, c2) else (c2, c0, c1)
      | some m => if !isDay c0 then (c0, (m : Int), c1) else (c1, (m : Int), c0)
    let year :=
      if d.iso then year
      else if 0 <= year && year <= 49 then year + 2000
      else if 50 <= year && year <= 99 then year + 1900
      else year
    if isMonth month && isDay day then some (year, month - 1, day) else none

/-- Hour, minute, second and millisecond from the time parts. -/
def TimeParts.finish (t : TimeParts) : Option (Int × Int × Int × Int) :=
  let c := t.numbers ++ List.replicate (4 - t.numbers.length) 0
  let h := c.getD 0 0
  let m := c.getD 1 0
  let s := c.getD 2 0
  let ms := c.getD 3 0
  let h? : Option Int := match t.meridiem with
    | none => some h
    | some off => if 0 <= h && h <= 12 then some (h % 12 + (off : Int)) else none
  match h? with
  | none => none
  | some h =>
    if isHour h && isMinute m && isMinute s && isMillisecond ms then some (h, m, s, ms)
    else if h == 24 && m == 0 && s == 0 && ms == 0 then some (h, m, s, ms)
    else none

/-- The zone offset in seconds, `none` for local time; a text whose offset is out of range is no
date. -/
def ZoneParts.finish (z : ZoneParts) : Option (Option Int) :=
  match z.sign with
  | none => some none
  | some sign =>
    let total := ((z.hour.getD 0) * 3600 + (z.minute.getD 0) * 60) % 0x100000000
    if total > 0x7FFFFFFF then none else some (some (sign * total))

/-- The three parts and whether a number was read. -/
structure Reading where
  day : DayParts := {}
  time : TimeParts := {}
  zone : ZoneParts := {}
  sawNumber : Bool := false
  deriving Inhabited

/-- The date a finished reading gives. -/
def Reading.finish (r : Reading) : Option DateReading := do
  let (year, month, day) <- r.day.finish
  let (hour, minute, second, millisecond) <- r.time.finish
  let offset <- r.zone.finish
  pure ⟨year, month, day, hour, minute, second, millisecond, offset⟩

/-! ## The ISO form -/

/-- Where the ISO reader stopped: the text is no date, or the reading so far with the token the
lenient reader takes next (`none` at the end) and the tokens after it. -/
inductive IsoStop where
  | invalid
  | next (r : Reading) (tok : Option DateToken) (rest : List DateToken)

/-- Stops at the next token: the lenient reader goes on from it. -/
def stopAt (r : Reading) : List DateToken -> IsoStop
  | [] => .next r none []
  | t :: rest => .next r (some t) rest

/-- The offset after a `+` or `-` in an ISO time: `hhmm` or `hh:mm`. -/
def isoOffset (z : ZoneParts) : List DateToken -> Option (ZoneParts × List DateToken)
  | .number v 4 :: rest =>
    let (h, m) := ((v / 100 : Nat), (v % 100 : Nat))
    if isHour h && isMinute m then some ({ z with hour := some h, minute := some m }, rest)
    else none
  | .number h 2 :: .symbol ':' :: .number m 2 :: rest =>
    if isHour h && isMinute m then some ({ z with hour := some h, minute := some m }, rest)
    else none
  | _ => none

/-- The time of an ISO text, after its `T`: hours, minutes, perhaps seconds and a fraction, and
perhaps a zone; nothing may follow. -/
def isoTime (r : Reading) (toks : List DateToken) : IsoStop :=
  match toks with
  | .number h 2 :: .symbol ':' :: .number m 2 :: rest =>
    if h > 24 || !isMinute m || (h == 24 && m > 0) then .invalid
    else
      let is24 := h == 24
      let secs : Option (List Int × List DateToken) := match rest with
        | .symbol ':' :: .number s 2 :: rest =>
          if !isMinute s || (is24 && s > 0) then none
          else match rest with
            | .symbol '.' :: .number f len :: rest =>
              if is24 && f > 0 then none
              else some ([s, millisFrom f len], rest)
            | .symbol '.' :: _ => none
            | rest => some ([s], rest)
        | .symbol ':' :: _ => none
        | rest => some ([], rest)
      match secs with
      | none => .invalid
      | some (more, rest) =>
        let time : TimeParts := { numbers := [(h : Int), m] ++ more }
        let zone : Option (ZoneParts × List DateToken) := match rest with
          | t :: rest' =>
            if t.isZoneZ then some (ZoneParts.ofHours 0, rest')
            else match t with
              | .symbol '+' => isoOffset { sign := some 1 } rest'
              | .symbol '-' => isoOffset { sign := some (-1) } rest'
              | _ => some ({}, rest)
          | [] => some ({}, [])
        match zone with
        | some (z, []) => .next { r with time := time, zone := z } none []
        | _ => .invalid
  | _ => .invalid
where
  /-- Milliseconds from a fraction's first three digits. -/
  millisFrom (f len : Nat) : Int :=
    if len == 1 then f * 100
    else if len == 2 then f * 10
    else if len <= 3 then f
    else f / Int.pow 10 (min len 9 - 3)

/-- Reads as much of the ISO form as the text follows. -/
def isoPrefix (toks : List DateToken) : IsoStop :=
  let start : Reading × List DateToken ⊕ IsoStop :=
    match toks with
    | t@(.symbol c) :: rest =>
      if c == '+' || c == '-' then
        match rest with
        | .number y 6 :: rest' =>
          if c == '-' && y == 0 then .inr (.next {} (some t) rest')
          else .inl ({ day := { numbers := [if c == '-' then -(y : Int) else y] } }, rest')
        | _ => .inr (.next {} (some t) rest)
      else .inr (stopAt {} toks)
    | .number y 4 :: rest => .inl ({ day := { numbers := [(y : Int)] } }, rest)
    | _ => .inr (stopAt {} toks)
  match start with
  | .inr stop => stop
  | .inl (r, rest) =>
    let withMonth : Reading × List DateToken ⊕ IsoStop :=
      match rest with
      | .symbol '-' :: rest =>
        match rest with
        | .number m 2 :: rest =>
          if !isMonth m then .inr (stopAt r (.number m 2 :: rest))
          else
            let r := { r with day := { r.day with numbers := r.day.numbers ++ [(m : Int)] } }
            match rest with
            | .symbol '-' :: rest =>
              match rest with
              | .number d 2 :: rest =>
                if !isDay d then .inr (stopAt r (.number d 2 :: rest))
                else .inl ({ r with day := { r.day with numbers := r.day.numbers ++ [(d : Int)] } },
                  rest)
              | rest => .inr (stopAt r rest)
            | rest => .inl (r, rest)
        | rest => .inr (stopAt r rest)
      | rest => .inl (r, rest)
    match withMonth with
    | .inr stop => stop
    | .inl (r, rest) =>
      let done := match rest with
        | .word .timeMark _ :: rest => isoTime r rest
        | [] => .next r none []
        | rest => stopAt r rest
      match done with
      | .next r none [] =>
        let zone := if r.zone.hour.isNone && r.time.isEmpty then ZoneParts.ofHours 0 else r.zone
        .next { r with zone := zone, day := { r.day with iso := true } } none []
      | other => other

/-! ## The lenient reader -/

/-- The tokens after a leading `-`, if there is one. -/
def skipDash : List DateToken -> List DateToken
  | .symbol '-' :: rest => rest
  | rest => rest

/-- Reads a zone offset after a sign: hours and minutes as `hh`, `hhmm` or `hh:` then minutes. -/
def signedOffset (r : Reading) (sign : Int) (rest : List DateToken) :
    Option (Reading × List DateToken) :=
  let (n, len, rest) := match rest with
    | .number n l :: rest => (n, l, rest)
    | rest => (0, 0, rest)
  let zone := { r.zone with sign := some sign }
  let r := { r with sawNumber := true }
  match rest with
  | .symbol ':' :: _ => some ({ r with zone := { zone with hour := some n, minute := none } }, rest)
  | _ =>
    if len == 1 || len == 2 then
      some ({ r with zone := { zone with hour := some n, minute := some 0 } }, rest)
    else if len == 3 || len == 4 then
      some ({ r with zone := { zone with hour := some (n / 100 : Nat), minute := some (n % 100 : Nat) } },
        rest)
    else none

/-- One number of the lenient reader and the tokens after it: a time piece before a colon or a
fraction or when the time waits for one, the zone's minutes, or a date number. -/
def lenientNumber (r : Reading) (n : Nat) (rest : List DateToken) :
    Option (Reading × List DateToken) := do
  let r := { r with sawNumber := true }
  match rest with
  | .symbol ':' :: .symbol ':' :: rest =>
    if !r.time.isEmpty then none
    let time <- (r.time.add n).bind (·.add 0)
    pure ({ r with time := time }, rest)
  | .symbol ':' :: rest =>
    let time <- r.time.add n
    pure ({ r with time := time }, match rest with | .symbol '.' :: rest => rest | rest => rest)
  | _ =>
    let (dot, rest) := match rest with
      | .symbol '.' :: rest => (true, rest)
      | rest => (false, rest)
    if dot && r.time.expects n then
      let time <- r.time.add n
      match rest with
      | .number f len :: rest =>
        let ms := isoTime.millisFrom f len
        pure ({ r with time := (time.addFinal ms).getD time }, rest)
      | _ => none
    else if r.zone.expects n then
      pure ({ r with zone := { r.zone with minute := some n } }, rest)
    else if r.time.expects n then
      let time <- r.time.addFinal n
      match rest with
      | [] => pure ({ r with time := time }, rest)
      | t :: _ =>
        if t == .blank || t.isZoneZ || t.isSign then pure ({ r with time := time }, rest)
        else none
    else
      let day <- r.day.add n
      pure ({ r with day := day }, skipDash rest)

/-- One word of the lenient reader. -/
def lenientWord (r : Reading) (kind : WordKind) (rest : List DateToken) :
    Option (Reading × List DateToken) :=
  let garbage : Option (Reading × List DateToken) :=
    if r.sawNumber then none
    else match rest with
      | .number .. :: _ => none
      | _ => some (r, rest)
  match kind with
  | .meridiem h =>
    if !r.time.isEmpty then some ({ r with time := { r.time with meridiem := some h } }, rest)
    else garbage
  | .month m => some ({ r with day := { r.day with namedMonth := some m } }, skipDash rest)
  | .zone h => if r.sawNumber then some ({ r with zone := ZoneParts.ofHours h }, rest) else garbage
  | _ => garbage

/-- The lenient reader from a token on. -/
def lenient : Nat -> Reading -> Option DateToken -> List DateToken -> Option Reading
  | 0, r, _, _ => some r
  | _, r, none, _ => some r
  | fuel + 1, r, some tok, rest => do
    let (r, rest) <- match tok with
      | .number n _ => lenientNumber r n rest
      | .word kind _ => lenientWord r kind rest
      | .symbol c =>
        if (c == '+' || c == '-') && (r.zone.isUTC || !r.time.isEmpty) then
          signedOffset r (if c == '-' then -1 else 1) rest
        else if (c == '+' || c == '-' || c == ')') && r.sawNumber then none
        else some (r, rest)
      | _ => some (r, rest)
    lenient fuel r rest.head? rest.tail

/-- Reads a date text: the ISO form as far as it goes, then the lenient reader. -/
def readDate (s : String) : Option DateReading :=
  let toks := tokenize s
  match isoPrefix toks with
  | .invalid => none
  | .next r tok rest =>
    let r := { r with sawNumber := !r.day.numbers.isEmpty }
    (lenient (rest.length + 2) r tok rest).bind Reading.finish

end TranscriptTest.Js.DateText
