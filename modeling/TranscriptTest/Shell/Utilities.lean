import TranscriptTest.Shell.Printf
import TranscriptTest.Shell.Sed

/-!
# Text utilities

The programs a script runs on text, as the GNU tools behave: `tr`, `seq`, `wc`, `head`, `tail`,
`sort`, `uniq`, `cut`, `rev`, `basename`, `dirname`, `expr` and `grep`, and the shell's own
`test`. Each is a function from its arguments and its input to what it writes, what it
complains about and its exit status, so that the shell only has to find the input and deliver
the output.
-/

namespace TranscriptTest.Shell

open TranscriptTest.Text TranscriptTest.Decimal

/-- What a utility did: its output, its complaints on standard error, and its exit status. -/
structure ToolResult where
  out : String := ""
  err : String := ""
  status : Nat := 0
  deriving Inhabited

/-- A failure with a message and a status. -/
def ToolResult.failure (msg : String) (status : Nat := 1) : ToolResult :=
  { err := msg ++ "\n", status }

/-- The lines of a text, without their line feeds; a last line without one counts. -/
def textLines (text : String) : List String :=
  if text.isEmpty then []
  else
    let parts := text.splitOn "\n"
    if text.endsWith "\n" then parts.dropLast else parts

/-- Lines written back, each ended by a line feed. -/
def unlines (lines : List String) : String := String.join (lines.map (· ++ "\n"))

/-- Whether an argument is an option: a dash and more, but not a negative number. -/
def isOptionArg (a : String) : Bool :=
  match a.toList with
  | '-' :: c :: _ => !(c.isDigit || c == '.')
  | _ => false

/-! ## tr -/

/-- The character classes of `tr`. -/
def trClasses : List (String × List Char) :=
  let span (a b : Nat) : List Char := (List.range (b - a + 1)).map (Char.ofNat <| a + ·)
  [("[:upper:]", span 65 90), ("[:lower:]", span 97 122), ("[:digit:]", span 48 57),
   ("[:alpha:]", span 65 90 ++ span 97 122), ("[:alnum:]", span 48 57 ++ span 65 90 ++ span 97 122),
   ("[:space:]", [' ', '\t', '\n', '\r', '\x0b', '\x0c']), ("[:blank:]", [' ', '\t']),
   ("[:punct:]", span 33 47 ++ span 58 64 ++ span 91 96 ++ span 123 126),
   ("[:xdigit:]", span 48 57 ++ span 65 70 ++ span 97 102), ("[:cntrl:]", span 0 31 ++ [Char.ofNat 127]),
   ("[:print:]", span 32 126), ("[:graph:]", span 33 126)]

/-- The characters of a `tr` set: ranges `a-z`, classes such as `[:upper:]`, repetitions
`[c*n]` (`[c*]` filling up to `fill` characters), and escapes. -/
def trSet (fill : Nat) : Nat -> List Char -> List Char
  | 0, _ => []
  | _, [] => []
  | fuel + 1, cs =>
    match trClasses.find? (fun (name, _) => cs.take name.length == name.toList) with
    | some (name, set) => set ++ trSet fill fuel (cs.drop name.length)
    | none =>
      match cs with
      | '[' :: c :: '*' :: more =>
        let ds := more.takeWhile Char.isDigit
        match more.drop ds.length with
        | ']' :: after =>
          let n := if ds.isEmpty then fill else (String.ofList ds).toNat!
          List.replicate n c ++ trSet fill fuel after
        | _ => '[' :: trSet fill fuel (c :: '*' :: more)
      | '[' :: '=' :: c :: '=' :: ']' :: after => c :: trSet fill fuel after
      | _ =>
        let (c, rest) := match cs with
          | '\\' :: more => formatEscape more
          | c :: more => (c, more)
          | [] => (' ', [])
        match rest with
        | '-' :: d :: more =>
          let (d, more) := if d == '\\' then formatEscape more else (d, more)
          if c ≤ d then
            (List.range (d.toNat - c.toNat + 1)).map (fun k => Char.ofNat (c.toNat + k)) ++ trSet fill fuel more
          else c :: trSet fill fuel ('-' :: d :: more)
        | _ => c :: trSet fill fuel rest

/-- Drops repeats of the characters of a set. -/
def squeezeRuns (set : List Char) (cs : List Char) : List Char :=
  cs.foldr (fun c acc => match acc with
    | d :: _ => if c == d && set.contains c then acc else c :: acc
    | [] => [c]) []

/-- `tr`: translates the first set's characters to the second's (its last repeated), deletes
them (`-d`), squeezes repeats (`-s`); `-c` takes the bytes not in the first set. -/
def translateText (args : List String) (text : String) : ToolResult :=
  let (flags, sets) := args.partition isOptionArg
  let has (c : Char) := flags.any (·.contains c)
  let complement := has 'c' || has 'C'
  let delete := has 'd'
  let squeeze := has 's'
  if sets.isEmpty then .failure "tr: missing operand"
  else
    let given1 := trSet 0 10000 ((sets.headD "").toList)
    let set1 := if complement then (List.range 256).map byteChar |>.filter (!given1.contains ·) else given1
    let set2 := trSet set1.length 10000 ((sets.getD 1 "").toList)
    let cs := text.toList
    let mapped :=
      if delete then cs.filter (!set1.contains ·)
      else if set2.isEmpty then cs
      else cs.map fun c =>
        match set1.findIdx? (· == c) with
        | some i => set2.getD i (set2.getLastD c)
        | none => c
    let squeezeSet := if delete || set2.isEmpty then (if delete then set2 else set1) else set2
    let out := if squeeze then squeezeRuns squeezeSet mapped else mapped
    { out := String.ofList out }

/-! ## seq -/

/-- The decimals of a number as written. -/
def decimalsOf (a : String) : Nat :=
  match a.splitOn "." with
  | [_, f] => (f.toList.takeWhile Char.isDigit).length
  | _ => 0

/-- The options of `seq`: the separator, equal widths, the format, and the numbers. -/
structure SeqOptions where
  sep : String := "\n"
  equalWidth : Bool := false
  format : Option String := none
  nums : List String := []

/-- Reads the options of `seq`; an argument like `-2` is a number. -/
def readSeqOptions : Nat -> List String -> SeqOptions -> SeqOptions
  | 0, _, o => o
  | _, [], o => o
  | k + 1, a :: rest, o =>
    if a == "-s" then readSeqOptions k (rest.drop 1) { o with sep := rest.headD "" }
    else if a.startsWith "--separator=" then readSeqOptions k rest { o with sep := (a.drop 12).toString }
    else if a.startsWith "-s" && isOptionArg a then readSeqOptions k rest { o with sep := (a.drop 2).toString }
    else if a == "-w" || a == "--equal-width" then readSeqOptions k rest { o with equalWidth := true }
    else if a == "-f" then readSeqOptions k (rest.drop 1) { o with format := rest.head? }
    else if a.startsWith "--format=" then readSeqOptions k rest { o with format := some (a.drop 9).toString }
    else if a.startsWith "-f" && isOptionArg a then readSeqOptions k rest { o with format := some (a.drop 2).toString }
    else if a == "--" then { o with nums := o.nums ++ rest }
    else readSeqOptions k rest { o with nums := o.nums ++ [a] }

/-- `seq`: from the first number (default one) by the increment (default one) to the last, in
`-f`'s format or with the decimals of the first or the increment (`-w` pads), joined by `-s`. -/
def seqText (args : List String) : ToolResult :=
  let o := readSeqOptions (args.length + 1) args {}
  let (sep, equalWidth, format, nums) := (o.sep, o.equalWidth, o.format, o.nums)
  let parse (a : String) : Option Float :=
    let (x, read, after) := readDoublePrefix a.toList
    if read && after.isEmpty && !x.isNaN then some x else none
  let (first, step, last) := match nums with
    | [l] => ("1", "1", l)
    | [f, l] => (f, "1", l)
    | [f, i, l] => (f, i, l)
    | _ => ("", "", "")
  if nums.isEmpty then .failure "seq: missing operand"
  else if nums.length > 3 then .failure ("seq: extra operand '" ++ nums.getD 3 "" ++ "'")
  else match parse first, parse step, parse last with
  | some a, some d, some b =>
    if d == 0 then .failure s!"seq: invalid Zero increment value: '{step}'"
    else
      let places := max (decimalsOf first) (decimalsOf step)
      let width (s : String) (p : Nat) : Nat :=
        s.length + (places - p) + (if p == 0 && places > 0 then 1 else 0)
      let lastWidth :=
        let w := last.length + places - decimalsOf last
        if decimalsOf last > 0 && places == 0 then w - 1 else w
      let fmt := match format with
        | some f => f
        | none =>
          if equalWidth then s!"%0{max (width first (decimalsOf first)) lastWidth}.{places}f"
          else s!"%.{places}f"
      let count : Nat :=
        let n := (b - a) / d
        if n < 0 then 0 else (Float.floor (n + 1e-10)).toUInt64.toNat + 1
      let count := min count 100000
      let texts := (List.range count).map fun k =>
        let x := a + d * k.toFloat
        (formatAll fmt [formatDouble [] (some 17) 'g' x]).1
      { out := if texts.isEmpty then "" else sep.intercalate texts ++ "\n" }
  | none, _, _ => .failure s!"seq: invalid floating point argument: '{first}'"
  | _, none, _ => .failure s!"seq: invalid floating point argument: '{step}'"
  | _, _, none => .failure s!"seq: invalid floating point argument: '{last}'"

/-! ## wc -/

/-- The counts of `wc` for a text: lines, words, characters, bytes and the longest line. -/
def wcCounts (text : String) : List Nat :=
  let cs := text.toList
  let isBlankC (c : Char) := c == ' ' || c == '\t' || c == '\n' || c == '\x0b' || c == '\x0c' || c == '\r'
  let lines := cs.count '\n'
  let (words, _) := cs.foldl (fun (n, inWord) c =>
    if isBlankC c then (n, false) else if inWord then (n, true) else (n + 1, true)) (0, false)
  let chars := cs.countP fun c => let b := charByte c; b < 0x80 || b >= 0xC0
  let longest := ((textLines text).map String.length).foldl max 0
  [lines, words, chars, cs.length, longest]

/-- `wc`: counts for each input (`none` for standard input) and a total when there are several. -/
def wcText (flags : List Char) (inputs : List (Option String × String)) : String :=
  let chosen := [flags.contains 'l', flags.contains 'w', flags.contains 'm', flags.contains 'c',
    flags.contains 'L']
  let chosen := if chosen.any id then chosen else [true, true, false, true, false]
  let pick (counts : List Nat) : List Nat :=
    (counts.zip chosen).filterMap fun (n, on) => if on then some n else none
  let rows := inputs.map fun (name, text) => (name, wcCounts text)
  let total := rows.foldl (fun acc (_, cs) => (acc.zip cs).map fun (a, b) => a + b) [0, 0, 0, 0, 0]
  let total := total.set 4 ((rows.map fun r => r.2.getD 4 0).foldl max 0)
  let columns := chosen.count true
  let width :=
    if columns == 1 && inputs.length == 1 then 1
    else if inputs.any (·.1.isNone) then 7
    else toString (total.getD 3 0) |>.length
  let pad (n : Nat) : String :=
    let s := toString n
    String.ofList (List.replicate (width - s.length) ' ') ++ s
  let line (name : Option String) (counts : List Nat) : String :=
    " ".intercalate ((pick counts).map pad) ++ (name.map (" " ++ ·)).getD "" ++ "\n"
  let body := String.join (rows.map fun (n, cs) => line n cs)
  if rows.length > 1 then body ++ line (some "total") total else body

/-! ## head and tail -/

/-- The count of `head` or `tail` (`-n N`, `-nN`, `-N`, `-c N`, signed): whether it counts bytes,
the number, and its sign (`-` all but the last, `+` from the n-th on). -/
structure Amount where
  bytes : Bool := false
  count : Nat := 10
  sign : Option Char := none

/-- Reads the options of `head` or `tail`: the amount and the files. -/
def readAmount : Nat -> List String -> Amount -> List String -> Option (Amount × List String)
  | 0, _, a, files => some (a, files)
  | _, [], a, files => some (a, files.reverse)
  | k + 1, arg :: rest, a, files =>
    let number (bytes : Bool) (s : String) : Option Amount :=
      let (sign, digits) := match s.toList with
        | '-' :: ds => (some '-', String.ofList ds)
        | '+' :: ds => (some '+', String.ofList ds)
        | _ => (none, s)
      digits.toNat?.map fun n => { bytes, count := n, sign }
    if arg == "-n" || arg == "-c" then
      match rest with
      | v :: more => (number (arg == "-c") v).bind fun a => readAmount k more a files
      | [] => none
    else if arg.startsWith "-n" || arg.startsWith "-c" then
      (number (arg.startsWith "-c") (arg.drop 2).toString).bind fun a => readAmount k rest a files
    else if arg.startsWith "--lines=" then
      (number false (arg.drop 8).toString).bind fun a => readAmount k rest a files
    else if arg.startsWith "--bytes=" then
      (number true (arg.drop 8).toString).bind fun a => readAmount k rest a files
    else if arg == "-q" || arg == "-v" then readAmount k rest a files
    else if arg.length > 1 && arg.startsWith "-" && (arg.drop 1).all Char.isDigit then
      readAmount k rest { a with count := (arg.drop 1).toString.toNat! } files
    else if arg.length > 1 && arg.startsWith "-" then none
    else readAmount k rest a (arg :: files)

/-- The pieces of a text that `head` and `tail` count: lines with their line feeds, or bytes. -/
def countedPieces (bytes : Bool) (text : String) : List String :=
  if bytes then text.toList.map Char.toString
  else
    let lines := textLines text
    let ended := text.endsWith "\n"
    lines.zipIdx.map fun (l, i) => if i + 1 < lines.length || ended then l ++ "\n" else l

/-- `head`: the first pieces, or all but the last with a negative count. -/
def headText (a : Amount) (text : String) : String :=
  let ps := countedPieces a.bytes text
  String.join (if a.sign == some '-' then ps.take (ps.length - a.count) else ps.take a.count)

/-- `tail`: the last pieces, or from the n-th on with `+`. -/
def tailText (a : Amount) (text : String) : String :=
  let ps := countedPieces a.bytes text
  String.join (if a.sign == some '+' then ps.drop (a.count - 1) else ps.drop (ps.length - a.count))

/-! ## sort and uniq -/

/-- The options of `sort`. -/
structure SortOptions where
  numeric : Bool := false
  reverse : Bool := false
  unique : Bool := false
  fold : Bool := false
  blanks : Bool := false
  stable : Bool := false
  /-- Keys: the first and last field, counting from one. -/
  keys : List (Nat × Option Nat) := []
  separator : Option Char := none
  files : List String := []

/-- Reads a key `-k N[,M]`, ignoring character positions and key options. -/
def readKey (s : String) : Option (Nat × Option Nat) :=
  let field (t : String) : Option Nat :=
    (String.ofList (t.toList.takeWhile Char.isDigit)).toNat?
  match s.splitOn "," with
  | [a] => (field a).map fun n => (n, none)
  | [a, b] => (field a).bind fun n => (field b).map fun m => (n, some m)
  | _ => none

/-- Reads the options of `sort`. -/
def readSortOptions : Nat -> List String -> SortOptions -> Option SortOptions
  | 0, _, o => some o
  | _, [], o => some { o with files := o.files.reverse }
  | k + 1, a :: rest, o =>
    if a == "-k" then
      match rest with
      | v :: more => (readKey v).bind fun key => readSortOptions k more { o with keys := o.keys ++ [key] }
      | [] => none
    else if a.startsWith "-k" then
      (readKey (a.drop 2).toString).bind fun key => readSortOptions k rest { o with keys := o.keys ++ [key] }
    else if a == "-t" then
      match rest with
      | v :: more => readSortOptions k more { o with separator := v.toList.head? }
      | [] => none
    else if a.startsWith "-t" then readSortOptions k rest { o with separator := (a.drop 2).toString.toList.head? }
    else if a.length > 1 && a.startsWith "-" && !a.startsWith "--" then
      let cs := (a.drop 1).toString.toList
      if cs.all (fun c => "nrufbsgh".contains c) then
        let o' : SortOptions :=
          { o with
            numeric := o.numeric || cs.contains 'n' || cs.contains 'g' || cs.contains 'h'
            reverse := o.reverse || cs.contains 'r'
            unique := o.unique || cs.contains 'u'
            fold := o.fold || cs.contains 'f'
            blanks := o.blanks || cs.contains 'b'
            stable := o.stable || cs.contains 's' }
        readSortOptions k rest o'
      else none
    else readSortOptions k rest { o with files := a :: o.files }

/-- The fields of a line: split at the separator, or where blanks start (each field but the
first keeping its leading blanks). -/
def sortFields (sep : Option Char) (line : String) : List String :=
  match sep with
  | some c => line.splitOn c.toString
  | none =>
    let rec go : Nat -> List Char -> List Char -> List String
      | 0, acc, _ => [String.ofList acc.reverse]
      | _, acc, [] => [String.ofList acc.reverse]
      | k + 1, acc, c :: rest =>
        if (c == ' ' || c == '\t') && !acc.isEmpty && !(acc.head?.map (fun d => d == ' ' || d == '\t')).getD false then
          String.ofList acc.reverse :: go k [c] rest
        else go k (c :: acc) rest
    go (line.length + 1) [] line.toList

/-- The text a key selects from a line. -/
def sortKey (o : SortOptions) (line : String) (key : Nat × Option Nat) : String :=
  let fields := sortFields o.separator line
  let (a, b) := key
  let chosen := (fields.drop (a - 1)).take (match b with
    | some m => m + 1 - a
    | none => fields.length)
  let joined := (o.separator.map Char.toString).getD "" |>.intercalate chosen
  if o.blanks then String.ofList (joined.toList.dropWhile fun c => c == ' ' || c == '\t')
  else joined

/-- The number at the start of a key as `sort -n` reads it: blanks, a minus sign, digits and a
decimal point; no number is zero. -/
def sortNumber (s : String) : Float :=
  let cs := s.toList.dropWhile fun c => c == ' ' || c == '\t'
  let (neg, cs) := match cs with
    | '-' :: rest => (true, rest)
    | _ => (false, cs)
  let whole := cs.takeWhile Char.isDigit
  let frac := match cs.drop whole.length with
    | '.' :: rest => rest.takeWhile Char.isDigit
    | _ => []
  let (x, _, _) := readDoublePrefix (whole ++ (if frac.isEmpty then [] else '.' :: frac))
  let x := if whole.isEmpty && frac.isEmpty then 0 else x
  if neg then -x else x

/-- Compares two texts byte by byte. -/
def compareBytes (a b : String) : Ordering :=
  compareOfLessAndEq (a.toList.map charByte) (b.toList.map charByte)

/-- Compares two lines by their keys. -/
def compareKeys (o : SortOptions) (a b : String) : Ordering :=
  let keys := if o.keys.isEmpty then [(1, none)] else o.keys
  let one (key : Nat × Option Nat) : Ordering :=
    let (x, y) := if o.keys.isEmpty then (a, b) else (sortKey o a key, sortKey o b key)
    if o.numeric then
      let (p, q) := (sortNumber x, sortNumber y)
      if p < q then .lt else if q < p then .gt else .eq
    else if o.fold then compareBytes x.toUpper y.toUpper
    else compareBytes x y
  keys.foldl (fun acc k => if acc == .eq then one k else acc) .eq

/-- `sort`: the lines in order of their keys, then of the whole line unless `-s` or `-u`;
`-r` reverses, `-u` keeps the first of equal lines. -/
def sortText (o : SortOptions) (text : String) : String :=
  let full (a b : String) : Ordering :=
    match compareKeys o a b with
    | .eq => if o.stable || o.unique then .eq else compareBytes a b
    | c => c
  let ordered (a b : String) : Bool :=
    let c := full a b
    (if o.reverse then c.swap else c) != .gt
  let sorted := (textLines text).mergeSort ordered
  let lines := if o.unique then
      sorted.foldr (fun l acc => match acc with
        | m :: _ => if compareKeys o l m == .eq then l :: acc.tail else l :: acc
        | [] => [l]) []
    else sorted
  unlines lines

/-- `uniq`: runs of equal lines (ignoring case with `-i`) written once, with their counts
(`-c`), only the repeated ones (`-d`) or only the single ones (`-u`). -/
def uniqText (flags : List Char) (text : String) : String :=
  let same (a b : String) : Bool := if flags.contains 'i' then a.toLower == b.toLower else a == b
  let runs := (textLines text).foldl (fun (acc : List (String × Nat)) l =>
    match acc with
    | (m, n) :: rest => if same m l then (m, n + 1) :: rest else (l, 1) :: acc
    | [] => [(l, 1)]) [] |>.reverse
  let runs := runs.filter fun (_, n) =>
    (!flags.contains 'd' || n > 1) && (!flags.contains 'u' || n == 1)
  String.join (runs.map fun (l, n) =>
    if flags.contains 'c' then
      let s := toString n
      String.ofList (List.replicate (7 - s.length) ' ') ++ s ++ " " ++ l ++ "\n"
    else l ++ "\n")

/-! ## cut -/

/-- A list of positions: `N`, `N-M`, `N-` and `-M`, separated by commas. -/
def readRanges (s : String) : Option (List (Nat × Option Nat)) :=
  (s.splitOn ",").mapM fun part =>
    match part.splitOn "-" with
    | [n] => n.toNat?.bind fun k => if k == 0 then none else some (k, some k)
    | ["", m] => m.toNat?.map fun k => (1, some k)
    | [n, ""] => n.toNat?.map fun k => (k, none)
    | [n, m] => n.toNat?.bind fun a => m.toNat?.map fun b => (a, some b)
    | _ => none

/-- Whether a position is in the ranges. -/
def inRanges (rs : List (Nat × Option Nat)) (i : Nat) : Bool :=
  rs.any fun (a, b) => a ≤ i && (match b with
    | some m => i <= m
    | none => true)

/-- `cut`: the chosen fields of each line (`-f`, at the separator of `-d`, a tab by default;
lines without a separator are kept whole unless `-s`), or the chosen bytes or characters (`-b`,
`-c`). -/
def cutText (args : List String) (text : String) : ToolResult :=
  let rec opts : Nat -> List String -> Option (Option String × Option String × Char × Bool × List String)
    | 0, _ => some (none, none, '\t', false, [])
    | _, [] => some (none, none, '\t', false, [])
    | k + 1, a :: rest =>
      let next (more : List String) (f : Option String × Option String × Char × Bool × List String →
          Option String × Option String × Char × Bool × List String) :=
        (opts k more).map f
      if a == "-f" || a == "-c" || a == "-b" || a == "-d" then
        match rest with
        | v :: more => next more fun (fs, cs, d, s, files) =>
          if a == "-f" then (some v, cs, d, s, files)
          else if a == "-d" then (fs, cs, v.toList.headD '\t', s, files)
          else (fs, some v, d, s, files)
        | [] => none
      else if a.startsWith "-f" then next rest fun (_, cs, d, s, files) => (some (a.drop 2).toString, cs, d, s, files)
      else if a.startsWith "-d" then next rest fun (fs, cs, _, s, files) => (fs, cs, (a.drop 2).toString.toList.headD '\t', s, files)
      else if a.startsWith "-c" || a.startsWith "-b" then
        next rest fun (fs, _, d, s, files) => (fs, some (a.drop 2).toString, d, s, files)
      else if a == "-s" then next rest fun (fs, cs, d, _, files) => (fs, cs, d, true, files)
      else next rest fun (fs, cs, d, s, files) => (fs, cs, d, s, a :: files)
  match opts (args.length + 1) args with
  | none => .failure "cut: invalid option"
  | some (some fs, _, delim, onlyDelimited, _) =>
    match readRanges fs with
    | none => .failure "cut: invalid field value"
    | some rs =>
      let lines := (textLines text).filterMap fun l =>
        if !l.toList.contains delim then (if onlyDelimited then none else some l)
        else
          let parts := l.splitOn delim.toString
          some (delim.toString.intercalate (parts.zipIdx.filterMap fun (p, i) =>
            if inRanges rs (i + 1) then some p else none))
      { out := unlines lines }
  | some (none, some cs, _, _, _) =>
    match readRanges cs with
    | none => .failure "cut: invalid byte or character position list"
    | some rs =>
      { out := unlines ((textLines text).map fun l =>
          String.ofList (l.toList.zipIdx.filterMap fun (c, i) => if inRanges rs (i + 1) then some c else none)) }
  | some _ => .failure "cut: you must specify a list of bytes, characters, or fields"

/-! ## Names of files -/

/-- `basename`: the last part of a path, without a suffix if one is given and is not all of it. -/
def baseName (path : String) (suffix : String) : String :=
  let trimmed := String.ofList (path.toList.reverse.dropWhile (· == '/')).reverse
  if trimmed.isEmpty then (if path.isEmpty then "" else "/")
  else
    let base := (trimmed.splitOn "/").getLastD trimmed
    if !suffix.isEmpty && base != suffix && base.endsWith suffix then (base.dropEnd suffix.length).toString
    else base

/-- `dirname`: a path without its last part, `.` when nothing is left. -/
def dirName (path : String) : String :=
  let trimmed := (path.toList.reverse.dropWhile (· == '/')).reverse
  if trimmed.isEmpty then (if path.startsWith "/" then "/" else ".")
  else
    let dir := (trimmed.reverse.dropWhile (· != '/')).reverse
    let dir := (dir.reverse.dropWhile (· == '/')).reverse
    if dir.isEmpty then (if trimmed.head? == some '/' then "/" else ".") else String.ofList dir

/-! ## expr -/

/-- An integer as `expr` reads one: an optional minus sign and digits. -/
def exprInt? (s : String) : Option Int :=
  match s.toList with
  | '-' :: ds => if !ds.isEmpty && ds.all Char.isDigit then some (-(String.ofList ds).toNat! : Int) else none
  | ds => if !ds.isEmpty && ds.all Char.isDigit then some (String.ofList ds).toNat! else none

/-- Why `expr` fails. -/
inductive ExprError where
  | malformed
  | nonInteger
  | divisionByZero
  | badPattern
  deriving Inhabited, BEq

/-- The match of `expr string : pattern`: anchored at the start; the first group's text if the
pattern has one, the length of the match otherwise. -/
def exprMatch (s pat : String) : Except ExprError String :=
  match Sed.compilePattern {} pat with
  | .error _ => throw .badPattern
  | .ok m =>
    let text := s.toList.toArray
    match m.longestAt text 0 with
    | some caps =>
      if m.program.groups > 0 then
        pure (match caps[1]? with
          | some (some (a, b)) => String.ofList (text.extract a b).toList
          | _ => "")
      else pure (toString (Sed.spansStop caps 0))
    | none => pure (if m.program.groups > 0 then "" else "0")

/-- Whether a value of `expr` counts as false: empty or zero. -/
def exprFalse (v : String) : Bool := v.isEmpty || exprInt? v == some 0

mutual

/-- `a | b`: the first unless it is false, then the second unless that is false, then zero. -/
def exprOr : Nat -> List String -> Except ExprError (String × List String)
  | 0, _ => throw .malformed
  | fuel + 1, ts => do
    let (a, rest) <- exprAnd fuel ts
    match rest with
    | "|" :: more => do
      let (b, rest) <- exprOr fuel more
      pure (if !exprFalse a then a else if !exprFalse b then b else "0", rest)
    | _ => pure (a, rest)

/-- `a & b`: the first if neither is false, zero otherwise. -/
def exprAnd : Nat -> List String -> Except ExprError (String × List String)
  | 0, _ => throw .malformed
  | fuel + 1, ts => do
    let (a, rest) <- exprCompare fuel ts
    match rest with
    | "&" :: more => do
      let (b, rest) <- exprAnd fuel more
      pure (if exprFalse a || exprFalse b then "0" else a, rest)
    | _ => pure (a, rest)

/-- Comparisons, as integers when both sides are, as strings otherwise. -/
def exprCompare : Nat -> List String -> Except ExprError (String × List String)
  | 0, _ => throw .malformed
  | fuel + 1, ts => do
    let (a, rest) <- exprSum fuel ts
    match rest with
    | op :: more =>
      if ["=", "==", "!=", "<", "<=", ">", ">="].contains op then do
        let (b, rest) <- exprCompare fuel more
        let c : Ordering := match exprInt? a, exprInt? b with
          | some x, some y => compare x y
          | _, _ => compareBytes a b
        let holds : Bool := match op with
          | "=" | "==" => c == .eq
          | "!=" => c != .eq
          | "<" => c == .lt
          | "<=" => c != .gt
          | ">" => c == .gt
          | _ => c != .lt
        pure (if holds then "1" else "0", rest)
      else pure (a, rest)
    | [] => pure (a, rest)

/-- Sums and differences of integers. -/
def exprSum : Nat -> List String -> Except ExprError (String × List String)
  | 0, _ => throw .malformed
  | fuel + 1, ts => do
    let (a, rest) <- exprProduct fuel ts
    exprSumRest fuel a rest

/-- Continues a sum after its left operand. -/
def exprSumRest : Nat -> String -> List String -> Except ExprError (String × List String)
  | 0, _, _ => throw .malformed
  | fuel + 1, a, ts =>
    match ts with
    | op :: more =>
      if op == "+" || op == "-" then do
        let (b, rest) <- exprProduct fuel more
        match exprInt? a, exprInt? b with
        | some x, some y => exprSumRest fuel (toString (if op == "+" then x + y else x - y)) rest
        | _, _ => throw .nonInteger
      else pure (a, ts)
    | [] => pure (a, ts)

/-- Products, quotients and remainders of integers. -/
def exprProduct : Nat -> List String -> Except ExprError (String × List String)
  | 0, _ => throw .malformed
  | fuel + 1, ts => do
    let (a, rest) <- exprMatchOp fuel ts
    exprProductRest fuel a rest

/-- Continues a product after its left operand. -/
def exprProductRest : Nat -> String -> List String -> Except ExprError (String × List String)
  | 0, _, _ => throw .malformed
  | fuel + 1, a, ts =>
    match ts with
    | op :: more =>
      if op == "*" || op == "/" || op == "%" then do
        let (b, rest) <- exprMatchOp fuel more
        match exprInt? a, exprInt? b with
        | some x, some y =>
          if op != "*" && y == 0 then throw .divisionByZero
          else exprProductRest fuel (toString (if op == "*" then x * y else if op == "/" then x.tdiv y else x.tmod y)) rest
        | _, _ => throw .nonInteger
      else pure (a, ts)
    | [] => pure (a, ts)

/-- `string : pattern`. -/
def exprMatchOp : Nat -> List String -> Except ExprError (String × List String)
  | 0, _ => throw .malformed
  | fuel + 1, ts => do
    let (a, rest) <- exprPrimary fuel ts
    match rest with
    | ":" :: more => do
      let (p, rest) <- exprPrimary fuel more
      let v <- exprMatch a p
      pure (v, rest)
    | _ => pure (a, rest)

/-- A string, a parenthesized expression, or `length`, `substr`, `index`, `match`. -/
def exprPrimary : Nat -> List String -> Except ExprError (String × List String)
  | 0, _ => throw .malformed
  | fuel + 1, ts =>
    match ts with
    | "(" :: more => do
      let (v, rest) <- exprOr fuel more
      match rest with
      | ")" :: rest => pure (v, rest)
      | _ => throw .malformed
    | "length" :: s :: rest => pure (toString s.length, rest)
    | "substr" :: s :: p :: l :: rest =>
      match exprInt? p, exprInt? l with
      | some p, some l =>
        if p < 1 || l < 1 then pure ("", rest)
        else pure (String.ofList ((s.toList.drop (p.toNat - 1)).take l.toNat), rest)
      | _, _ => pure ("", rest)
    | "index" :: s :: cs :: rest =>
      pure (toString ((s.toList.findIdx? (cs.toList.contains ·)).map (· + 1) |>.getD 0), rest)
    | "match" :: s :: p :: rest => do
      let v <- exprMatch s p
      pure (v, rest)
    | "+" :: s :: rest => pure (s, rest)
    | s :: rest => pure (s, rest)
    | [] => throw .malformed

end

/-- `expr`: the value of the expression and a status of 1 when it is empty or zero; errors have
status 2. -/
def exprText (args : List String) : ToolResult :=
  match exprOr (4 * args.length + 8) args with
  | .ok (v, []) => { out := v ++ "\n", status := if exprFalse v then 1 else 0 }
  | .ok (_, t :: _) => .failure s!"expr: syntax error: unexpected argument '{t}'" 2
  | .error .malformed => .failure "expr: syntax error" 2
  | .error .nonInteger => .failure "expr: non-integer argument" 2
  | .error .divisionByZero => .failure "expr: division by zero" 2
  | .error .badPattern => .failure "expr: Invalid regular expression" 2

/-! ## grep -/

/-- The options of `grep`. -/
structure GrepOptions where
  extended : Bool := false
  fixed : Bool := false
  caseless : Bool := false
  invert : Bool := false
  count : Bool := false
  numbers : Bool := false
  onlyMatching : Bool := false
  quiet : Bool := false
  wholeLine : Bool := false
  wholeWord : Bool := false
  filesWithMatches : Bool := false
  noNames : Bool := false
  withNames : Bool := false
  patterns : List String := []
  operands : List String := []

/-- Reads the options of `grep`; the first operand is the pattern unless `-e` gave one. -/
def readGrepOptions : Nat -> List String -> GrepOptions -> Option GrepOptions
  | 0, _, o => some o
  | _, [], o => some { o with operands := o.operands.reverse }
  | k + 1, a :: rest, o =>
    if a == "-e" then
      match rest with
      | p :: more => readGrepOptions k more { o with patterns := o.patterns ++ [p] }
      | [] => none
    else if a == "--" then some { o with operands := o.operands.reverse ++ rest }
    else if a.length > 1 && a.startsWith "-" && !a.startsWith "--" then
      let cs := (a.drop 1).toString.toList
      if cs.all (fun c => "EFGivcnoqxwlhHsr".contains c) then
        let o' : GrepOptions :=
          { o with
            extended := o.extended || cs.contains 'E'
            fixed := o.fixed || cs.contains 'F'
            caseless := o.caseless || cs.contains 'i'
            invert := o.invert || cs.contains 'v'
            count := o.count || cs.contains 'c'
            numbers := o.numbers || cs.contains 'n'
            onlyMatching := o.onlyMatching || cs.contains 'o'
            quiet := o.quiet || cs.contains 'q'
            wholeLine := o.wholeLine || cs.contains 'x'
            wholeWord := o.wholeWord || cs.contains 'w'
            filesWithMatches := o.filesWithMatches || cs.contains 'l'
            noNames := o.noNames || cs.contains 'h'
            withNames := o.withNames || cs.contains 'H' }
        readGrepOptions k rest o'
      else none
    else readGrepOptions k rest { o with operands := a :: o.operands }

/-- A pattern written literally, as a basic expression. -/
def quoteBasic (s : String) : String :=
  String.join (s.toList.map fun c =>
    if "\\.[]*^$".contains c then "\\" ++ c.toString else c.toString)

/-- The matcher of a `grep` pattern, held to whole lines or whole words if asked. -/
def grepMatcher (o : GrepOptions) (pat : String) : Except String Sed.Matcher := do
  let src := if o.fixed then quoteBasic pat else pat
  let d : Sed.Dialect := { extended := o.extended && !o.fixed, caseless := o.caseless }
  let m ← match (if src.isEmpty then .ok ⟨{ node := .empty, groups := 0, names := [], flags := {} }, false⟩
      else Sed.compilePattern d src) with
    | .ok m => pure m
    | .error _ => throw "grep: Invalid regular expression"
  let word := Js.Regex.Node.char Sed.wordChars
  let node := m.program.node
  let node :=
    if o.wholeLine then .concat [.lineStart, node, .lineEnd]
    else if o.wholeWord then .concat [.look true true word, node, .look false true word]
    else node
  pure { m with program := { m.program with node }, ambiguous := true }

/-- The lines of one input that `grep` selects, as it writes them. -/
def grepLines (o : GrepOptions) (ms : List Sed.Matcher) (prefix? : String) (text : String) :
    List String × Nat :=
  let lines := textLines text
  let picked := lines.zipIdx.filter fun (l, _) =>
    ms.any (fun m => m.isMatch l) != o.invert
  let lead (i : Nat) := prefix? ++ (if o.numbers then toString (i + 1) ++ ":" else "")
  let out := picked.flatMap fun (l, i) =>
    if o.onlyMatching && !o.invert then
      let cs := l.toList.toArray
      let found := ms.flatMap fun m => m.findAll cs (cs.size + 2) 0 none []
      found.filterMap fun caps =>
        match caps[0]? with
        | some (some (a, b)) => if a < b then some (lead i ++ String.ofList (cs.extract a b).toList) else none
        | _ => none
    else [lead i ++ l]
  (out, picked.length)

/-! ## test -/

/-- The unary file and string tests of `test`. -/
def testUnaryOps : List String :=
  ["-n", "-z", "-e", "-f", "-d", "-r", "-w", "-x", "-s", "-L", "-h", "-b", "-c", "-p", "-S",
   "-t", "-g", "-u", "-k", "-O", "-G"]

/-- The binary tests of `test`. -/
def testBinaryOps (bash : Bool) : List String :=
  ["=", "!=", "<", ">", "-eq", "-ne", "-lt", "-le", "-gt", "-ge", "-nt", "-ot", "-ef"] ++
    (if bash then ["=="] else [])

/-- An integer operand of a numeric test: blanks around an optional sign and digits. -/
def testInteger (bash : Bool) (s : String) : Except String Int :=
  match s.trimAscii.toString.toInt? with
  | some n => pure n
  | none => throw (if bash then s!"{s}: integer expression expected" else s!"Illegal number: {s}")

/-- A unary test. -/
def testUnary (file : String → String → Bool) (op arg : String) : Bool :=
  match op with
  | "-n" => !arg.isEmpty
  | "-z" => arg.isEmpty
  | _ => file op arg

/-- A binary test. -/
def testBinary (bash : Bool) (a op b : String) : Except String Bool := do
  match op with
  | "=" | "==" => pure (a == b)
  | "!=" => pure (a != b)
  | "<" => pure (compareBytes a b == .lt)
  | ">" => pure (compareBytes a b == .gt)
  | "-nt" | "-ot" | "-ef" => pure false
  | _ =>
    let x <- testInteger bash a
    let y <- testInteger bash b
    pure (match op with
      | "-eq" => x == y
      | "-ne" => x != y
      | "-lt" => x < y
      | "-le" => x <= y
      | "-gt" => x > y
      | _ => x >= y)

mutual

/-- Tests joined by `-o`. -/
def testOr : Nat -> Bool -> (String -> String -> Bool) -> List String -> Except String (Bool × List String)
  | 0, _, _, _ => throw "expression too complex"
  | fuel + 1, bash, file, ts => do
    let (a, rest) <- testAnd fuel bash file ts
    match rest with
    | "-o" :: more => do
      let (b, rest) <- testOr fuel bash file more
      pure (a || b, rest)
    | _ => pure (a, rest)

/-- Tests joined by `-a`. -/
def testAnd : Nat -> Bool -> (String -> String -> Bool) -> List String -> Except String (Bool × List String)
  | 0, _, _, _ => throw "expression too complex"
  | fuel + 1, bash, file, ts => do
    let (a, rest) <- testNot fuel bash file ts
    match rest with
    | "-a" :: more => do
      let (b, rest) <- testAnd fuel bash file more
      pure (a && b, rest)
    | _ => pure (a, rest)

/-- A test, perhaps negated. -/
def testNot : Nat -> Bool -> (String -> String -> Bool) -> List String -> Except String (Bool × List String)
  | 0, _, _, _ => throw "expression too complex"
  | fuel + 1, bash, file, ts =>
    match ts with
    | "!" :: more@(_ :: _) => do
      let (a, rest) <- testNot fuel bash file more
      pure (!a, rest)
    | _ => testPrimary fuel bash file ts

/-- A parenthesized test, a unary or binary test, or a string. -/
def testPrimary : Nat -> Bool -> (String -> String -> Bool) -> List String -> Except String (Bool × List String)
  | 0, _, _, _ => throw "expression too complex"
  | fuel + 1, bash, file, ts =>
    match ts with
    | a :: op :: b :: rest =>
      if (testBinaryOps bash).contains op then do
        let v <- testBinary bash a op b
        pure (v, rest)
      else if a == "(" then do
        let (v, rest) <- testOr fuel bash file (op :: b :: rest)
        match rest with
        | ")" :: rest => pure (v, rest)
        | _ => throw "missing )"
      else if testUnaryOps.contains a then pure (testUnary file a op, b :: rest)
      else pure (!a.isEmpty, op :: b :: rest)
    | [a, b] =>
      if testUnaryOps.contains a then pure (testUnary file a b, [])
      else pure (!a.isEmpty, [b])
    | [a] => pure (!a.isEmpty, [])
    | [] => throw "argument expected"

end

/-- `test` and `[`: the result, or the message of a malformed test, as the POSIX rules read
one to four arguments and a precedence parser reads more. -/
def testArgs (bash : Bool) (file : String → String → Bool) (args : List String) : Except String Bool :=
  let unexpected (t : String) : String :=
    if bash then s!"{t}: unary operator expected" else s!"{t}: unexpected operator"
  let binary := testBinaryOps bash
  match args with
  | [] => pure false
  | [a] => pure (!a.isEmpty)
  | [a, b] =>
    if a == "!" then pure b.isEmpty
    else if testUnaryOps.contains a then pure (testUnary file a b)
    else throw (unexpected a)
  | [a, b, c] =>
    if binary.contains b then testBinary bash a b c
    else if b == "-a" then pure (!a.isEmpty && !c.isEmpty)
    else if b == "-o" then pure (!a.isEmpty || !c.isEmpty)
    else if a == "!" then
      if testUnaryOps.contains b then pure (!testUnary file b c)
      else throw (unexpected b)
    else if a == "(" && c == ")" then pure (!b.isEmpty)
    else throw (if bash then s!"{b}: binary operator expected" else s!"{b}: unexpected operator")
  | [a, b, c, d] =>
    if a == "!" && binary.contains c then (testBinary bash b c d).map (!·)
    else if a == "(" && d == ")" && testUnaryOps.contains b then pure (testUnary file b c)
    else do
      let (v, rest) <- testOr (4 * args.length + 8) bash file args
      if rest.isEmpty then pure v else throw (unexpected (rest.headD ""))
  | _ => do
    let (v, rest) <- testOr (4 * args.length + 8) bash file args
    if rest.isEmpty then pure v else throw (if bash then "too many arguments" else unexpected (rest.headD ""))

end TranscriptTest.Shell
