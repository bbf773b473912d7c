import TranscriptTest.Text.Lines

/-!
# Command-line options

The command line holds transcript paths and options. An option has a long name, may have a
one-letter name, and either takes a value or is a switch. A value follows the option as the next
argument or after `=` (for a one-letter name, also glued to it); switches given by one letter
may be grouped (`-fv`). An argument that looks like an option is read as one even where a value
is awaited. After `--` every argument is a value: the awaited option's, or a path. Each option
may be given once; `--hide-fails` and `--hide-passes` exclude each other, `--group` needs
`--emit`, and at least one path is needed.

Values are taken when the next option comes, or at the end, so an option left without its value
is refused there. Reading stops at the first argument it cannot take, and at `--help` or
`--version`; the checks on the whole line come after the last argument. Refusals name the
arguments given so far in their usage line, in the order they were taken.
-/

namespace TranscriptTest.Cli

open TranscriptTest.Text

/-- How much the report shows. -/
inductive ReportFormat where
  | compact
  | terse
  | final
  | normal
  deriving Inhabited, BEq

/-- The names of the report formats, in the order they are listed. -/
def ReportFormat.all : List (String × ReportFormat) :=
  [("compact", .compact), ("terse", .terse), ("final", .final), ("normal", .normal)]

/-- What the command line asks for. -/
structure Options where
  paths : List String := []
  config : Option String := none
  interpreter : Option String := none
  timeout : Option Nat := none
  prologue : Option String := none
  prompt : Option String := none
  identityPattern : Option String := none
  consistentIdentity : Bool := false
  emit : Option String := none
  group : Option String := none
  skipEmpty : Bool := false
  noPool : Bool := false
  test : Option String := none
  output : ReportFormat := .normal
  hideFails : Bool := false
  hidePasses : Bool := false
  verbose : Bool := false
  silent : Bool := false
  noColor : Bool := false
  deriving Inhabited

/-- An option: its long name, its one-letter name, and the name of its value if it takes one. -/
structure OptionSpec where
  long : String
  short : Option Char := none
  valueName : Option String := none
  /-- Other long names it answers to. -/
  aliases : List String := []
  deriving Inhabited

/-- The options, in the order the help lists them. -/
def optionSpecs : List OptionSpec :=
  [{ long := "config", valueName := some "FILE" },
   { long := "interpreter", valueName := some "CMD", aliases := ["app"] },
   { long := "timeout", valueName := some "SECS" },
   { long := "prologue", valueName := some "SRC" },
   { long := "prompt", valueName := some "STR" },
   { long := "identity-pattern", valueName := some "RE" },
   { long := "consistent-identity" },
   { long := "emit", valueName := some "DIR" },
   { long := "group", valueName := some "NAME" },
   { long := "skip-empty" },
   { long := "no-pool" },
   { long := "test", short := some 't', valueName := some "TEST" },
   { long := "output", short := some 'o', valueName := some "OUTPUT" },
   { long := "hide-fails", short := some 'f' },
   { long := "hide-passes", short := some 'p' },
   { long := "verbose", short := some 'v' },
   { long := "silent", short := some 'q' },
   { long := "no-color" },
   { long := "help", short := some 'h' },
   { long := "version", short := some 'V' }]

/-- How an option is shown in messages: `--name <VALUE>` or `--name`. -/
def OptionSpec.shown (o : OptionSpec) : String :=
  match o.valueName with
  | some v => "--" ++ o.long ++ " <" ++ v ++ ">"
  | none => "--" ++ o.long

/-- How the paths are shown in messages. -/
def pathsShown : String := "<PATHS>..."

/-- Why a value is refused. -/
inductive BadValue where
  /-- Not one of the listed words. -/
  | notListed (words : List String)
  /-- Not a whole number; the reason as the number reader gives it. -/
  | notNumber (reason : String)
  deriving Inhabited, BEq

/-- An argument of the command line as the reader records it: an option by its long name, the
paths, or the group that every argument of the program belongs to, which is recorded with the
first argument taken. -/
inductive ArgName where
  | option (long : String)
  | paths
  | every
  deriving Inhabited, BEq

/-- Which usage line a refusal shows. -/
inductive UsageLine where
  /-- The general one, `[OPTIONS] <PATHS>...`. -/
  | general
  /-- One that names arguments: the required ones, then the ones given. -/
  | naming (required given : List ArgName)
  deriving Inhabited

/-- Why a command line is refused. -/
inductive UsageError where
  /-- An argument that is no option, with the most similar option if one is similar enough. -/
  | unexpected (arg : String) (similar : Option String) (usage : UsageLine)
  /-- A value given to a switch. -/
  | extraValue (value : String) (shown : String) (usage : UsageLine)
  | noValue (option : OptionSpec)
  | badValue (value : String) (option : OptionSpec) (why : BadValue)
  | repeated (shown : String)
  | conflict (first second : String) (usage : UsageLine)
  | missing (shown : List String) (usage : UsageLine)
  deriving Inhabited

/-- What the command line asks for. -/
inductive Request where
  | run (o : Options)
  | help
  | version
  | refused (e : UsageError)
  deriving Inhabited

/-- The Jaro similarity of two texts, computed in floating point term by term, so that equal
similarities compare equal. -/
def jaro (a b : String) : Float :=
  let xs := a.toList.toArray
  let ys := b.toList.toArray
  if xs.isEmpty && ys.isEmpty then 1.0
  else if xs.isEmpty || ys.isEmpty then 0.0
  else
    let window := (max xs.size ys.size) / 2 - 1
    -- which characters of b are matched, and the matched characters of a in order
    let (taken, fromA) := (List.range xs.size).foldl (fun (acc : Array Bool × Array Char) i =>
      let (taken, fromA) := acc
      let lo := i - window
      let hi := min (i + window + 1) ys.size
      match (List.range' lo (hi - lo)).find? (fun j => !taken.getD j true && ys.getD j ' ' == xs.getD i ' ') with
      | some j => (taken.set! j true, fromA.push (xs.getD i ' '))
      | none => (taken, fromA)) (Array.replicate ys.size false, #[])
    let fromB := ((List.range ys.size).filter (fun j => taken.getD j false)).map (fun j => ys.getD j ' ')
    let m := fromA.size
    if m == 0 then 0.0
    else
      let t := ((fromA.toList.zip fromB).filter (fun (c, d) => c != d)).length / 2
      (m.toFloat / xs.size.toFloat + m.toFloat / ys.size.toFloat + (m - t).toFloat / m.toFloat) / 3.0

/-- The most similar of some candidates, if it is similar enough (more than 0.7); of equally
similar ones, the last. -/
def similarTo (text : String) (candidates : List String) : Option String :=
  let scored := candidates.filterMap fun c =>
    let s := jaro text c
    if s > 0.7 then some (c, s) else none
  (scored.foldl (fun best (c, s) => match best with
    | some (_, bs) => if s >= bs then some (c, s) else best
    | none => some (c, s)) none).map (·.1)

/-- Reads a whole number of seconds as the number reader does. -/
def readSeconds (text : String) : Except String Nat :=
  let digits := if text.startsWith "+" then String.ofList (text.toList.drop 1) else text
  if digits.isEmpty then .error "cannot parse integer from empty string"
  else if !digits.all Char.isDigit then .error "invalid digit found in string"
  else
    let n := digits.foldl (fun n c => 10 * n + (c.toNat - 48)) 0
    if n ≥ Nat.pow 2 64 then .error "number too large to fit in target type" else .ok n

/-- Sets a switch. -/
def Options.setSwitch (o : Options) : String → Options
  | "consistent-identity" => { o with consistentIdentity := true }
  | "skip-empty" => { o with skipEmpty := true }
  | "no-pool" => { o with noPool := true }
  | "hide-fails" => { o with hideFails := true }
  | "hide-passes" => { o with hidePasses := true }
  | "verbose" => { o with verbose := true }
  | "silent" => { o with silent := true }
  | "no-color" => { o with noColor := true }
  | _ => o

/-- Sets an option's value, or says why the value is refused. -/
def Options.setValue (o : Options) (spec : OptionSpec) (v : String) : Except UsageError Options :=
  match spec.long with
  | "config" => .ok { o with config := some v }
  | "interpreter" => .ok { o with interpreter := some v }
  | "timeout" =>
    match readSeconds v with
    | .ok n => .ok { o with timeout := some n }
    | .error why => .error (.badValue v spec (.notNumber why))
  | "prologue" => .ok { o with prologue := some v }
  | "prompt" => .ok { o with prompt := some v }
  | "identity-pattern" => .ok { o with identityPattern := some v }
  | "emit" => .ok { o with emit := some v }
  | "group" => .ok { o with group := some v }
  | "test" => .ok { o with test := some v }
  | "output" =>
    match ReportFormat.all.lookup v with
    | some f => .ok { o with output := f }
    | none => .error (.badValue v spec (.notListed (ReportFormat.all.map (·.1))))
  | _ => .ok o

/-- Values read and not yet taken: an option's (none yet, or its value), or paths. An option
is taken when the next argument that is no value of it comes, or at the end. -/
inductive Pending where
  | option (spec : OptionSpec) (values : List String)
  | paths (values : List String)
  deriving Inhabited

/-- What the reader is in the middle of. -/
inductive Awaiting where
  | nothing
  /-- An option's value: the next argument that looks like no option is it. -/
  | value (spec : OptionSpec)
  /-- Paths: more of them may follow. -/
  | paths
  deriving Inhabited

/-- What has been read so far. -/
structure Reading where
  options : Options := {}
  /-- The arguments taken, in the order first taken. -/
  matched : List ArgName := []
  pending : Option Pending := none
  awaiting : Awaiting := .nothing
  /-- Whether `--` has been read: every argument after it is a value. -/
  trailing : Bool := false
  deriving Inhabited

/-- Records an argument as taken, and with the first one the group of every argument. -/
def Reading.mark (r : Reading) (a : ArgName) : Reading :=
  let m := if r.matched.contains a then r.matched else r.matched ++ [a]
  { r with matched := if m.contains .every then m else m ++ [.every] }

/-- The reading after taking something, and the refusal met on the way, if any. The arguments
taken before a refusal stay taken. -/
abbrev Taken := Reading × Option UsageError

/-- Takes an option with the values read for it: an option without a value is refused, and so
is one taken before, which is no longer counted as taken; then the value is checked. -/
def Reading.takeOption (r : Reading) (spec : OptionSpec) (values : List String) : Taken :=
  match values with
  | [] => (r, some (.noValue spec))
  | v :: _ =>
    if r.matched.contains (.option spec.long) then
      ({ r with matched := r.matched.erase (.option spec.long) }, some (.repeated spec.shown))
    else
      let r := r.mark (.option spec.long)
      match r.options.setValue spec v with
      | .ok o => ({ r with options := o }, none)
      | .error e => (r, some e)

/-- Takes what is pending. -/
def Reading.resolve (r : Reading) : Taken :=
  match r.pending with
  | none => (r, none)
  | some (.option spec vs) => { r with pending := none }.takeOption spec vs
  | some (.paths vs) =>
    let r := { r with pending := none }.mark .paths
    ({ r with options := { r.options with paths := r.options.paths ++ vs } }, none)

/-- What reading one argument gives: go on, or stop with a request. -/
abbrev Step := Except Request Reading

/-- Takes what is pending; a refusal met there stops the reading. -/
def Reading.settle (r : Reading) : Step :=
  match r.resolve with
  | (r, none) => .ok r
  | (_, some e) => .error (.refused e)

/-- Takes a switch, after what is pending. -/
def Reading.switch (r : Reading) (spec : OptionSpec) : Step := do
  let r ← r.settle
  match spec.long with
  | "help" => throw .help
  | "version" => throw .version
  | _ =>
    if r.matched.contains (.option spec.long) then throw (.refused (.repeated spec.shown))
    else
      let r := r.mark (.option spec.long)
      pure { r with options := r.options.setSwitch spec.long }

/-- Takes an option with its value, after what is pending. -/
def Reading.value (r : Reading) (spec : OptionSpec) (v : String) : Step := do
  let r ← r.settle
  match r.takeOption spec [v] with
  | (r, none) => pure r
  | (_, some e) => throw (.refused e)

/-- Starts an option whose value is the next argument, after what is pending. -/
def Reading.expect (r : Reading) (spec : OptionSpec) : Step := do
  let r ← r.settle
  pure { r with pending := some (.option spec []), awaiting := .value spec }

/-- The option with a long name. -/
def findLong (name : String) : Option OptionSpec :=
  optionSpecs.find? fun o => o.long == name || o.aliases.contains name

/-- The option with a one-letter name. -/
def findShort (c : Char) : Option OptionSpec :=
  optionSpecs.find? fun o => o.short == some c

/-- The names taken so far that a usage line may name: options and the paths. -/
def Reading.givenArgs (r : Reading) : List ArgName :=
  r.matched.filter (· != .every)

/-- The refusal of an argument that is no option: what was pending is taken if it can be, the
most similar option is counted as given, and the usage line names what was given. -/
def Reading.unknownLong (r : Reading) (name : String) : Request :=
  let (r, _) := r.resolve
  let names := optionSpecs.flatMap fun o => o.long :: o.aliases
  let similar := similarTo name names
  let r := match similar.bind findLong with
    | some spec => r.mark (.option spec.long)
    | none => r
  let given := r.givenArgs
  .refused (.unexpected ("--" ++ name) (similar.map ("--" ++ ·))
    (if given.isEmpty then .general else .naming [.paths] given))

/-- Reads one-letter options grouped in one argument: switches, and at most one option that
takes the rest of the argument, or the next argument, as its value. -/
def readShorts (r : Reading) : List Char → Step
  | [] => .ok r
  | c :: cs =>
    match findShort c with
    | none => .error (.refused (.unexpected ("-" ++ String.singleton c) none .general))
    | some spec =>
      match spec.valueName with
      | none => do
        let r ← r.switch spec
        readShorts r cs
      | some _ =>
        let glued := match cs with
          | '=' :: more => more
          | more => more
        if glued.isEmpty then r.expect spec
        else r.value spec (String.ofList glued)

/-- Reads an argument that is a value: the awaited option's, or a path. -/
def Reading.positional (r : Reading) (arg : String) : Step :=
  match r.awaiting, r.pending with
  | .value spec, some (.option _ vs) =>
    .ok { r with pending := some (.option spec (vs ++ [arg])), awaiting := .nothing }
  | _, some (.paths vs) => .ok { r with pending := some (.paths (vs ++ [arg])), awaiting := .paths }
  | _, _ => do
    let r ← r.settle
    pure { r with pending := some (.paths [arg]), awaiting := .paths }

/-- Reads an argument that starts with `--` and is more: a long option, with its value after
`=` if one is glued to it. -/
def Reading.long (r : Reading) (body : String) : Step :=
  let (name, inline) := match body.splitOn "=" with
    | [n] => (n, none)
    | n :: vs => (n, some ("=".intercalate vs))
    | [] => (body, none)
  match findLong name with
  | none => .error (r.unknownLong name)
  | some spec =>
    match spec.valueName, inline with
    | none, none => r.switch spec
    | none, some v =>
      let given := (r.matched.filter (· != .paths)) ++ [.option spec.long]
      .error (.refused (.extraValue v spec.shown (.naming [.paths] given)))
    | some _, some v => r.value spec v
    | some _, none => r.expect spec

/-- Reads one argument. -/
def Reading.read (r : Reading) (arg : String) : Step :=
  if r.trailing then r.positional arg
  else if arg == "--" then .ok { r with trailing := true }
  else if arg.startsWith "--" then r.long (String.ofList (arg.toList.drop 2))
  else if arg.startsWith "-" && arg != "-" then readShorts r (arg.toList.drop 1)
  else r.positional arg

/-- Reads the arguments, then takes what is pending. -/
def readArgs : Reading → List String → Step
  | r, [] => r.settle
  | r, arg :: rest => do
    let r ← r.read arg
    readArgs r rest

/-- The refusal for missing arguments: the paths, and `--emit` when `--group` is given. The
message lists the missing options, then the paths; the usage line names the required
arguments, then those given that are not required, then the missing ones. -/
def Reading.missingRefusal (r : Reading) : Request :=
  let o := r.options
  let required := [ArgName.paths] ++ (if o.group.isSome then [.option "emit"] else [])
  let missing := required.filter fun a => match a with
    | .paths => o.paths.isEmpty
    | _ => o.emit.isNone
  let shown := (if missing.contains (.option "emit") then
      [((findLong "emit").map OptionSpec.shown).getD "--emit"] else []) ++
    (if missing.contains .paths then [pathsShown] else [])
  let given := r.givenArgs.filter (fun a => !required.contains a) ++ missing
  .refused (.missing shown (.naming required given))

/-- Reads a command line: the options, or why it is refused, or a request for help or the
version. After the last argument, options that exclude each other are refused, the first of
them given named first, then missing arguments. -/
def Request.ofArgs (args : List String) : Request :=
  match readArgs {} args with
  | .error req => req
  | .ok r =>
    let o := r.options
    let shownOf (long : String) : String :=
      ((findLong long).map OptionSpec.shown).getD ("--" ++ long)
    let given := r.givenArgs
    let excluding := given.find? fun a => a == .option "hide-fails" || a == .option "hide-passes"
    let other := match excluding with
      | some (.option "hide-fails") => "hide-passes"
      | _ => "hide-fails"
    match excluding with
    | some (.option first) =>
      if given.contains (.option other) then
        let kept := given.filter (· != .option other)
        let needed := if kept.contains (.option "group") && !kept.contains (.option "emit") then
          [ArgName.option "emit"] else []
        .refused (.conflict (shownOf first) (shownOf other) (.naming [.paths] (needed ++ kept)))
      else if o.paths.isEmpty || (o.group.isSome && o.emit.isNone) then r.missingRefusal
      else .run o
    | _ =>
      if o.paths.isEmpty || (o.group.isSome && o.emit.isNone) then r.missingRefusal
      else .run o

end TranscriptTest.Cli
