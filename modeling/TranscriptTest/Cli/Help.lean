import TranscriptTest.Cli.Options

/-!
# Help, version and usage messages

The help lists the paths, then every option with its description on the next line, indented
by ten columns, and a blank line between options; an option's default, other names and accepted
words follow its description after an indented blank line. Runs of blank lines are cut to
one. A refused command line is explained in one message that ends with a pointer to `--help`,
and for most refusals the usage line.
-/

namespace TranscriptTest.Cli

/-- The program's name. -/
def programName : String := "session-doctest"

/-- The program's version. -/
def programVersion : String := "0.3.0"

/-- What `--version` prints. -/
def versionText : String := programName ++ " " ++ programVersion ++ "\n"

/-- The usage line. -/
def usageLine : String := "Usage: " ++ programName ++ " [OPTIONS] <PATHS>..."

/-- The description of an option in the help. -/
def OptionSpec.description (o : OptionSpec) : String :=
  match o.long with
  | "config" => "YAML config file with interpreter, prompt and identity settings"
  | "interpreter" => "Interpreter driver command (default: node with the bundled driver)"
  | "timeout" => "Seconds allowed for each statement"
  | "prologue" => "Statement evaluated before every session"
  | "prompt" => "Primary prompt marker; the continuation prompt is derived from it"
  | "identity-pattern" => "Regular expression for identity hashes, with a named group \x60hash\x60"
  | "consistent-identity" => "Require each expected hash to map to one actual hash"
  | "emit" => "Write each session as a stand-alone file under DIR instead of running it"
  | "group" => "Sub-directory for emitted session files"
  | "skip-empty" => "Skip files without any statement instead of reporting them"
  | "no-pool" => "Start one interpreter process per session instead of sharing a pool"
  | "test" => "Run a single session by number or path fragment; \x60list\x60 or 0 lists them"
  | "output" => "Report format"
  | "hide-fails" => "Hide unexpected results"
  | "hide-passes" => "Hide expected results"
  | "verbose" => "Verbose output"
  | "silent" => "Print nothing, only set the exit status"
  | "no-color" => "Disable colored output"
  | "help" => "Print help"
  | "version" => "Print version"
  | _ => ""

/-- The notes after an option's description: default, other names, accepted words. -/
def OptionSpec.notes (o : OptionSpec) : List String :=
  (if o.long == "output" then ["[default: normal]"] else []) ++
  (match o.aliases with
    | [] => []
    | [a] => ["[alias: --" ++ a ++ "]"]
    | as => ["[aliases: " ++ ", ".intercalate (as.map ("--" ++ ·)) ++ "]"]) ++
  (if o.long == "output" then
    ["[possible values: " ++ ", ".intercalate (ReportFormat.all.map (·.1)) ++ "]"] else [])

/-- Indentation of descriptions. -/
def descriptionIndent : String := "          "

/-- The help lines of one option. -/
def OptionSpec.helpLines (o : OptionSpec) : List String :=
  let head := match o.short with
    | some c => "  -" ++ String.singleton c ++ ", " ++ o.shown
    | none => "      " ++ o.shown
  let notes := o.notes
  head :: (descriptionIndent ++ o.description) ::
    (if notes.isEmpty then [] else descriptionIndent :: notes.map (descriptionIndent ++ ·))

/-- Whether a help line is blank. -/
def isBlankLine (line : String) : Bool :=
  line.all (fun c => c == ' ' || c == '\t')

/-- Drops every blank line that follows a blank line. -/
def collapseBlankLines : List String → Bool → List String
  | [], _ => []
  | l :: rest, afterBlank =>
    let blank := isBlankLine l
    if blank && afterBlank then collapseBlankLines rest true
    else l :: collapseBlankLines rest blank

/-- What `--help` prints. -/
def helpText : String :=
  let about := "Replays interactive interpreter transcripts and checks the printed output"
  let options := (optionSpecs.map OptionSpec.helpLines).intersperse [""]
  let lines := [about, "", usageLine, "", "Arguments:", "  " ++ pathsShown, descriptionIndent, "",
    "Options:"] ++ options.flatten
  "\n".intercalate (collapseBlankLines lines false) ++ "\n"

/-- The pointer to `--help` that ends every usage message. -/
def helpPointer : String := "For more information, try '--help'."

/-- The accepted words of an option, as a usage message lists them. -/
def OptionSpec.wordsNote (o : OptionSpec) : String :=
  if o.long == "output" then
    "\n  [possible values: " ++ ", ".intercalate (ReportFormat.all.map (·.1)) ++ "]"
  else ""

/-- The group of every argument of the program, as a usage line names it: the paths, then each
option but `--help` and `--version`. -/
def everyShown : String :=
  let options := optionSpecs.filter fun o => o.long != "help" && o.long != "version"
  "<" ++ "|".intercalate ("PATHS" :: options.map OptionSpec.shown) ++ ">"

/-- Whether an option belongs to the group of every argument. -/
def inEvery (long : String) : Bool := long != "help" && long != "version"

/-- The usage line that names arguments: options once each in the order named, then the group
of every argument if it is named, whose members are then not named again, then the paths. With
nothing given it is the general line. -/
def UsageLine.text : UsageLine → String
  | .general => usageLine
  | .naming required given =>
    if given.isEmpty then usageLine
    else
      let names := required ++ given
      let every := names.contains .every
      let longs := names.filterMap fun a => match a with
        | .option l => if every && inEvery l then none else some l
        | _ => none
      let longs := longs.foldl (fun acc l => if acc.contains l then acc else acc ++ [l]) []
      let shown := longs.map fun l => ((findLong l).map OptionSpec.shown).getD ("--" ++ l)
      let tail := if every then [everyShown]
        else if names.contains .paths then [pathsShown] else []
      "Usage: " ++ " ".intercalate (programName :: shown ++ tail)

/-- The message for a refused command line. -/
def UsageError.message : UsageError → String
  | .unexpected arg similar usage =>
    let tip := match similar with
      | some s => "  tip: a similar argument exists: '" ++ s ++ "'"
      | none => "  tip: to pass '" ++ arg ++ "' as a value, use '-- " ++ arg ++ "'"
    "error: unexpected argument '" ++ arg ++ "' found\n\n" ++ tip ++ "\n\n" ++ usage.text ++
      "\n\n" ++ helpPointer ++ "\n"
  | .extraValue v shown usage =>
    "error: unexpected value '" ++ v ++ "' for '" ++ shown ++ "' found; no more were expected\n\n" ++
      usage.text ++ "\n\n" ++ helpPointer ++ "\n"
  | .noValue o =>
    "error: a value is required for '" ++ o.shown ++ "' but none was supplied" ++ o.wordsNote ++
      "\n\n" ++ helpPointer ++ "\n"
  | .badValue "" o (.notListed _) =>
    "error: a value is required for '" ++ o.shown ++ "' but none was supplied" ++ o.wordsNote ++
      "\n\n" ++ helpPointer ++ "\n"
  | .badValue v o (.notListed words) =>
    let tip := match similarTo v words with
      | some s => "\n\n  tip: a similar value exists: '" ++ s ++ "'"
      | none => ""
    "error: invalid value '" ++ v ++ "' for '" ++ o.shown ++ "'" ++ o.wordsNote ++ tip ++ "\n\n" ++
      helpPointer ++ "\n"
  | .badValue v o (.notNumber why) =>
    "error: invalid value '" ++ v ++ "' for '" ++ o.shown ++ "': " ++ why ++ "\n\n" ++ helpPointer ++ "\n"
  | .repeated shown =>
    "error: the argument '" ++ shown ++ "' cannot be used multiple times\n\n" ++ usageLine ++ "\n\n" ++
      helpPointer ++ "\n"
  | .conflict first second usage =>
    "error: the argument '" ++ first ++ "' cannot be used with '" ++ second ++ "'\n\n" ++
      usage.text ++ "\n\n" ++ helpPointer ++ "\n"
  | .missing shown usage =>
    "error: the following required arguments were not provided:\n" ++
      String.join (shown.map fun s => "  " ++ s ++ "\n") ++ "\n" ++
      usage.text ++ "\n\n" ++ helpPointer ++ "\n"

end TranscriptTest.Cli
