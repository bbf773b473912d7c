import TranscriptTest.Cli.Help
import TranscriptTest.Config.Settings
import TranscriptTest.Config.File
import TranscriptTest.Files.Load
import TranscriptTest.Transcript.Emit
import TranscriptTest.Worker.Interpreter
import TranscriptTest.Report.Human

/-!
# A run of the program

A run reads its options, the configuration file if one is named, and the transcripts, then
either lists the sessions, writes them out as stand-alone files, or replays them and prints the
report. It ends with status 0 when everything went as expected, 1 when a session had an
unexpected verdict or a file could not be loaded, and 2 when the command line, the
configuration, the session selection, the interpreter's start or writing files failed.

Everything a run does to the world is in its result: the text for standard output and standard
error, and the files written.
-/

namespace TranscriptTest.Cli

open TranscriptTest.Config TranscriptTest.Files TranscriptTest.Transcript TranscriptTest.Verdict
open TranscriptTest.Report TranscriptTest.Replay TranscriptTest.Worker TranscriptTest.Text

/-- What a run gives. -/
structure Outcome where
  exit : Nat
  stdout : String := ""
  stderr : String := ""
  /-- Files written, by path, in the order written; a later write of a path replaces it. -/
  written : List (String × String) := []
  deriving Inhabited

/-- A run that stops with status 2. -/
def failed (stdout stderr : String := "") : Outcome :=
  { exit := 2, stdout, stderr }

/-- The command-line values that take precedence over the configuration file. -/
def Options.overrides (o : Options) : Overrides :=
  { command := o.interpreter, timeout := o.timeout, prologue := o.prologue, prompt := o.prompt,
    identityPattern := o.identityPattern, consistentIdentity := o.consistentIdentity,
    group := o.group, quiet := o.silent }

/-- The report kind of a format. -/
def ReportFormat.kind : ReportFormat → OutputKind
  | .compact => .compact
  | .terse => .terse
  | .final => .final
  | .normal => .normal

/-- The list of sessions `-t list` prints. -/
def sessionList (sessions : List Session) : String :=
  "Available sessions:\n" ++ String.join ((sessions.zipIdx 1).map fun (s, i) =>
    fillTemplate (slot "index" ++ ": " ++ slot "session" ++ " (" ++ slot "statements" ++ " statements)")
      [("index", toString i), ("session", s.sourceTag.file), ("statements", toString s.statements.length)]
      ++ "\n")

/-- Reads a session number: digits, perhaps after a plus sign. -/
def sessionNumber? (text : String) : Option Nat :=
  let digits := if text.startsWith "+" then String.ofList (text.toList.drop 1) else text
  if digits.isEmpty || !digits.all Char.isDigit then none
  else
    let n := digits.foldl (fun n c => 10 * n + (c.toNat - 48)) 0
    if n ≥ Nat.pow 2 64 then none else some n

/-- The sessions a `-t` selector picks, or the run's end: the list on standard output for `0`
or `list`, the list on standard error and status 2 for a number out of range or a fragment
that no file name contains. -/
def selectSessions (sessions : List Session) (selector : String) : Except Outcome (List Session) :=
  let chosen := trim selector
  if chosen == "0" || chosen.toLower == "list" then .error { exit := 0, stdout := sessionList sessions }
  else match sessionNumber? chosen with
    | some n =>
      if n == 0 || n > sessions.length then .error (failed "" (sessionList sessions))
      else .ok ((sessions.drop (n - 1)).take 1)
    | none =>
      let picked := sessions.filter fun s => chosen.isEmpty || (s.sourceTag.file.splitOn chosen).length > 1
      if picked.isEmpty then
        .error (failed "" (if sessions.isEmpty then "" else sessionList sessions))
      else .ok picked

/-- Writes every session as a stand-alone file under `dir/group`; stops at the first that cannot
be written, where a file stands in the way of a directory or a directory in the way of the
file. -/
def emitSessions (tree : FileTree) (dir : String) (settings : Settings) (sessions : List Session) :
    Outcome :=
  let outDir := join dir settings.group
  let blocked := match resolveNames outDir with
    | some names => (List.range names.length).any fun k => tree.isFile (names.take (k + 1))
    | none => false
  if blocked then failed
  else
    let step (acc : Outcome) (s : Session) : Outcome :=
      if acc.exit != 0 then acc
      else
        let path := join outDir (fileNameFor s settings.prompts)
        if tree.isDir path then { acc with exit := 2 }
        else { acc with written := acc.written ++ [(path, standaloneText s settings.prologue settings.prompts)] }
    sessions.foldl step { exit := 0 }

/-- The lines the final report's companion writes to standard error for one message. -/
def messageLines (color : Bool) (m : Message) : String :=
  let place := bold.paint color (m.at_.display ++ ":")
  match m.level with
  | .error => place ++ " " ++ boldRed.paint color "error:" ++ "\n" ++ m.text ++ "\n"
  | .warning => place ++ " " ++ boldYellow.paint color "warning:" ++ " " ++ m.text ++ "\n"

/-- Replays the sessions and reports; an interpreter that does not start ends the run with
status 2. -/
def replayAll (tree : FileTree) (o : Options) (settings : Settings) (loaded : Loaded)
    (sessions : List Session) : Outcome :=
  let interp : Interpreter := { command := settings.command, args := settings.args, timeout := settings.timeout }
  let isLocal (p : String) : Bool :=
    match resolveNames p with
    | some names => tree.isFile names || tree.isDirNames names
    | none => false
  let executions : Except String (List Execution) :=
    if o.noPool then
      match interp.validate isLocal with
      | .error e => .error e
      | .ok () => .ok (sessions.map fun s => interp.runSession isLocal s settings.prologue settings.normalizer)
    else interp.runPooled isLocal sessions settings.prologue settings.normalizer
  match executions with
  | .error _ => failed
  | .ok es =>
    let judged := (sessions.zip es).map fun (s, e) => judge s e
    let results := judged.map (·.1)
    let summary : Summary :=
      ⟨Tally.ofVerdicts (results.map (·.verdict)), results, loaded.failures⟩
    let color := !o.noColor
    let stderr := if !o.silent && o.output == .final then
        String.join ((judged.filterMap (·.2)).map (messageLines color))
      else ""
    let stdout := if o.silent then ""
      else render ⟨o.verbose, o.hideFails, o.hidePasses, color⟩ o.output.kind summary
    { exit := if summary.success then 0 else 1, stdout, stderr }

/-- A run with these options in a working directory. -/
def runOptions (tree : FileTree) (o : Options) : Outcome :=
  let file : Except Unit (Option (ConfigFile × String)) := match o.config with
    | none => .ok none
    | some path =>
      match tree.readText path with
      | .error _ => .error ()
      | .ok text =>
        match ConfigFile.read text with
        | .ok c => .ok (some (c, path))
        | .error _ => .error ()
  match file with
  | .error () => failed
  | .ok file =>
    match resolve file o.overrides with
    | .error _ => failed
    | .ok settings =>
      let loaded := loadSessions tree o.paths settings.extensions settings.prompts o.skipEmpty
      let selected := match o.test with
        | some selector => selectSessions loaded.sessions selector
        | none => .ok loaded.sessions
      match selected with
      | .error outcome => outcome
      | .ok sessions =>
        match o.emit with
        | some dir => emitSessions tree dir settings sessions
        | none => replayAll tree o settings loaded sessions

/-- The files a run created in its working directory, by relative path in path order, each with
its last content: written files outside the directory and files it held before are left out. -/
def Outcome.newFiles (out : Outcome) (tree : FileTree) : List (String × String) :=
  let keyed := out.written.filterMap fun (p, text) =>
    (resolveNames p).map fun names => (names, text)
  let fresh := keyed.filter fun (names, _) => !tree.isFile names
  let last := fresh.foldl (fun acc (names, text) =>
    (acc.filter (·.1 != names)) ++ [(names, text)]) []
  (last.mergeSort fun a b => namesBefore a.1 b.1).map fun (names, text) => ("/".intercalate names, text)

/-- The paths a run may look at: the transcripts, the configuration file, a relative
interpreter path, and the directory sessions are written to. -/
def Options.touchedPaths (o : Options) : List String :=
  o.paths ++ o.config.toList ++
    (o.interpreter.toList.filter fun c => c.contains '/' && !isAbsolute c) ++ o.emit.toList

/-- The paths a run with these arguments may look at. -/
def touchedPaths (args : List String) : List String :=
  match Request.ofArgs args with
  | .run o => o.touchedPaths
  | _ => []

/-- A run of the program with these arguments in a working directory. -/
def run (tree : FileTree) (args : List String) : Outcome :=
  match Request.ofArgs args with
  | .help => { exit := 0, stdout := helpText }
  | .version => { exit := 0, stdout := versionText }
  | .refused e => failed "" (e.message ++ "\n")
  | .run o => runOptions tree o

end TranscriptTest.Cli
