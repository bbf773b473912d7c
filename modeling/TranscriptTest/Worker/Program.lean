import TranscriptTest.Shell.Run
import TranscriptTest.Files.Path
import TranscriptTest.Text.Template
import TranscriptTest.Text.Bytes
import TranscriptTest.Decimal.Format
import TranscriptTest.Python.Run

/-!
# Programs an interpreter command starts

An interpreter command names a program: a bare name is looked up on the search path, a name with
a slash is a path. The programs the system has are the evaluation service (`node`, which runs
the bundled driver when it is given no arguments of its own, and a script given by `-e`), `cat`,
the shells `sh`, `bash` and `dash` with a script given by `-c`, the filters `head`, `tr` and
`seq`, which run as the shell's commands of those names, the stream editor `sed`, the
interpreter `python3` with a program given by `-c`, `sleep`, `yes`, which writes its line
without end, and a few that read nothing and end (`true`, `false`, `echo`). The evaluation
service lives in `/usr/local/bin`, the others in `/usr/bin` and `/bin`. A path to a directory,
or to a file that is not executable, cannot be started; a name found nowhere is not found.
-/

namespace TranscriptTest.Worker

open TranscriptTest.Files TranscriptTest.Text

/-- A program an interpreter command starts. -/
inductive Program where
  /-- The evaluation service: one JSON reply line for each request line. -/
  | service
  /-- A script the evaluation engine runs on its own. -/
  | script (source : String)
  /-- Writes back every line it reads. -/
  | echo
  /-- A shell running a script; `bash` tells which shell. -/
  | shell (script : Shell.Command) (bash : Bool)
  /-- Writes a text and ends. -/
  | prints (text : String)
  /-- Writes a line over and over. -/
  | repeats (line : String)
  /-- Ends at once. -/
  | quits
  /-- Reads its input and never writes. -/
  | mute
  /-- Writes nothing and ends after some seconds. -/
  | sleeps (seconds : Float)
  /-- The stream editor with its command line. -/
  | edits (inv : Shell.Sed.Invocation)
  /-- An interpreted program, with whether its output is unbuffered. -/
  | interprets (program : List Python.Stmt) (unbuffered : Bool)
  deriving Inhabited

/-- Why a program cannot be started. -/
inductive SpawnError where
  | notFound
  | permissionDenied
  deriving Inhabited, BEq

/-- The system's text for a start failure. -/
def SpawnError.ioText : SpawnError → String
  | .notFound => "No such file or directory (os error 2)"
  | .permissionDenied => "Permission denied (os error 13)"

/-- The message of a start failure when interpreters are pooled. -/
def SpawnError.pooledMessage (command : String) (e : SpawnError) : String :=
  fillTemplate ("Failed to start '" ++ slot "cmd" ++ "': " ++ slot "error") [("cmd", command), ("error", e.ioText)]

/-- The message of a start failure when each session starts its own interpreter: a command that
is not found is named as such. -/
def SpawnError.message (command : String) : SpawnError → String
  | .notFound => fillTemplate ("Interpreter command '" ++ slot "cmd" ++ "' not found") [("cmd", command)]
  | e => e.pooledMessage command

/-- The directories of the system that a command may name by mistake. -/
def systemDirectories : List String :=
  ["/", "/bin", "/boot", "/dev", "/etc", "/home", "/lib", "/lib64", "/media", "/mnt", "/opt",
   "/proc", "/root", "/run", "/sbin", "/srv", "/sys", "/tmp", "/usr", "/usr/bin", "/usr/lib",
   "/usr/local", "/usr/local/bin", "/usr/sbin", "/usr/share", "/var", "/var/tmp"]

/-- The directories searched for a bare command name. -/
def searchPath : List String := ["/usr/local/bin", "/usr/bin", "/bin"]

/-- Whether a directory of the search path holds the program of a name: the evaluation service
is installed apart from the system's own programs. -/
def installedIn (dir name : String) : Bool :=
  if name == "node" then dir == "/usr/local/bin" else dir != "/usr/local/bin"

/-- The program a shell runs for `-c script`; the script is read as bytes. -/
def shellProgram (bash : Bool) (args : List String) : Program :=
  match args with
  | "-c" :: script :: _ =>
    match Shell.parseScript bash (toByteText script) with
    | .ok command => .shell command bash
    | .error _ => .quits
  | [] => .mute
  | _ => .quits

/-- One duration of `sleep`: a number with an optional unit, `s`, `m`, `h` or `d`. -/
def sleepSeconds (arg : String) : Option Float :=
  let (x, read, after) := Decimal.readDoublePrefix arg.toList
  if !read || x.isNaN || x < 0 then none
  else match after with
    | [] | ['s'] => some x
    | ['m'] => some (x * 60)
    | ['h'] => some (x * 3600)
    | ['d'] => some (x * 86400)
    | _ => none

/-- `sleep`: the sum of its durations; with none, or one it cannot read, it ends at once. -/
def sleepProgram (args : List String) : Program :=
  match args.mapM sleepSeconds with
  | some (d :: ds) => .sleeps (ds.foldl (· + ·) d)
  | _ => .quits

/-- `python3` with these arguments: the program of `-c`, which ends at once if it does not parse;
a file to run is not there; with neither it reads its input, which never ends. -/
def pythonProgram (args : List String) : Program :=
  let inv := Python.Invocation.ofArgs args
  match inv.source with
  | some code =>
    match Python.parseProgram code with
    | .ok program => .interprets program inv.unbuffered
    | .error _ => .quits
  | none => if inv.missingFile then .quits else .mute

/-- `node` with these arguments: options before `-e` are passed over and its script runs alone;
a file to run is not there; with no script it reads its input, which never ends. -/
def nodeProgram : List String → Program
  | [] => .mute
  | flag :: rest =>
    if flag == "-e" || flag == "--eval" then
      match rest with
      | source :: _ => .script source
      | [] => .quits
    else if flag.startsWith "-" then nodeProgram rest
    else .quits

/-- The program a name found on the search path starts with these arguments; `none` for the
bundled driver's arguments. -/
def programNamed (name : String) (args : Option (List String)) : Option Program :=
  let given := args.getD []
  match name with
  | "node" =>
    match args with
    | none => some .service
    | some args => some (nodeProgram args)
  | "cat" => some (if given.all (fun a => a == "-" || a == "-u") then .echo else .quits)
  | "head" | "tr" | "seq" =>
    some (.shell (.simple [] ((name :: given).map fun a => [Shell.Piece.text (toByteText a) true]) []) false)
  | "sh" => some (shellProgram false given)
  | "bash" => some (shellProgram true given)
  | "dash" => some (shellProgram false given)
  | "true" => some .quits
  | "false" => some .quits
  | "echo" => some (.prints (" ".intercalate given ++ "\n"))
  | "python3" => some (pythonProgram given)
  | "yes" => some (.repeats (if given.isEmpty then "y" else " ".intercalate given))
  | "sleep" => some (sleepProgram given)
  | "sed" =>
    match Shell.Sed.Invocation.ofArgs (given.map toByteText) with
    | .ok inv => some (if inv.files.isEmpty then .edits inv else .quits)
    | .error _ => some .quits
  | _ => none

/-- Starts a command. -/
def spawnProgram (isLocal : String → Bool) (command : String) (args : Option (List String)) :
    Except SpawnError Program :=
  if command.contains '/' then
    if isAbsolute command then
      let path := if command == "/" then command else trimSeparators command
      if systemDirectories.contains path then .error .permissionDenied
      else match parent? path, fileName? path with
        | some dir, some name =>
          if searchPath.contains dir && installedIn dir name then
            match programNamed name args with
            | some p => .ok p
            | none => .error .notFound
          else .error .notFound
        | _, _ => .error .notFound
    else if isLocal command then .error .permissionDenied
    else .error .notFound
  else match programNamed command args with
    | some p => .ok p
    | none => .error .notFound

end TranscriptTest.Worker
