import TranscriptTest.Shell.Syntax
import TranscriptTest.Shell.Arith
import TranscriptTest.Shell.Words
import TranscriptTest.Shell.Printf
import TranscriptTest.Shell.Utilities
import TranscriptTest.Shell.Sed
import TranscriptTest.Text.Bytes
import TranscriptTest.Decimal.Format

/-!
# Running shell scripts

A script runs against the lines given to it so far: `read` takes the next line, and a `read`
with no line left stops the run, waiting. Because a run depends only on the lines given, the
output of a script that is fed one more line extends the output it had before, so a waiting
script is resumed by running it again on the longer input.
-/

namespace TranscriptTest.Shell

open TranscriptTest.Text TranscriptTest.Decimal

/-- Why a run stopped before its script ended. -/
inductive Stop where
  /-- It needs a line of input that has not come. -/
  | waiting
  | exited (code : Nat)
  /-- The process was killed by a signal, as a division that overflows kills it. -/
  | crashed
  /-- It ran out of steps. -/
  | exhausted
  /-- `return` from a function, with its status. -/
  | returned (code : Nat)
  /-- `break` or `continue`: the loops still to leave, and whether the last one goes on. -/
  | broke (levels : Nat) (continuing : Bool)
  deriving Inhabited, BEq

/-- Where a file descriptor leads. -/
inductive Sink where
  /-- The program's standard output. -/
  | stdout
  /-- The output collected at a depth of substitutions and pipes. -/
  | capture (level : Nat)
  | stderr
  | discard
  | closed
  /-- A file, appended to. -/
  | file (path : String)
  deriving Inhabited, BEq

/-- Input from a pipe, a file or a here-document: the text not read yet, and whether it ends
there or the writer may still add to it. -/
structure PipeInput where
  text : String
  ends : Bool
  deriving Inhabited

/-- The state of a run. -/
structure Env where
  vars : List (String × String) := []
  readonly : List String := []
  functions : List (String × Command) := []
  /-- The positional parameters. -/
  args : List String := []
  /-- Lines of the program's input not read yet. -/
  input : List String
  /-- The input of a command reading a pipe, a file or a here-document instead of the
  program's input. -/
  piped : Option PipeInput := none
  /-- What the program's standard output has received. -/
  out : String := ""
  /-- The output collected by substitutions and pipes, innermost last. -/
  captures : Array String := #[]
  /-- The files the script wrote, by absolute path. -/
  files : List (String × String) := []
  /-- The directories the script made. -/
  dirs : List String := []
  /-- Exit status of the last command. -/
  status : Nat := 0
  /-- The exit status of the last command substitution of the command being expanded. -/
  substStatus : Option Nat := none
  fds : List (Nat × Sink) := [(1, .stdout), (2, .stderr)]
  /-- Whether the shell is `bash`, which knows expansions the POSIX shell does not. -/
  bash : Bool := false
  errexit : Bool := false
  nounset : Bool := false
  pipefail : Bool := false
  /-- How many conditions are being run, where a failure does not stop a `set -e` script. -/
  testing : Nat := 0
  cwd : String := "/"
  /-- For each function being run, the variables made local with their values before. -/
  frames : List (List (String × Option String)) := []
  /-- How many loops are running. -/
  loops : Nat := 0
  /-- The command `trap` set to run when the script ends. -/
  exitTrap : Option String := none
  /-- Bash's arrays: their elements by key, in order; an indexed array's keys are numbers. -/
  arrays : List (String × List (String × String)) := []
  /-- The arrays declared associative. -/
  assoc : List String := []
  /-- Where `getopts` stands inside a cluster of options. -/
  optPos : Nat := 1
  /-- The `OPTIND` that `optPos` belongs to; another value starts over at a word's front. -/
  optIndexSeen : Nat := 0
  deriving Inhabited

/-- A run's steps. -/
abbrev ShellM := ExceptT Stop (StateM Env)

/-- The value of a parameter, `none` when it is unset. -/
def Env.param? (e : Env) (name : String) : Option String :=
  match name with
  | "?" => some (toString e.status)
  | "#" => some (toString e.args.length)
  | "@" | "*" => some (" ".intercalate e.args)
  | "0" => some (if e.bash then "bash" else "sh")
  | "$" => some "1"
  | "-" => some ""
  | "!" => none
  | "PWD" => some ((e.vars.lookup "PWD").getD e.cwd)
  | _ =>
    if !name.isEmpty && name.all Char.isDigit then e.args[name.toNat! - 1]?
    else
      match e.vars.lookup name with
      | some v => some v
      -- an array stands for its element zero
      | none => (e.arrays.lookup name).bind (·.lookup "0")

/-- The value of a parameter, empty when it is unset. -/
def Env.lookup (e : Env) (name : String) : String :=
  (e.param? name).getD ""

/-- Sets a variable. -/
def Env.assign (e : Env) (name value : String) : Env :=
  { e with vars := (name, value) :: e.vars.filter (·.1 != name) }

/-- Unsets a variable, or an array. -/
def Env.unset (e : Env) (name : String) : Env :=
  { e with vars := e.vars.filter (·.1 != name), arrays := e.arrays.filter (·.1 != name) }

/-- The name and subscript of `name[subscript]`. -/
def splitSubscript (n : String) : Option (String × String) :=
  match n.splitOn "[" with
  | base :: rest@(_ :: _) =>
    let sub := "[".intercalate rest
    if sub.endsWith "]" then some (base, (sub.dropEnd 1).toString) else none
  | _ => none

/-- The elements of an array, or of a variable seen as an array of one. -/
def Env.elements (e : Env) (name : String) : List (String × String) :=
  match e.arrays.lookup name with
  | some els => els
  | none =>
    match e.vars.lookup name with
    | some v => [("0", v)]
    | none => []

/-- Makes an array of elements, replacing a variable of the name. -/
def Env.setArray (e : Env) (name : String) (els : List (String × String)) : Env :=
  { e with vars := e.vars.filter (·.1 != name), arrays := (name, els) :: e.arrays.filter (·.1 != name) }

/-- Sets an element of an array: indexed arrays keep their keys in numeric order, associative
ones in the order keys came. -/
def Env.setElement (e : Env) (name key value : String) : Env :=
  let els := e.elements name
  let els := if (els.lookup key).isSome then els.map fun (k, v) => if k == key then (k, value) else (k, v)
    else if e.assoc.contains name then els ++ [(key, value)]
    else
      let n := key.toNat!
      let (before, after) := els.partition fun (k, _) => k.toNat! < n
      before ++ [(key, value)] ++ after
  e.setArray name els

/-- The next free index of an indexed array. -/
def Env.nextIndex (e : Env) (name : String) : Nat :=
  ((e.elements name).map fun (k, _) => k.toNat! + 1).foldl max 0

/-- The field separators: `IFS`, or blank, tab and newline when it is unset. -/
def Env.ifs (e : Env) : List Char :=
  ((e.vars.lookup "IFS").getD " \t\n").toList

/-- Where a descriptor leads. -/
def Env.sink (e : Env) (fd : Nat) : Sink :=
  (e.fds.lookup fd).getD .closed

/-- Points a descriptor somewhere. -/
def setFd (fds : List (Nat × Sink)) (fd : Nat) (s : Sink) : List (Nat × Sink) :=
  (fd, s) :: fds.filter (·.1 != fd)

/-- Sets the exit status. -/
def setStatus (n : Nat) : ShellM Unit :=
  modify fun e => { e with status := n }

/-! ## Files -/

/-- The directories of the system. -/
def systemDirs : List String :=
  ["/", "/bin", "/boot", "/dev", "/etc", "/home", "/lib", "/lib64", "/media", "/mnt", "/opt",
   "/proc", "/root", "/run", "/sbin", "/srv", "/sys", "/tmp", "/usr", "/usr/bin", "/usr/lib",
   "/usr/local", "/usr/local/bin", "/usr/sbin", "/usr/share", "/var", "/var/tmp"]

/-- Files of the system that exist, whatever they hold. -/
def systemFiles : List String :=
  ["/dev/null", "/dev/zero", "/dev/stdin", "/dev/stdout", "/dev/stderr", "/etc/passwd",
   "/etc/hostname", "/etc/hosts", "/etc/os-release", "/bin/sh", "/bin/bash", "/bin/dash"]

/-- A path made absolute against the working directory, with `.` and `..` resolved. -/
def Env.resolve (e : Env) (path : String) : String :=
  let full := if path.startsWith "/" then path else e.cwd ++ "/" ++ path
  let parts := (full.splitOn "/").filter (fun p => !p.isEmpty && p != ".")
  let kept := parts.foldl (fun acc p => if p == ".." then acc.dropLast else acc ++ [p]) []
  "/" ++ "/".intercalate kept

/-- Whether a path is a directory. -/
def Env.isDir (e : Env) (path : String) : Bool :=
  let p := e.resolve path
  systemDirs.contains p || e.dirs.contains p

/-- The text of a file, if it exists and can be read. -/
def Env.readFile? (e : Env) (path : String) : Option String :=
  let p := e.resolve path
  match e.files.lookup p with
  | some t => some t
  | none => if systemFiles.contains p && !(e.isDir p) then some "" else none

/-- The file tests of `test` and `[[`. -/
def Env.fileTest (e : Env) (op path : String) : Bool :=
  let isFile := (e.readFile? path).isSome
  let isDir := e.isDir path
  match op with
  | "-e" | "-a" | "-r" | "-w" => isFile || isDir
  | "-f" => isFile && !(path.startsWith "/dev/")
  | "-d" => isDir
  | "-x" => isDir || (e.resolve path).startsWith "/usr/bin/" || (e.resolve path).startsWith "/bin/"
  | "-s" => ((e.readFile? path).map (!·.isEmpty)).getD false || isDir
  | "-c" => e.resolve path == "/dev/null" || e.resolve path == "/dev/zero"
  | _ => false

/-! ## Output and input -/

/-- Writes text to where a sink leads; `false` when it is closed. -/
def writeSink (s : Sink) (text : String) : ShellM Bool := do
  match s with
  | .stdout => modify fun e => { e with out := e.out ++ text }; pure true
  | .capture k => modify fun e => { e with captures := e.captures.modify k (· ++ text) }; pure true
  | .file p =>
    modify fun e => { e with files := (p, ((e.files.lookup p).getD "") ++ text) :: e.files.filter (·.1 != p) }
    pure true
  | .closed => pure false
  | _ => pure true

/-- Writes text where descriptor 1 leads; `false` when it is closed. -/
def emit (text : String) : ShellM Bool := do
  writeSink ((<- get).sink 1) text

/-- Writes text where descriptor 2 leads. -/
def emitErr (text : String) : ShellM Unit := do
  let _ <- writeSink ((<- get).sink 2) text

/-- Reports an error of the shell, as `sh: 1: message` or `bash: line 1: message`. -/
def complain (msg : String) : ShellM Unit := do
  emitErr ((if (<- get).bash then "bash: line 1: " else "sh: 1: ") ++ msg ++ "\n")

/-- The next line of input, and whether it ended with a line feed; `none` at the end of a
pipe's input. -/
def nextLine : ShellM (Option (String × Bool)) := do
  let e <- get
  match e.piped with
  | some p =>
    if p.text.isEmpty then
      if p.ends then pure none else throw .waiting
    else
      match p.text.splitOn "\n" with
      | first :: rest@(_ :: _) =>
        set { e with piped := some { p with text := "\n".intercalate rest } }
        pure (some (first, true))
      | _ =>
        if p.ends then
          set { e with piped := some { p with text := "" } }
          pure (some (p.text, false))
        else throw .waiting
  | none =>
    match e.input with
    | [] => throw .waiting
    | line :: rest =>
      set { e with input := rest }
      pure (some (line, true))

/-- All the input up to its end: a pipe's text when its writer has finished; the program's
input never ends, so a run reading it all waits. -/
def allInput : ShellM String := do
  let e <- get
  match e.piped with
  | some p =>
    if p.ends then
      set { e with piped := some { p with text := "" } }
      pure p.text
    else throw .waiting
  | none => throw .waiting

/-- The texts a utility reads: its files, or its input when it names none (or names `-`). -/
def toolInputs (tool : String) (files : List String) : ShellM (List (Option String × String) × Bool) := do
  if files.isEmpty then pure ([(none, <- allInput)], true)
  else
    let mut acc : List (Option String × String) := []
    let mut ok := true
    for f in files do
      if f == "-" then acc := acc ++ [(some f, <- allInput)]
      else
        match (<- get).readFile? f with
        | some t => acc := acc ++ [(some f, t)]
        | none =>
          if (<- get).isDir f then emitErr s!"{tool}: {f}: Is a directory\n"
          else emitErr s!"{tool}: {f}: No such file or directory\n"
          ok := false
    pure (acc, ok)

/-- Delivers what a utility did. -/
def deliver (r : ToolResult) : ShellM Unit := do
  let ok <- emit r.out
  emitErr r.err
  setStatus (if ok then r.status else if r.status == 0 then 1 else r.status)

/-! ## Built-in commands without commands inside -/

/-- Undoes backslash escapes as `read` does without `-r`. -/
def unescapeRead : List Char -> List Char
  | '\\' :: c :: rest => c :: unescapeRead rest
  | ['\\'] => []
  | c :: rest => c :: unescapeRead rest
  | [] => []

/-- Splits a line into the values of `read`'s variables at the separators: one field each, the
rest of the line to the last, white space trimmed at both ends. -/
def readFields (ifs : List Char) : List String -> List Char -> List (String × String)
  | [], _ => []
  | [name], cs =>
    let trim (xs : List Char) := xs.dropWhile (fun c => ifs.contains c && isIfsWhite c)
    [(name, String.ofList (trim (trim cs).reverse).reverse)]
  | name :: names, cs =>
    let cs := cs.dropWhile (fun c => ifs.contains c && isIfsWhite c)
    let field := cs.takeWhile (!ifs.contains ·)
    let rest := cs.dropWhile (!ifs.contains ·)
    let rest := match rest with
      | c :: more => if isIfsWhite c then more.dropWhile (fun c => ifs.contains c && isIfsWhite c) else more
      | [] => []
    (name, String.ofList field) :: readFields ifs names rest

/-- Splits a line into all its fields at the separators, as `read -a` does. -/
def splitOnIfs (ifs : List Char) (cs : List Char) : List String :=
  go (cs.length + 1) (cs.dropWhile (fun c => ifs.contains c && isIfsWhite c))
where
  go : Nat -> List Char -> List String
    | 0, _ => []
    | _, [] => []
    | k + 1, cs =>
      let field := cs.takeWhile (!ifs.contains ·)
      let rest := match cs.dropWhile (!ifs.contains ·) with
        | c :: more => if isIfsWhite c then more.dropWhile (fun c => ifs.contains c && isIfsWhite c) else more
        | [] => []
      String.ofList field :: go k rest

/-- The operands of `read`: whether backslashes stay, the array of `-a`, and the names
(`-p`, `-t`, `-u`, `-n` and `-d` take a value). -/
structure ReadRequest where
  raw : Bool := false
  array : Option String := none
  names : List String := []

/-- Reads the options and names of `read`. -/
def readNames : List String -> ReadRequest
  | [] => {}
  | "-a" :: n :: rest => { readNames rest with array := some n }
  | "-p" :: _ :: rest | "-t" :: _ :: rest | "-u" :: _ :: rest | "-n" :: _ :: rest
  | "-d" :: _ :: rest => readNames rest
  | a :: rest =>
    let r := readNames rest
    if a.startsWith "-" && a.length > 1 then { r with raw := r.raw || a.contains 'r' }
    else { r with names := a :: r.names }

/-- Assigns a variable unless it is read-only, which stops the script. -/
def assignChecked (name value : String) : ShellM Bool := do
  let e <- get
  if e.readonly.contains name then
    complain (if e.bash then s!"{name}: readonly variable" else s!"{name}: is read only")
    throw (.exited (if e.bash then 1 else 2))
  else
    set (e.assign name value)
    pure true

/-- `read`: takes the next line into variables; at the end of the input it fails. -/
def readLine (args : List String) : ShellM Unit := do
  let request := readNames args
  let names := if request.names.isEmpty then ["REPLY"] else request.names
  match <- nextLine with
  | none =>
    match request.array with
    | some a => modify fun e => e.setArray a []
    | none =>
      for n in names do
        let _ <- assignChecked n ""
    setStatus 1
  | some (line, complete) =>
    let cs := if request.raw then line.toList else unescapeRead line.toList
    let ifs := (<- get).ifs
    match request.array with
    | some a =>
      let fields := splitOnIfs ifs cs
      modify fun e => e.setArray a (fields.zipIdx.map fun (f, i) => (toString i, f))
    | none =>
      for (n, v) in readFields ifs names cs do
        let _ <- assignChecked n v
    setStatus (if complete then 0 else 1)

/-- `getopts`: the next option into a variable, its argument in `OPTARG`; `OPTIND` and a place
in a word of several options say where it stands. -/
def nextOption (spec var : String) (args : List String) : ShellM Unit := do
  let e <- get
  let silent := spec.startsWith ":"
  let ind := ((e.vars.lookup "OPTIND").bind String.toNat?).getD 1
  let pos := if ind == e.optIndexSeen then e.optPos else 1
  let finish (name : String) (arg : Option String) (ind pos : Nat) (status : Nat) : ShellM Unit := do
    modify fun e =>
      let e := (e.assign var name).assign "OPTIND" (toString ind)
      let e := match arg with
        | some a => e.assign "OPTARG" a
        | none => e.unset "OPTARG"
      { e with optPos := pos, optIndexSeen := ind }
    setStatus status
  match args[ind - 1]? with
  | none => finish "?" none ind 1 1
  | some word =>
    let cs := word.toList
    if pos == 1 && (cs.head? != some '-' || cs.length < 2) then finish "?" none ind 1 1
    else if pos == 1 && word == "--" then finish "?" none (ind + 1) 1 1
    else
      let c := cs.getD pos ' '
      let after := cs.drop (pos + 1)
      let (nextInd, nextPos) := if after.isEmpty then (ind + 1, 1) else (ind, pos + 1)
      let known := c != ':' && spec.toList.contains c
      let wantsArg := (spec.splitOn (String.singleton c ++ ":")).length > 1
      if !known then
        if silent then finish "?" (some (String.singleton c)) nextInd nextPos 0
        else
          emitErr (if e.bash then s!"bash: illegal option -- {c}\n" else s!"Illegal option -{c}\n")
          finish "?" none nextInd nextPos 0
      else if !wantsArg then finish (String.singleton c) (if e.bash then none else some "") nextInd nextPos 0
      else if !after.isEmpty then finish (String.singleton c) (some (String.ofList after)) (ind + 1) 1 0
      else match args[ind]? with
        | some a => finish (String.singleton c) (some a) (ind + 2) 1 0
        | none =>
          if silent then finish ":" (some (String.singleton c)) (ind + 1) 1 0
          else
            emitErr (if e.bash then s!"bash: option requires an argument -- {c}\n"
              else s!"No arg for -{c} option\n")
            finish "?" none (ind + 1) 1 0

/-- `mapfile` (or `readarray`): every remaining line of the input into an array, `-t`
dropping the line feeds. -/
def readAllLines (args : List String) : ShellM Unit := do
  let trim := args.contains "-t"
  let name := ((args.filter (!·.startsWith "-")).getLast?).getD "MAPFILE"
  let mut lines : List String := []
  let mut more := true
  for _ in List.range 100000 do
    if more then
      match <- nextLine with
      | none => more := false
      | some (line, complete) =>
        lines := lines ++ [if trim || !complete then line else line ++ "\n"]
        if !complete then more := false
  modify fun e => e.setArray name (lines.zipIdx.map fun (l, i) => (toString i, l))
  setStatus 0

/-- Reports a failed write: status 1. -/
def afterWrite (ok : Bool) : ShellM Unit :=
  setStatus (if ok then 0 else 1)

/-- The options of bash's `echo` at the front of its arguments: whether a line feed ends the
output and whether escapes are expanded. -/
def bashEchoOptions : Nat -> List String -> Bool -> Bool -> Bool × Bool × List String
  | 0, args, newline, escapes => (newline, escapes, args)
  | _, [], newline, escapes => (newline, escapes, [])
  | k + 1, a :: rest, newline, escapes =>
    let flags := (a.drop 1).toString.toList
    if a.startsWith "-" && !flags.isEmpty && flags.all (fun c => c == 'n' || c == 'e' || c == 'E') then
      let newline := newline && !flags.contains 'n'
      let escapes := flags.foldl (fun e c => if c == 'e' then true else if c == 'E' then false else e) escapes
      bashEchoOptions k rest newline escapes
    else (newline, escapes, a :: rest)

/-- `echo`: its arguments joined by blanks, then a line feed. -/
def echo (args : List String) : ShellM Unit := do
  let (newline, escapes, args) <-
    if (<- get).bash then pure (bashEchoOptions (args.length + 1) args true false)
    else pure (match args with
      | "-n" :: rest => (false, true, rest)
      | args => (true, true, args))
  let text := " ".intercalate args
  let (cs, go) := if escapes then expandEscapes (text.length + 1) text.toList else (text.toList, true)
  afterWrite (<- emit (String.ofList cs ++ (if newline && go then "\n" else "")))

/-- `printf`: the format applied again while arguments remain; bash's `-v name` assigns the
output instead of writing it. -/
def printf (args : List String) : ShellM Unit := do
  match args with
  | "-v" :: name :: fmt :: rest =>
    if !(<- get).bash then setStatus 1
    else
      let (text, failed) := formatAll fmt rest
      let ok <- assignChecked name text
      setStatus (if !ok || failed then 1 else 0)
  | "--" :: fmt :: rest | fmt :: rest =>
    let (text, failed) := formatAll fmt rest
    let ok <- emit text
    setStatus (if !ok || failed then 1 else 0)
  | [] =>
    complain "printf: usage: printf format [arg ...]"
    setStatus 2

/-- `cat`: copies its files, or its input; reading the program's input it copies every line
given so far, then waits for more. -/
def catFiles (args : List String) : ShellM Unit := do
  let files := args.filter fun a => !(a.startsWith "-" && a.length > 1)
  let e <- get
  match e.piped, files.isEmpty || files == ["-"] with
  | none, true =>
    let lines := e.input
    set { e with input := [] }
    let _ <- emit (String.join (lines.map (· ++ "\n")))
    throw .waiting
  | _, _ =>
    let (inputs, ok) <- toolInputs "cat" files
    let wrote <- emit (String.join (inputs.map (·.2)))
    setStatus (if ok && wrote then 0 else 1)

/-- `head`: copies the first lines of its input, writing them once it has them all; other
amounts, and files, read everything first. -/
def headCommand (args : List String) : ShellM Unit := do
  match readAmount (args.length + 1) args {} [] with
  | none =>
    emitErr "head: invalid number of lines\n"
    setStatus 1
  | some (a, files) =>
    if files.isEmpty && !a.bytes && a.sign != some '-' then
      let rec take : Nat -> List String -> ShellM (List String)
        | 0, acc => pure acc.reverse
        | k + 1, acc => do
          match <- nextLine with
          | some (l, true) => take k ((l ++ "\n") :: acc)
          | some (l, false) => pure (l :: acc).reverse
          | none => pure acc.reverse
      let lines <- take a.count []
      afterWrite (<- emit (String.join lines))
    else
      let (inputs, ok) <- toolInputs "head" files
      let multi := inputs.length > 1
      let parts := inputs.zipIdx.map fun ((name, text), i) =>
        (if multi then (if i > 0 then "\n" else "") ++ "==> " ++ name.getD "standard input" ++ " <==\n" else "") ++
          headText a text
      let wrote <- emit (String.join parts)
      setStatus (if ok && wrote then 0 else 1)

/-- `tail`: the last lines of its files or input. -/
def tailCommand (args : List String) : ShellM Unit := do
  match readAmount (args.length + 1) args {} [] with
  | none =>
    emitErr "tail: invalid number of lines\n"
    setStatus 1
  | some (a, files) =>
    let (inputs, ok) <- toolInputs "tail" files
    let multi := inputs.length > 1
    let parts := inputs.zipIdx.map fun ((name, text), i) =>
      (if multi then (if i > 0 then "\n" else "") ++ "==> " ++ name.getD "standard input" ++ " <==\n" else "") ++
        tailText a text
    let wrote <- emit (String.join parts)
    setStatus (if ok && wrote then 0 else 1)

/-- `sed`: runs its script on each line of its input or files. -/
def streamEdit (args : List String) : ShellM Unit := do
  match Sed.Invocation.ofArgs args with
  | .error _ =>
    emitErr "sed: -e expression #1, char 0: unknown command\n"
    setStatus 1
  | .ok inv =>
    if !inv.files.isEmpty then
      let (inputs, ok) <- toolInputs "sed" inv.files
      let text := String.join (inputs.map (·.2))
      let lines := textLines text
      let ended := text.endsWith "\n"
      let (out, st, _) := lines.foldl (fun (out, st, i) l =>
        if st.quitWith.isSome then (out, st, i + 1)
        else
          let isLast := i + 1 == lines.length
          let (o, st) := inv.step st l isLast
          let o := if isLast && !ended && o.endsWith "\n" then (o.dropEnd 1).toString else o
          (out ++ o, st, i + 1)) ("", ({} : Sed.State), 0)
      let wrote <- emit out
      setStatus (if !wrote then 4 else if !ok then 2 else st.quitWith.getD 0)
    else
      let inputEnded : ShellM Bool := do
        match (<- get).piped with
        | some p => pure (p.text.isEmpty && p.ends)
        | none => pure false
      let rec lines : Nat -> Sed.State -> String -> ShellM (Sed.State × String)
        | 0, st, held => pure (st, held)
        | k + 1, st, held => do
          match <- nextLine with
          | none => pure (st, held)
          | some (l, newline) =>
            let last <- inputEnded
            let (out, st) := inv.step st l (last || !newline)
            -- a last line without a line feed is written without one
            let out := if newline || !out.endsWith "\n" then out else String.ofList out.toList.dropLast
            if inv.unbuffered then
              let _ <- emit out
              if st.quitWith.isSome then pure (st, "") else lines k st ""
            else if st.quitWith.isSome then pure (st, held ++ out)
            else lines k st (held ++ out)
      let (st, held) <- lines 100000 {} ""
      let ok <- emit held
      setStatus (if ok then st.quitWith.getD 0 else 4)

/-- `grep`: the lines of its files or input that match any of its patterns. -/
def grepCommand (args : List String) : ShellM Unit := do
  match readGrepOptions (args.length + 1) args {} with
  | none =>
    emitErr "Usage: grep [OPTION]... PATTERNS [FILE]...\n"
    setStatus 2
  | some o =>
    let (patterns, files) := if o.patterns.isEmpty then
        (((o.operands.headD "").splitOn "\n"), o.operands.drop 1)
      else (o.patterns.flatMap (·.splitOn "\n"), o.operands)
    if o.patterns.isEmpty && o.operands.isEmpty then
      emitErr "Usage: grep [OPTION]... PATTERNS [FILE]...\n"
      setStatus 2
    else
      match patterns.mapM (grepMatcher o) with
      | .error msg =>
        emitErr (msg ++ "\n")
        setStatus 2
      | .ok ms =>
        let (inputs, ok) <- toolInputs "grep" files
        let named := (inputs.length > 1 || o.withNames) && !o.noNames
        let results := inputs.map fun (name, text) =>
          let label := (name.getD "(standard input)")
          (label, grepLines o ms (if named then label ++ ":" else "") text)
        let total := results.foldl (fun (n : Nat) (_, _, k) => n + k) 0
        let out :=
          if o.quiet then ""
          else if o.filesWithMatches then String.join (results.filterMap fun (l, _, k) => if k > 0 then some (l ++ "\n") else none)
          else if o.count then String.join (results.map fun (l, _, k) => (if named then l ++ ":" else "") ++ toString k ++ "\n")
          else String.join (results.map fun (_, ls, _) => unlines ls)
        let _ <- emit out
        setStatus (if !ok && !(o.quiet && total > 0) then 2 else if total > 0 then 0 else 1)

/-- Runs one of the text utilities, if the name is one: `true` when it was. -/
def runUtility (name : String) (args : List String) : ShellM Bool := do
  match name with
  | "cat" => catFiles args; pure true
  | "head" => headCommand args; pure true
  | "tail" => tailCommand args; pure true
  | "sed" => streamEdit args; pure true
  | "grep" => grepCommand args; pure true
  | "egrep" => grepCommand ("-E" :: args); pure true
  | "fgrep" => grepCommand ("-F" :: args); pure true
  | "tr" =>
    let text <- allInput
    deliver (translateText args text); pure true
  | "seq" => deliver (seqText args); pure true
  | "expr" => deliver (exprText args); pure true
  | "wc" =>
    let (flags, files) := args.partition isOptionArg
    let (inputs, ok) <- toolInputs "wc" files
    let wrote <- emit (wcText (flags.flatMap fun f => (f.drop 1).toString.toList) inputs)
    setStatus (if ok && wrote then 0 else 1)
    pure true
  | "sort" =>
    match readSortOptions (args.length + 1) args {} with
    | none =>
      emitErr "sort: invalid option\n"
      setStatus 2
    | some o =>
      let (inputs, ok) <- toolInputs "sort" o.files
      let wrote ← emit (sortText o (String.join (inputs.map fun (_, t) =>
        if t.isEmpty || t.endsWith "\n" then t else t ++ "\n")))
      setStatus (if ok && wrote then 0 else 2)
    pure true
  | "uniq" =>
    let (flags, files) := args.partition isOptionArg
    let (inputs, ok) <- toolInputs "uniq" (files.take 1)
    let wrote <- emit (uniqText (flags.flatMap fun f => (f.drop 1).toString.toList) (String.join (inputs.map (·.2))))
    setStatus (if ok && wrote then 0 else 1)
    pure true
  | "cut" =>
    let files := (args.zipIdx.filter fun (a, i) =>
      !a.startsWith "-" && !(i > 0 && ["-d", "-f", "-c", "-b"].contains (args.getD (i - 1) ""))).map (·.1)
    let (inputs, ok) <- toolInputs "cut" files
    let r := cutText args (String.join (inputs.map (·.2)))
    deliver { r with status := if ok then r.status else 1 }
    pure true
  | "rev" =>
    let (inputs, ok) <- toolInputs "rev" args
    let text := String.join (inputs.map (·.2))
    let wrote ← emit (String.join ((countedPieces false text).map fun l =>
      if l.endsWith "\n" then String.ofList (l.dropEnd 1).toString.toList.reverse ++ "\n"
      else String.ofList l.toList.reverse))
    setStatus (if ok && wrote then 0 else 1)
    pure true
  | "basename" =>
    match args.filter (· != "--") with
    | [p] => deliver { out := baseName p "" ++ "\n" }
    | [p, s] => deliver { out := baseName p s ++ "\n" }
    | _ => deliver (.failure "basename: missing operand")
    pure true
  | "dirname" =>
    match args.filter (· != "--") with
    | [] => deliver (.failure "dirname: missing operand")
    | ps => deliver { out := String.join (ps.map (dirName · ++ "\n")) }
    pure true
  | "tee" =>
    let text <- allInput
    let files := args.filter fun a => !a.startsWith "-"
    let append := args.contains "-a"
    for f in files do
      let e <- get
      let p := e.resolve f
      let old := if append then (e.files.lookup p).getD "" else ""
      modify fun e => { e with files := (p, old ++ text) :: e.files.filter (·.1 != p) }
    afterWrite (<- emit text)
    pure true
  | "touch" =>
    for f in args.filter (!·.startsWith "-") do
      let p := (<- get).resolve f
      modify fun e => if (e.files.lookup p).isSome then e else { e with files := (p, "") :: e.files }
    setStatus 0
    pure true
  | "mkdir" =>
    let mut ok := true
    for d in args.filter (!·.startsWith "-") do
      let e <- get
      let p := e.resolve d
      if e.isDir p then
        if !args.contains "-p" then
          emitErr s!"mkdir: cannot create directory '{d}': File exists\n"
          ok := false
      else set { e with dirs := p :: e.dirs }
    setStatus (if ok then 0 else 1)
    pure true
  | "rm" =>
    let force := args.any fun a => a.startsWith "-" && a.contains 'f'
    let mut ok := true
    for f in args.filter (!·.startsWith "-") do
      let e <- get
      let p := e.resolve f
      if (e.files.lookup p).isSome then set { e with files := e.files.filter (·.1 != p) }
      else if e.dirs.contains p then set { e with dirs := e.dirs.filter (· != p) }
      else if !force then
        emitErr s!"rm: cannot remove '{f}': No such file or directory\n"
        ok := false
    setStatus (if ok then 0 else 1)
    pure true
  | "sleep" | "wait" | "kill" | "hash" | "sync" => setStatus 0; pure true
  | "umask" => afterWrite (<- emit "0022\n"); pure true
  | "ulimit" => afterWrite (<- emit "unlimited\n"); pure true
  | _ => pure false

/-! ## Describing commands -/

/-- The reserved words. -/
def shellKeywords : List String :=
  ["if", "then", "else", "elif", "fi", "case", "esac", "for", "while", "until", "do", "done",
   "in", "\x7b", "\x7d", "!", "[[", "]]", "function", "select", "time"]

/-- The special built-in commands. -/
def specialBuiltins : List String :=
  ["exec", "set", "shift", "exit", "export", "unset", "readonly", ":", "eval", ".", "break",
   "continue", "return", "trap", "times"]

/-- The other built-in commands of the Debian shell. -/
def regularBuiltins : List String :=
  ["alias", "bg", "cd", "command", "echo", "false", "fg", "getopts", "hash", "jobs", "kill",
   "local", "printf", "pwd", "read", "test", "[", "true", "type", "ulimit", "umask", "unalias",
   "wait"]

/-- The built-in commands bash adds. -/
def bashBuiltins : List String :=
  ["declare", "typeset", "let", "source", "shopt", "mapfile", "readarray", "help", "history",
   "enable", "builtin", "caller", "compgen", "complete", "dirs", "disown", "popd", "pushd",
   "suspend", "logout", "bind", "fc"]

/-- The programs a script finds in `/usr/bin`. -/
def knownPrograms : List String :=
  ["cat", "head", "tail", "tr", "seq", "sed", "grep", "egrep", "fgrep", "wc", "sort", "uniq",
   "cut", "rev", "basename", "dirname", "expr", "tee", "touch", "mkdir", "rm", "sleep", "ls",
   "cp", "mv", "ln", "chmod", "date", "env", "printenv", "id", "uname", "whoami", "hostname",
   "xargs", "find", "awk", "od", "base64", "md5sum", "sha256sum", "yes", "nl", "fold", "paste",
   "tac", "timeout", "stat", "readlink", "realpath", "mktemp", "python3", "node", "sh", "bash",
   "dash", "echo", "printf", "test", "true", "false", "pwd", "kill", "which"]

/-- Whether a name is a built-in command of the running shell. -/
def Env.isBuiltin (e : Env) (name : String) : Bool :=
  specialBuiltins.contains name || regularBuiltins.contains name || (e.bash && bashBuiltins.contains name)

/-- What `type` says about a name, or `none` when it is not found. -/
def Env.describe (e : Env) (name : String) : Option String :=
  if shellKeywords.contains name && (e.bash || !(name == "[[" || name == "]]" || name == "function" || name == "select" || name == "time")) then
    some s!"{name} is a shell keyword"
  else if (e.functions.lookup name).isSome then
    some (if e.bash then s!"{name} is a function" else s!"{name} is a shell function")
  else if !e.bash && specialBuiltins.contains name then some s!"{name} is a special shell builtin"
  else if e.isBuiltin name then some s!"{name} is a shell builtin"
  else if knownPrograms.contains name then some s!"{name} is /usr/bin/{name}"
  else if name.startsWith "/" && (e.readFile? name).isSome then some s!"{name} is {name}"
  else none

/-- What `command -v` says about a name. -/
def Env.locate (e : Env) (name : String) : Option String :=
  if (e.functions.lookup name).isSome || e.isBuiltin name || shellKeywords.contains name then some name
  else if knownPrograms.contains name then some s!"/usr/bin/{name}"
  else none

/-! ## Expansion and execution -/

/-- The options of `set` in a cluster such as `-eu`: sets them on (`-`) or off (`+`). -/
def setOptions (e : Env) (on : Bool) (flags : List Char) : Env :=
  flags.foldl (fun e c =>
    match c with
    | 'e' => { e with errexit := on }
    | 'u' => { e with nounset := on }
    | _ => e) e

/-- A named option of `set -o` or `set +o`. -/
def setNamedOption (e : Env) (on : Bool) (name : String) : Env :=
  match name with
  | "errexit" => { e with errexit := on }
  | "nounset" => { e with nounset := on }
  | "pipefail" => if e.bash then { e with pipefail := on } else e
  | _ => e

/-- What a command's redirections changed, to be put back after it. -/
structure Saved where
  fds : List (Nat × Sink)
  piped : Option PipeInput

/-- Whether a redirection gives a command its input. -/
def Redirect.isInput : Redirect -> Bool
  | .file fd _ _ => fd == 0
  | .dup fd _ => fd == 0
  | .heredoc fd _ => fd == 0

/-- Puts back the descriptors, and the input if the redirections replaced it: input a command
reads from the shell's own input stays read. -/
def restoreAfter (s : Saved) (rs : List Redirect) : ShellM Unit :=
  modify fun e => { e with fds := s.fds, piped := if rs.any Redirect.isInput then s.piped else e.piped }

/-- Remembers the descriptors and input. -/
def saveFds : ShellM Saved := do
  let e <- get
  pure ⟨e.fds, e.piped⟩

/-- Starts collecting what descriptor 1 writes, one capture deeper. -/
def beginCapture : ShellM Saved := do
  let e <- get
  set { e with captures := e.captures.push "", fds := setFd e.fds 1 (.capture e.captures.size) }
  pure ⟨e.fds, e.piped⟩

/-- Ends the innermost capture: what it collected. -/
def endCapture (s : Saved) : ShellM String := do
  let e <- get
  set { e with captures := e.captures.pop, fds := s.fds }
  pure (e.captures.back?.getD "")

/-- The sink a redirection to a file opens: the devices, or a file made (emptied unless
appending) in an existing directory. -/
def openSink (target : String) (append : Bool) : ShellM (Option Sink) := do
  let e <- get
  match target with
  | "/dev/null" => pure (some .discard)
  | "/dev/stdout" => pure (some (e.sink 1))
  | "/dev/stderr" => pure (some (e.sink 2))
  | _ =>
    let p := e.resolve target
    if e.isDir p then
      complain s!"cannot create {target}: Is a directory"
      pure none
    else if !e.isDir (dirName p) then
      complain s!"cannot create {target}: Directory nonexistent"
      pure none
    else
      if !append || (e.files.lookup p).isNone then
        set { e with files := (p, "") :: e.files.filter (·.1 != p) }
      pure (some (.file p))

/-- Applies a redirection whose target is expanded: `false` when it fails. -/
def redirectTo (fd : Nat) (op : String) (target : String) : ShellM Bool := do
  let e <- get
  if op == "<" || op == "<>" then
    match e.readFile? target with
    | some text =>
      if fd == 0 then set { e with piped := some ⟨text, true⟩ }
      pure true
    | none =>
      complain (if e.bash then s!"{target}: No such file or directory" else s!"cannot open {target}: No such file")
      pure false
  else if op == ">&" || op == "<&" then
    if target == "-" then
      if fd == 0 then set { e with piped := some ⟨"", true⟩ } else set { e with fds := setFd e.fds fd .closed }
      pure true
    else match target.toNat? with
      | some m =>
        if fd == 0 || m == 0 then pure true
        else match e.fds.lookup m with
          | some s =>
            if s == .closed then
              complain s!"{m}: Bad file descriptor"
              pure false
            else
              set { e with fds := setFd e.fds fd s }
              pure true
          | none =>
            complain s!"{m}: Bad file descriptor"
            pure false
      | none =>
        if fd == 1 then
          match <- openSink target false with
          | some s => modify fun e => { e with fds := setFd (setFd e.fds 1 s) 2 s }; pure true
          | none => pure false
        else
          complain s!"{target}: Bad file descriptor"
          pure false
  else
    match <- openSink target (op == ">>" || op == "&>>") with
    | some s =>
      if op == "&>" || op == "&>>" then modify fun e => { e with fds := setFd (setFd e.fds 1 s) 2 s }
      else modify fun e => { e with fds := setFd e.fds fd s }
      pure true
    | none => pure false

/-- Gives up the locals of the innermost function: their values before come back. -/
def popFrame : ShellM Unit :=
  modify fun e =>
    match e.frames with
    | frame :: rest =>
      let e := frame.foldl (fun e (n, old) =>
        match old with
        | some v => e.assign n v
        | none => e.unset n) e
      { e with frames := rest }
    | [] => e

/-- Makes a variable local to the innermost function, remembering its value. -/
def makeLocal (name : String) : ShellM Unit :=
  modify fun e =>
    match e.frames with
    | frame :: rest =>
      if (frame.lookup name).isSome then e
      else { e with frames := ((name, e.vars.lookup name) :: frame) :: rest }
    | [] => e

/-- Stops a `set -e` script after a failure outside a condition. -/
def checkErrexit : ShellM Unit := do
  let e <- get
  if e.errexit && e.testing == 0 && e.status != 0 then throw (.exited e.status)

/-- Replaces the first match of a pattern in a value (all with `all`), anchored at the start by a
leading `#` and at the end by a leading `%`, as bash's `${x/p/r}`. -/
def replacePattern (pattern : List PatternItem) (anchor : Option Char) (all : Bool) (rep : String)
    (value : String) : String :=
  let cs := value.toList
  let n := cs.length
  -- the longest match starting at a place
  let matchAt (i : Nat) : Option Nat :=
    ((List.range (n - i + 1)).reverse.find? fun k => matchPattern pattern ((cs.drop i).take k)).map (i + ·)
  match anchor with
  | some '#' =>
    match matchAt 0 with
    | some j => rep ++ String.ofList (cs.drop j)
    | none => value
  | some _ =>
    match (List.range (n + 1)).find? (fun i => matchPattern pattern (cs.drop i)) with
    | some i => String.ofList (cs.take i) ++ rep
    | none => value
  | none =>
    let rec go : Nat -> Nat -> List Char -> Bool -> List Char
      | 0, _, acc, _ => acc.reverse
      | fuel + 1, i, acc, done =>
        if i >= n then acc.reverse
        else if done then acc.reverse ++ cs.drop i
        else match matchAt i with
          | some j =>
            if j == i then go fuel (i + 1) ((cs.getD i ' ') :: rep.toList.reverse ++ acc) (!all)
            else go fuel j (rep.toList.reverse ++ acc) (!all)
          | none => go fuel (i + 1) ((cs.getD i ' ') :: acc) false
    String.ofList (go (n + 2) 0 [] false)

/-- An element `[key]=value` of an array literal: its key and value words. -/
def keyedElement (w : Word) : Option (Word × Word) :=
  let hasEnd (t : String) : Bool := (t.splitOn "]=").length > 1
  match w with
  | .text s false :: rest =>
    if !s.startsWith "[" then none
    else
      let inner := (s.drop 1).toString
      match inner.splitOn "]=" with
      | k :: v :: more => some ([.text k false], [.text ("]=".intercalate (v :: more)) false] ++ rest)
      | _ =>
        let tail := rest.takeWhile fun
          | .text t false => !hasEnd t
          | _ => true
        match rest.drop tail.length with
        | .text t false :: more =>
          match t.splitOn "]=" with
          | k :: v :: vs =>
            some ([.text inner false] ++ tail ++ [.text k false], [.text ("]=".intercalate (v :: vs)) false] ++ more)
          | _ => none
        | _ => none
  | _ => none

/-- The marks of the elements of `"$@"` or `"${a[@]}"`: a field for each, none without. -/
def elementMarks (vals : List String) : List Mark :=
  if vals.isEmpty then []
  else Mark.anchor :: List.flatten ((vals.map (fun a => a.toList.map (Mark.ch · false true))).intersperse [Mark.brk])

/-- Splits the word of `${x/p/r}` at its first unescaped slash. -/
def splitReplacement : Nat -> List Char -> List Char -> List Char × List Char
  | 0, acc, rest => (acc.reverse, rest)
  | _, acc, [] => (acc.reverse, [])
  | k + 1, acc, '\\' :: c :: rest => splitReplacement k (c :: '\\' :: acc) rest
  | _ + 1, acc, '/' :: rest => (acc.reverse, rest)
  | k + 1, acc, c :: rest => splitReplacement k (c :: acc) rest

mutual

/-- The marks of a piece of a word. -/
def expandPiece : Nat -> Piece -> ShellM (List Mark)
  | 0, _ => throw .exhausted
  | fuel + 1, p =>
    match p with
    | .text s q => pure ((if q then [Mark.anchor] else []) ++ s.toList.map (Mark.ch · false q))
    | .param n q => do
      let e <- get
      if (n == "@" || n == "*") && q then
        if n == "@" then pure (elementMarks e.args)
        else pure (valueMarks (" ".intercalate e.args) true)
      else if let some (base, sub) := splitSubscript n then
        if sub == "@" || sub == "*" then
          let vals := (e.elements base).map (·.2)
          if q && sub == "@" then pure (elementMarks vals)
          else pure (valueMarks (" ".intercalate vals) q)
        else
          let key <- subscriptKey fuel base sub
          pure (valueMarks (((e.elements base).lookup key).getD "") q)
      else
        match e.param? n with
        | some v => pure (valueMarks v q)
        | none =>
          if e.nounset && n != "@" && n != "*" then
            complain (if e.bash then s!"{n}: unbound variable" else s!"{n}: parameter not set")
            throw (.exited (if e.bash then 1 else 2))
          else pure (valueMarks "" q)
    | .length n q => do
      let e <- get
      if let some (base, sub) := splitSubscript n then
        if sub == "@" || sub == "*" then pure (valueMarks (toString (e.elements base).length) q)
        else
          let key <- subscriptKey fuel base sub
          pure (valueMarks (toString (((e.elements base).lookup key).getD "").length) q)
      else
      match e.param? n with
      | some v => pure (valueMarks (toString (if n == "@" || n == "*" then e.args.length else v.length)) q)
      | none =>
        if e.nounset then
          complain (if e.bash then s!"{n}: unbound variable" else s!"{n}: parameter not set")
          throw (.exited (if e.bash then 1 else 2))
        else pure (valueMarks "0" q)
    | .substring n offset length q => do
      let e <- get
      if !e.bash then
        complain "Bad substitution"
        throw (.exited 2)
      -- a list (the parameters, or an array's elements) is sliced by elements
      let listed : Option (List String × Bool) := match splitSubscript n with
        | some (base, sub) =>
          if sub == "@" || sub == "*" then some ((e.elements base).map (·.2), sub == "@") else none
        | none => if n == "@" || n == "*" then some ("bash" :: e.args, n == "@") else none
      let v := (<- paramValue fuel n).getD ""
      let size : Int := match listed with
        | some (items, _) => items.length
        | none => v.length
      let start <- arithValue fuel offset
      -- a negative offset counts from the end
      let start := if start < 0 then max 0 (size + start) else min start size
      let stop <- match length with
        | none => pure size
        | some len => do
          let l <- arithValue fuel len
          if l < 0 then
            if size + l < start then throw (.exited 1) else pure (size + l)
          else pure (min size (start + l))
      match listed with
      | some (items, each) =>
        let slice := (items.drop start.toNat).take (stop - start).toNat
        if q && each then pure (elementMarks slice) else pure (valueMarks (" ".intercalate slice) q)
      | none => pure (valueMarks (String.ofList ((v.toList.drop start.toNat).take (stop - start).toNat)) q)
    | .badSubst _ => do
      complain "Bad substitution"
      throw (.exited 2)
    | .paramOp n op word q => do
      let e <- get
      let value <- paramValue fuel n
      let unsetOrEmpty := match value with
        | none => true
        | some v => op.startsWith ":" && v.isEmpty
      let inner (_ : Unit) : ShellM (List Mark) := do
        let ms <- expandMarks fuel (readInnerWord word)
        pure (if q then Mark.anchor :: ms.map (fun
            | .ch c _ _ => .ch c false true
            | m => m)
          else ms.map (fun
            | .ch c _ quoted => .ch c (!quoted) quoted
            | m => m))
      let bashOnly : ShellM Unit := do
        if !e.bash then
          complain "Bad substitution"
          throw (.exited 2)
      match op with
      | ":-" | "-" => if unsetOrEmpty then inner () else pure (valueMarks (value.getD "") q)
      | ":=" | "=" =>
        if unsetOrEmpty then do
          let ms <- expandMarks fuel (readInnerWord word)
          let v := marksText ms
          let _ <- assignChecked n v
          pure (valueMarks v q)
        else pure (valueMarks (value.getD "") q)
      | ":+" | "+" => if unsetOrEmpty then pure (if q then [Mark.anchor] else []) else inner ()
      | ":?" | "?" =>
        if unsetOrEmpty then do
          let msg <- expandString fuel (readInnerWord word)
          let why := if !msg.isEmpty then msg
            else if value.isNone then "parameter not set" else "parameter null or not set"
          complain (n ++ ": " ++ why)
          throw (.exited (if e.bash then 1 else 2))
        else pure (valueMarks (value.getD "") q)
      | "!" => do
        bashOnly
        match splitSubscript n with
        | some (base, "@") | some (base, "*") =>
          let keys := (e.elements base).map (·.1)
          if q then pure (elementMarks keys) else pure (valueMarks (" ".intercalate keys) q)
        | _ =>
          let target <- paramValue fuel (e.lookup n)
          pure (valueMarks (target.getD "") q)
      | "^^" | "^" | ",," | "," => do
        bashOnly
        let v := value.getD ""
        let changed := match op with
          | "^^" => v.toUpper
          | ",," => v.toLower
          | "^" => match v.toList with
            | c :: rest => String.ofList (c.toUpper :: rest)
            | [] => v
          | _ => match v.toList with
            | c :: rest => String.ofList (c.toLower :: rest)
            | [] => v
        pure (valueMarks changed q)
      | "/" | "//" => do
        bashOnly
        -- the pattern runs to the first unescaped slash; the rest is the replacement
        let cs := word.toList
        let (anchor, cs) := match op, cs with
          | "/", '#' :: rest => (some '#', rest)
          | "/", '%' :: rest => (some '%', rest)
          | _, _ => (none, cs)
        let (pat, rep) := splitReplacement (cs.length + 1) [] cs
        let pattern <- expandMarks fuel (readInnerWord (String.ofList pat))
        let replacement <- expandString fuel (readInnerWord (String.ofList rep))
        pure (valueMarks (replacePattern (patternOf pattern) anchor (op == "//") replacement (value.getD "")) q)
      | _ => do
        let pattern <- expandMarks fuel (readInnerWord word)
        pure (valueMarks (removePattern op (patternOf pattern) (value.getD "")) q)
    | .subst script q => do
      let out <- substitute fuel script
      let trimmed := String.ofList (out.toList.reverse.dropWhile (· == '\n')).reverse
      pure (valueMarks trimmed q)
    | .arith expr q => do
      pure (valueMarks (toString (<- arithValue fuel expr)) q)

/-- The value of an arithmetic expression: parameters inside are expanded first, then the text
is read as an expression. -/
def arithValue : Nat -> String -> ShellM Int
  | 0, _ => throw .exhausted
  | fuel + 1, expr => do
    let text <- expandString fuel (readInnerWord expr)
    let e <- get
    match parseArith e.bash text with
    | none =>
      complain s!"arithmetic expression: expecting primary: \"{text}\""
      throw (.exited (if e.bash then 1 else 2))
    | some ae =>
      match (evalArith 1000 ae).run { lookup := e.lookup, bash := e.bash } with
      | .ok (v, vars) =>
        for (n, x) in vars.assigned.reverse do
          let _ <- assignChecked n (toString x)
        pure v
      | .error .overflowTrap => throw .crashed
      | .error .divisionByZero =>
        complain "arithmetic expression: division by zero"
        throw (.exited (if e.bash then 1 else 2))
      | .error (.illegalNumber t) =>
        complain s!"Illegal number: {t}"
        throw (.exited (if e.bash then 1 else 2))
      | .error .negativeExponent =>
        complain "exponent less than 0"
        throw (.exited 1)

/-- The key an array subscript stands for: the expanded text for an associative array, else the
arithmetic value (from the end when negative). -/
def subscriptKey : Nat -> String -> String -> ShellM String
  | 0, _, _ => throw .exhausted
  | fuel + 1, base, sub => do
    let e <- get
    if e.assoc.contains base then expandString fuel (readInnerWord sub)
    else
      let i <- arithValue fuel sub
      if i < 0 then pure (toString ((e.nextIndex base : Int) + i).toNat) else pure (toString i)

/-- The value of a parameter or array element, `none` when it is unset. -/
def paramValue : Nat -> String -> ShellM (Option String)
  | 0, _ => throw .exhausted
  | fuel + 1, n => do
    let e <- get
    match splitSubscript n with
    | some (base, sub) =>
      if sub == "@" || sub == "*" then
        let els := e.elements base
        pure (if els.isEmpty then none else some (" ".intercalate (els.map (·.2))))
      else do
        let key <- subscriptKey fuel base sub
        pure ((e.elements base).lookup key)
    | none => pure (e.param? n)

/-- Performs an assignment; `false` when it fails. -/
def assignOne : Nat -> Assignment -> ShellM Bool
  | 0, _ => throw .exhausted
  | fuel + 1, a => do
    let e <- get
    if !e.bash && (a.append || a.index.isSome || a.elements.isSome) then
      let subscript <- match a.index with
        | some w => do pure ("[" ++ (<- expandString fuel w) ++ "]")
        | none => pure ""
      let value <- expandString fuel a.value
      complain (a.name ++ subscript ++ (if a.append then "+=" else "=") ++ value ++ ": not found")
      setStatus 127
      pure false
    else if e.readonly.contains a.name then assignChecked a.name ""
    else match a.elements, a.index with
      | some ws, _ => do
        let assoc := e.assoc.contains a.name
        let mut els : List (String × String) := if a.append then e.elements a.name else []
        let mut next := if a.append then e.nextIndex a.name else 0
        for w in ws do
          match keyedElement w with
          | some (keyWord, valueWord) =>
            let keyText <- expandString fuel keyWord
            let key <- if assoc then pure keyText else subscriptKey fuel a.name keyText
            let v <- expandString fuel valueWord
            els := (els.filter (·.1 != key)) ++ [(key, v)]
            next := key.toNat! + 1
          | none =>
            for f in ← expandFields fuel w do
              els := els ++ [(toString next, f)]
              next := next + 1
        let sorted := if assoc then els else els.mergeSort fun x y => x.1.toNat! <= y.1.toNat!
        modify fun e => e.setArray a.name sorted
        pure true
      | none, some idx => do
        let keyText <- expandString fuel idx
        let key <- subscriptKey fuel a.name keyText
        let v <- expandString fuel a.value
        let old := (((<- get).elements a.name).lookup key).getD ""
        modify fun e => e.setElement a.name key (if a.append then old ++ v else v)
        pure true
      | none, none => do
        let v <- expandString fuel a.value
        if (e.arrays.lookup a.name).isSome then
          let old := ((e.elements a.name).lookup "0").getD ""
          modify fun e => e.setElement a.name "0" (if a.append then old ++ v else v)
          pure true
        else assignChecked a.name (if a.append then e.lookup a.name ++ v else v)

/-- The marks of a word. -/
def expandMarks : Nat -> Word -> ShellM (List Mark)
  | 0, _ => throw .exhausted
  | fuel + 1, w => do
    let mut acc : List Mark := []
    for p in w do
      acc := acc ++ (<- expandPiece fuel p)
    pure acc

/-- The fields of a word; bash expands its braces first. -/
def expandFields : Nat -> Word -> ShellM (List String)
  | 0, _ => throw .exhausted
  | fuel + 1, w => do
    let words := if (<- get).bash then expandBraces w else [w]
    let mut acc : List String := []
    for w in words do
      let marks <- expandMarks fuel w
      acc := acc ++ splitFields (<- get).ifs marks
    pure acc

/-- A word as one string, without splitting. -/
def expandString : Nat -> Word -> ShellM String
  | 0, _ => throw .exhausted
  | fuel + 1, w => do
    pure (marksText (<- expandMarks fuel w))

/-- The output of a command substitution: the script runs on a copy of the variables, with
its output collected. -/
def substitute : Nat -> String -> ShellM String
  | 0, _ => throw .exhausted
  | fuel + 1, script => do
    match parseScript (<- get).bash script with
    | .error _ =>
      complain "Syntax error"
      throw (.exited 2)
    | .ok c =>
      let before <- get
      let saved <- beginCapture
      tryCatch (exec fuel c) fun
        | .exited code | .returned code => setStatus code
        | .crashed => setStatus 136
        | .broke _ _ => pure ()
        | s => throw s
      let out <- endCapture saved
      let after <- get
      set { before with
        input := after.input
        piped := after.piped
        substStatus := some after.status
        out := after.out
        captures := after.captures
        files := after.files
        dirs := after.dirs }
      pure out

/-- Applies redirections: `false` when one fails. -/
def applyRedirects : Nat -> List Redirect -> ShellM Bool
  | 0, _ => throw .exhausted
  | _ + 1, [] => pure true
  | fuel + 1, r :: rest => do
    let ok <- match r with
      | .file fd op w => do redirectTo fd op (<- expandString fuel w)
      | .dup fd w => do redirectTo fd ">&" (<- expandString fuel w)
      | .heredoc fd w => do
        let text <- expandString fuel w
        if fd == 0 then modify fun e => { e with piped := some ⟨text, true⟩ }
        pure true
    if ok then applyRedirects fuel rest else pure false

/-- Runs a function with its arguments as positional parameters; `return` ends it. -/
def callFunction : Nat -> Command -> List String -> ShellM Unit
  | 0, _, _ => throw .exhausted
  | fuel + 1, body, args => do
    let before <- get
    set { before with args, frames := [] :: before.frames }
    let returned ← tryCatch (do exec fuel body; pure none) fun
      | .returned code => pure (some code)
      | s => do
        -- leave the function's locals before the stop goes on
        popFrame
        modify fun e => { e with args := before.args }
        throw s
    match returned with
    | some code => setStatus code
    | none => pure ()
    popFrame
    modify fun e => { e with args := before.args }

/-- Runs a loop's body once: how the loop goes on (`none` to stop it). -/
def loopBody : Nat -> Command -> ShellM Bool
  | 0, _ => throw .exhausted
  | fuel + 1, body => do
    modify fun e => { e with loops := e.loops + 1 }
    let r ← tryCatch (do exec fuel body; pure true) fun
      | .broke levels continuing => do
        modify fun e => { e with loops := e.loops - 1 }
        if levels <= 1 then pure continuing
        else throw (.broke (levels - 1) continuing)
      | s => throw s
    modify fun e => { e with loops := e.loops - 1 }
    pure r

/-- Runs a built-in command or utility, or reports it missing. -/
def runBuiltin : Nat -> String -> List String -> ShellM Unit
  | 0, _, _ => throw .exhausted
  | fuel + 1, name, args => do
    let e <- get
    match name with
    | "read" => readLine args
    | "mapfile" | "readarray" => readAllLines args
    | "getopts" =>
      match args with
      | spec :: var :: given => nextOption spec var (if given.isEmpty then e.args else given)
      | _ =>
        complain "getopts: usage: getopts optstring name [arg ...]"
        setStatus 2
    | "echo" => echo args
    | "printf" => printf args
    | "exit" =>
      match args with
      | a :: _ =>
        match a.toNat? with
        | some code => throw (.exited (code % 256))
        | none =>
          complain s!"exit: Illegal number: {a}"
          throw (.exited 2)
      | [] => throw (.exited e.status)
    | "return" =>
      let code := match args with
        | a :: _ => (a.toNat?.map (· % 256)).getD 2
        | [] => e.status
      if e.frames.isEmpty then throw (.exited code) else throw (.returned code)
    | "break" | "continue" =>
      let n := (args.head?.bind String.toNat?).getD 1
      if e.loops == 0 then setStatus 0
      else throw (.broke (min n e.loops) (name == "continue"))
    | "set" =>
      let rec go : Nat -> List String -> Env -> Env
        | 0, _, e => e
        | _, [], e => e
        | k + 1, a :: rest, e =>
          if a == "--" then { e with args := rest }
          else if a == "-o" || a == "+o" then
            match rest with
            | n :: more => go k more (setNamedOption e (a == "-o") n)
            | [] => e
          else if a.startsWith "-" || a.startsWith "+" then
            let flags := (a.drop 1).toString.toList
            let e := setOptions e (a.startsWith "-") flags
            if flags.contains 'o' then
              match rest with
              | n :: more => go k more (setNamedOption e (a.startsWith "-") n)
              | [] => e
            else go k rest e
          else { e with args := a :: rest }
      set (go (args.length + 1) args e)
      setStatus 0
    | "shift" =>
      let n := (args.headD "1").toNat?.getD 1
      if n > e.args.length then
        complain "shift: can't shift that many"
        if e.bash then setStatus 1 else throw (.exited 2)
      else
        set { e with args := e.args.drop n }
        setStatus 0
    | "eval" =>
      match parseScript e.bash (" ".intercalate args) with
      | .ok c => exec fuel c
      | .error _ =>
        complain "Syntax error"
        throw (.exited 2)
    | "." | "source" =>
      match args.head? >>= e.readFile? with
      | some text =>
        match parseScript e.bash text with
        | .ok c => exec fuel c
        | .error _ => throw (.exited 2)
      | none =>
        complain (name ++ ": cannot open " ++ args.headD "" ++ ": No such file")
        if e.bash then setStatus 1 else throw (.exited 2)
    | "export" | "readonly" | "local" | "declare" | "typeset" =>
      let isLocal := name == "local" || ((name == "declare" || name == "typeset") && !e.frames.isEmpty &&
        !args.contains "-g")
      if name == "local" && e.frames.isEmpty then
        complain (if e.bash then "local: can only be used in a function" else "local: not in a function")
        setStatus (if e.bash then 1 else 2)
      else
        let flags := (args.filter (·.startsWith "-")).flatMap fun a => (a.drop 1).toString.toList
        let readonly := name == "readonly" || flags.contains 'r'
        let mut ok := true
        for a in args.filter (!·.startsWith "-") do
          let (n, v) := match a.splitOn "=" with
            | n :: v :: more => (n, some ("=".intercalate (v :: more)))
            | _ => (a, none)
          if flags.contains 'A' && e.bash then
            modify fun e => { e with assoc := n :: e.assoc.filter (· != n) }
          if (flags.contains 'A' || flags.contains 'a') && e.bash && v.isNone then
            if ((<- get).arrays.lookup n).isNone then modify fun e => e.setArray n []
          if isLocal then
            makeLocal n
            -- bash's `local x` starts unset; the Debian shell keeps the value
            if v.isNone && e.bash then modify fun e => e.unset n
          match v with
          | some v =>
            let v <- if flags.contains 'i' then do pure (toString (<- arithValue fuel v))
              else pure (if flags.contains 'l' then v.toLower else if flags.contains 'u' then v.toUpper else v)
            if !(<- assignChecked n v) then ok := false
          | none => pure ()
          if readonly then modify fun e => { e with readonly := n :: e.readonly }
        setStatus (if ok then 0 else 1)
    | "unset" =>
      let functions := args.contains "-f"
      for a in args.filter (!·.startsWith "-") do
        if functions then modify fun e => { e with functions := e.functions.filter (·.1 != a) }
        else if (← get).readonly.contains a then
          complain s!"unset: {a}: is read only"
        else if let some (base, sub) := splitSubscript a then
          if sub == "@" || sub == "*" then modify fun e => e.unset base
          else
            let key <- subscriptKey fuel base sub
            modify fun e => e.setArray base ((e.elements base).filter (·.1 != key))
        else modify fun e => e.unset a
      setStatus 0
    | "let" =>
      if !e.bash then setStatus 127
      else
        let mut last : Int := 0
        for a in args do
          last <- arithValue fuel a
        setStatus (if last == 0 then 1 else 0)
    | "true" | ":" => setStatus 0
    | "false" => setStatus 1
    | "test" | "[" =>
      let args := if name == "[" then
          if args.getLast? == some "]" then some args.dropLast else none
        else some args
      match args with
      | none =>
        complain "[: missing ]"
        setStatus 2
      | some args =>
        match testArgs e.bash e.fileTest args with
        | .ok v => setStatus (if v then 0 else 1)
        | .error msg =>
          complain s!"{name}: {msg}"
          setStatus 2
    | "cd" =>
      let target := match args.filter (fun a => a != "-P" && a != "-L") with
        | [] => (e.vars.lookup "HOME").getD "/"
        | ["-"] => (e.vars.lookup "OLDPWD").getD e.cwd
        | d :: _ => d
      if e.isDir target then
        let p := e.resolve target
        set ((({ e with cwd := p }).assign "OLDPWD" e.cwd).assign "PWD" p)
        if args == ["-"] then
          let _ <- emit (p ++ "\n")
        setStatus 0
      else
        complain (if e.bash then s!"cd: {target}: No such file or directory" else s!"cd: can't cd to {target}")
        setStatus (if e.bash then 1 else 2)
    | "pwd" => afterWrite (<- emit (e.cwd ++ "\n"))
    | "type" =>
      let mut status := 0
      for n in args do
        match e.describe n with
        | some text =>
          let _ <- emit (text ++ "\n")
        | none =>
          if e.bash then complain s!"type: {n}: not found" else
            let _ <- emit s!"{n}: not found\n"
          status := if e.bash then 1 else 127
      setStatus status
    | "which" =>
      let found := args.filterMap fun n =>
        if knownPrograms.contains n then some s!"/usr/bin/{n}" else none
      let _ <- emit (unlines found)
      setStatus (if found.length == args.length && !args.isEmpty then 0 else 1)
    | "command" =>
      match args with
      | "-v" :: names =>
        let found := names.filterMap e.locate
        let _ <- emit (unlines found)
        setStatus (if found.length == names.length && !names.isEmpty then 0 else if e.bash then 1 else 127)
      | "-V" :: names =>
        let mut status := 0
        for n in names do
          match e.describe n with
          | some text =>
            let _ <- emit (text ++ "\n")
          | none =>
            complain s!"command: {n}: not found"
            status := 1
        setStatus status
      | cmd :: rest => runBuiltin fuel cmd rest
      | [] => setStatus 0
    | "trap" =>
      match args with
      | [] => setStatus 0
      | action :: signals =>
        if signals.any (fun s => s == "EXIT" || s == "0") then
          set { e with exitTrap := if action == "-" || action.isEmpty then none else some action }
        setStatus 0
    | "times" => afterWrite (<- emit "0m0.000s 0m0.000s\n0m0.000s 0m0.000s\n")
    | _ =>
      if <- runUtility name args then pure ()
      else
        complain (if e.bash then s!"{name}: command not found" else s!"{name}: not found")
        setStatus 127

/-- Runs a simple command: expansions, assignments (kept after it only for special built-ins, and
functions under the Debian shell), its own redirections, and the command. -/
def runSimple : Nat -> List Assignment -> List Word -> List Redirect -> ShellM Unit
  | 0, _, _, _ => throw .exhausted
  | fuel + 1, assigns, words, redirects => do
    modify fun e => { e with substStatus := none }
    let mut fields : List String := []
    for w in words do
      fields := fields ++ (<- expandFields fuel w)
    let before <- get
    match fields with
    | [] => do
      let mut ok := true
      for a in assigns do
        if ok then ok <- assignOne fuel a
      if ok then
        let redirected <- applyRedirects fuel redirects
        restoreAfter ⟨before.fds, before.piped⟩ redirects
        let subst := (<- get).substStatus
        setStatus (if redirected then subst.getD 0 else if before.bash then 1 else 2)
    | name :: args => do
      let isFunction := (before.functions.lookup name).isSome
      let lasting := specialBuiltins.contains name || (isFunction && !before.bash)
      for a in assigns do
        let _ <- assignOne fuel a
      let redirected <- applyRedirects fuel redirects
      if !redirected then
        restoreAfter ⟨before.fds, before.piped⟩ redirects
        setStatus (if before.bash then 1 else 2)
      else if name == "exec" && args.isEmpty then
        setStatus ((<- get).substStatus.getD 0)
      else if name == "exec" then
        match args with
        | cmd :: rest => runBuiltin fuel cmd rest
        | [] => pure ()
        throw (.exited (<- get).status)
      else do
        match before.functions.lookup name with
        | some body => callFunction fuel body args
        | none => runBuiltin fuel name args
        restoreAfter ⟨before.fds, before.piped⟩ redirects
        if !lasting then
          -- assignments before a regular command last only for it
          modify fun e => assigns.foldl (fun e a =>
            match before.vars.lookup a.name with
            | some old => e.assign a.name old
            | none => e.unset a.name) e

/-- Runs a command as a condition: a failure there does not stop a `set -e` script. -/
def testCommand : Nat -> Command -> ShellM Unit
  | 0, _ => throw .exhausted
  | fuel + 1, c => do
    modify fun e => { e with testing := e.testing + 1 }
    let r <- tryCatch (do exec fuel c; pure none) fun s => pure (some s)
    modify fun e => { e with testing := e.testing - 1 }
    match r with
    | some s => throw s
    | none => pure ()

/-- Whether the test of `[[ … ]]` holds. -/
def condHolds : Nat -> CondExpr -> ShellM Bool
  | 0, _ => throw .exhausted
  | fuel + 1, c =>
    match c with
    | .test w => do pure (!(<- expandString fuel w).isEmpty)
    | .unary op w => do
      let v <- expandString fuel w
      match op with
      | "-n" => pure (!v.isEmpty)
      | "-z" => pure v.isEmpty
      | "-v" => pure ((<- get).param? v).isSome
      | _ => pure ((<- get).fileTest op v)
    | .binary op a b => do
      let x <- expandString fuel a
      match op with
      | "==" | "=" | "!=" =>
        let pattern <- expandMarks fuel b
        let hit := marksMatch pattern x
        pure (if op == "!=" then !hit else hit)
      | "=~" => do
        let marks <- expandMarks fuel b
        -- quoted characters of the pattern are literal
        let src := String.join (marks.map fun
          | .ch ch _ true => if "\\.[]*+?(){}|^$".contains ch then "\\" ++ ch.toString else ch.toString
          | .ch ch _ false => ch.toString
          | _ => "")
        match Sed.compilePattern { extended := true } src with
        | .error _ => pure false
        | .ok m =>
          let text := x.toList.toArray
          match m.searchFrom text 0 with
          | some caps =>
            let groups := (List.range (m.program.groups + 1)).map fun i =>
              match caps[i]? with
              | some (some (s, t)) => String.ofList (text.extract s t).toList
              | _ => ""
            modify fun e => e.assign "BASH_REMATCH" (groups.headD "")
            pure true
          | none => pure false
      | "<" | ">" => do
        let y <- expandString fuel b
        pure (compareBytes x y == (if op == "<" then .lt else .gt))
      | _ => do
        let y <- expandString fuel b
        let num (s : String) : ShellM Int := arithValue fuel s
        let p <- num x
        let q <- num y
        pure (match op with
          | "-eq" => p == q
          | "-ne" => p != q
          | "-lt" => p < q
          | "-le" => p <= q
          | "-gt" => p > q
          | "-ge" => p >= q
          | _ => false)
    | .not e => do pure !(<- condHolds fuel e)
    | .and a b => do
      if <- condHolds fuel a then condHolds fuel b else pure false
    | .or a b => do
      if <- condHolds fuel a then pure true else condHolds fuel b

/-- Runs a command; `fuel` bounds the steps. -/
def exec : Nat -> Command -> ShellM Unit
  | 0, _ => throw .exhausted
  | fuel + 1, c =>
    match c with
    | .simple assigns words redirects => do
      runSimple fuel assigns words redirects
      checkErrexit
    | .seq a b => do
      exec fuel a
      exec fuel b
    | .andThen a b => do
      testCommand fuel a
      if (<- get).status == 0 then exec fuel b
    | .orElse a b => do
      testCommand fuel a
      if (<- get).status != 0 then exec fuel b
    | .pipe a b => do
      let before <- get
      let saved <- beginCapture
      let writerWaits ← tryCatch (do exec fuel a; pure false) fun
        | .waiting => pure true
        | .exited code | .returned code => do setStatus code; pure false
        | .broke _ _ => pure false
        | .crashed => do setStatus 136; pure false
        | s => throw s
      let written := (<- get).status
      let produced <- endCapture saved
      let mid <- get
      set { before with
        input := mid.input
        piped := some ⟨produced, !writerWaits⟩
        out := mid.out
        captures := mid.captures
        files := mid.files
        dirs := mid.dirs }
      tryCatch (exec fuel b) fun
        | .exited code | .returned code => setStatus code
        | .broke _ _ => pure ()
        | s => throw s
      let after <- get
      let status := if before.pipefail && after.status == 0 then written else after.status
      set { before with
        out := after.out
        captures := after.captures
        files := after.files
        dirs := after.dirs
        input := mid.input
        piped := mid.piped
        status }
      if writerWaits then throw .waiting
      checkErrexit
    | .negate c => do
      testCommand fuel c
      modify fun e => { e with status := if e.status == 0 then 1 else 0 }
    | .loop cond body untilTrue => do
      testCommand fuel cond
      if ((← get).status == 0) != untilTrue then do
        if <- loopBody fuel body then exec fuel (.loop cond body untilTrue) else setStatus 0
      else setStatus 0
    | .branch cond yes no => do
      testCommand fuel cond
      if (<- get).status == 0 then exec fuel yes
      else match no with
        | some n => exec fuel n
        | none => setStatus 0
    | .choose subject arms => do
      let text <- expandString fuel subject
      let mut chosen : Option Command := none
      for (ps, body) in arms do
        if chosen.isNone then
          for p in ps do
            if chosen.isNone && marksMatch (← expandMarks fuel p) text then
              chosen := some body
      match chosen with
      | some body => exec fuel body
      | none => setStatus 0
    | .each name items body => do
      let mut values : List String := []
      for w in items do
        values := values ++ (<- expandFields fuel w)
      if items.isEmpty then values := (<- get).args
      setStatus 0
      let mut going := true
      for v in values do
        if going then
          let _ <- assignChecked name v
          going <- loopBody fuel body
    | .redirected c rs => do
      let saved <- saveFds
      if ← applyRedirects fuel rs then
        exec fuel c
        restoreAfter saved rs
      else
        restoreAfter saved rs
        setStatus (if (<- get).bash then 1 else 2)
    | .subshell c => do
      let before <- get
      tryCatch (exec fuel c) fun
        | .exited code | .returned code => setStatus code
        | .crashed => setStatus 136
        | .broke _ _ => pure ()
        | s => throw s
      let after <- get
      set { before with
        out := after.out
        captures := after.captures
        files := after.files
        dirs := after.dirs
        input := after.input
        piped := after.piped
        status := after.status }
      checkErrexit
    | .define name body => do
      modify fun e => { e with functions := (name, body) :: e.functions.filter (·.1 != name) }
      setStatus 0
    | .cond e => do
      let v <- condHolds fuel e
      setStatus (if v then 0 else 1)
      checkErrexit
    | .arith expr => do
      let v <- arithValue fuel expr
      setStatus (if v == 0 then 1 else 0)
      checkErrexit
    | .arithFor init test step body => do
      if !init.trimAscii.isEmpty then
        let _ <- arithValue fuel init
      let go ← if test.trimAscii.isEmpty then pure true else do
        let v <- arithValue fuel test
        pure (v != 0)
      if go then
        if ← loopBody fuel body then
          if !step.trimAscii.isEmpty then
            let _ <- arithValue fuel step
          exec fuel (.arithFor "" test step body)
        else setStatus 0
      else setStatus 0
    | .nothing => pure ()

end

/-- How a run ended, and what it wrote. -/
structure RunResult where
  out : String
  /-- Whether the script has ended; otherwise it waits for input. -/
  ended : Bool
  /-- Whether the program's standard output was closed while the script went on. -/
  released : Bool
  deriving Inhabited

/-- The steps a run may take. -/
def runFuel : Nat := 20000

/-- Runs the command `trap` set for the end of the script, if there is one. -/
def runExitTrap : ShellM Unit := do
  match (<- get).exitTrap with
  | none => pure ()
  | some action =>
    modify fun e => { e with exitTrap := none }
    match parseScript (<- get).bash action with
    | .ok c => tryCatch (exec runFuel c) fun
      | .exited _ => pure ()
      | s => throw s
    | .error _ => pure ()

/-- Runs a script on the lines given so far; `bash` tells which shell runs it. -/
def runScript (script : Command) (input : List String) (bash : Bool) : RunResult :=
  let whole : ShellM Unit := do
    let code ← tryCatch (do exec runFuel script; pure (← get).status) fun
      | .exited code | .returned code => pure code
      | s => throw s
    setStatus code
    runExitTrap
  let (r, e) := whole.run.run { input, bash }
  let released := e.fds.all (·.2 != .stdout)
  match r with
  | .ok () => ⟨e.out, true, released⟩
  | .error (.exited _) => ⟨e.out, true, released⟩
  | .error .crashed => ⟨e.out, true, released⟩
  | .error (.broke _ _) => ⟨e.out, true, released⟩
  | .error (.returned _) => ⟨e.out, true, released⟩
  | .error _ => ⟨e.out, false, released⟩

end TranscriptTest.Shell
