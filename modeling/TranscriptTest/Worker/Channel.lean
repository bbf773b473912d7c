import TranscriptTest.Worker.Program
import TranscriptTest.Js.Standalone
import TranscriptTest.Wire.Protocol
import TranscriptTest.Replay.Run

/-!
# Talking to a running program

A running program is fed request lines and writes output; what it has written and not yet been
read waits in a queue. A round trip writes one request, then reads one line of output: a line
that is there is the reply, output that has ended gives an exited interpreter, and a program that
is still running but has written no whole line gives a timeout, since everything it would write
for the input it has is already in the queue.

A program that has ended takes no more input: writing to it is a broken pipe. One that ends as
soon as it starts is still taking the first line it is sent, since that line is written before
the program is seen to end; so is a shell that closed its standard output and went on.

Output is kept as a byte text (see `TranscriptTest.Text.Bytes`), since a program may write any
bytes; a line read must be UTF-8. A program that sleeps ends once its time is up, and every
round trip that waits in vain takes the whole time allowed.
-/

namespace TranscriptTest.Worker

open TranscriptTest.Replay TranscriptTest.Wire TranscriptTest.Text

/-- What a running program keeps between lines. -/
inductive Machine where
  /-- The evaluation service with its global environment. -/
  | service (realm : Js.Realm)
  /-- A standalone script that listens to its input, with its realm. -/
  | script (realm : Js.Realm)
  | echo
  /-- A shell script with the lines it has been given and the length of the output it wrote
  for them; `bash` tells which shell runs it. -/
  | shell (script : Shell.Command) (bash : Bool) (input : List String) (shown : Nat)
  /-- Writes the same line over and over. -/
  | repeating (line : String)
  /-- The stream editor, with its state and the output it holds back. -/
  | editing (inv : Shell.Sed.Invocation) (state : Shell.Sed.State) (held : String)
  /-- An interpreted program with the lines it has been given and the length of the output it
  wrote for them. -/
  | interpreting (program : List Python.Stmt) (unbuffered : Bool) (input : Array String) (shown : Nat)
  /-- Reads its input and writes nothing more. -/
  | idle
  deriving Inhabited

/-- A running program. -/
structure Process where
  machine : Machine
  /-- Output written and not read yet, as a byte text. -/
  unread : String := ""
  /-- Whether the program has ended, so its output ends after `unread`. -/
  ended : Bool := false
  /-- Whether a line written to it is taken. -/
  takesInput : Bool := true
  /-- Seconds until the program ends by itself, if it does. -/
  lifetime : Option Float := none
  deriving Inhabited

/-- A process after a step of a standalone script, with what it wrote added to its output. -/
def Process.afterScript (p : Process) (step : Js.ScriptStep) (started : Bool) : Process :=
  let unread := p.unread ++ toByteText step.output
  match step.status with
  | .listening => { p with machine := .script step.realm, unread }
  | .ended => { p with machine := .idle, unread, ended := true, takesInput := started }
  | .stuck => { p with machine := .idle, unread }

/-- Starts a program. -/
def Program.start : Program → Process
  | .service => { machine := .service Js.freshRealm }
  | .script source => Process.afterScript { machine := .idle } (Js.startScript source) true
  | .echo => { machine := .echo }
  | .shell command bash =>
    let r := Shell.runScript command [] bash
    { machine := .shell command bash [] r.out.length, unread := r.out,
      ended := r.ended || r.released }
  | .prints text => { machine := .idle, unread := toByteText text, ended := true }
  | .repeats line => { machine := .repeating (toByteText line), unread := toByteText line ++ "\n" }
  | .quits => { machine := .idle, ended := true }
  | .mute => { machine := .idle }
  | .sleeps seconds => { machine := .idle, lifetime := some seconds }
  | .edits inv => { machine := .editing inv {} "" }
  | .interprets program unbuffered =>
    let r := Python.runProgram program #[] unbuffered
    let out := toByteText r.out
    { machine := .interpreting program unbuffered #[] out.length, unread := out, ended := r.ended }

/-- The system's text for writing to a program that has ended. -/
def brokenPipe : String := "Broken pipe (os error 32)"

/-- Gives a program one line of input (without its line feed). -/
def Process.feed (p : Process) (line : String) : Process :=
  match p.machine with
  | .service realm =>
    match Js.respond realm line with
    | (.reply answer, realm) =>
      { p with machine := .service realm, unread := p.unread ++ toByteText answer ++ "\n" }
    | (.silent, _) => { p with machine := .idle }
    | (.crash, _) => { p with machine := .idle, ended := true, takesInput := false }
  | .script realm => p.afterScript (Js.feedScript realm line) false
  | .echo => { p with unread := p.unread ++ toByteText line ++ "\n" }
  | .repeating text => { p with unread := p.unread ++ text ++ "\n" }
  | .editing inv st held =>
    let (out, st) := inv.step st (toByteText line) false
    let pending := held ++ out
    if st.quitWith.isSome then
      { p with machine := .idle, unread := p.unread ++ pending, ended := true, takesInput := false }
    else if inv.unbuffered then { p with machine := .editing inv st "", unread := p.unread ++ pending }
    else
      -- without `-u` the output reaches the pipe a full buffer at a time
      let whole := pending.length / Shell.Sed.blockSize * Shell.Sed.blockSize
      { p with machine := .editing inv st (pending.drop whole).toString,
               unread := p.unread ++ (pending.take whole).toString }
  | .shell script bash input shown =>
    let input := input ++ [toByteText line]
    let r := Shell.runScript script input bash
    { p with machine := .shell script bash input r.out.length, unread := p.unread ++ r.out.drop shown,
             ended := r.ended || r.released, takesInput := !r.ended || r.released }
  | .interpreting program unbuffered input shown =>
    let input := input.push line
    let r := Python.runProgram program input unbuffered
    let out := toByteText r.out
    { p with machine := .interpreting program unbuffered input out.length,
             unread := p.unread ++ out.drop shown, ended := r.ended, takesInput := !r.ended }
  | .idle => p

/-- Writes one line to a program; a program that takes no input fails with a broken pipe. -/
def Process.write (p : Process) (line : String) : Except String Process :=
  if !p.takesInput then .error brokenPipe
  else if p.ended then .ok { p with takesInput := false }
  else .ok (p.feed line)

/-- What reading one line of output gives. -/
inductive Received where
  | line (text : String)
  /-- A line whose bytes are not UTF-8. -/
  | invalid
  /-- The output has ended. -/
  | closed
  /-- No line comes in the time allowed. -/
  | nothing
  deriving Inhabited, BEq

/-- The system's text for a line that is not UTF-8. -/
def invalidText : String := "stream did not contain valid UTF-8"

/-- A line of output read back from its bytes. -/
def receivedLine (bytes : String) : Received :=
  match fromByteText bytes with
  | some text => .line text
  | none => .invalid

/-- Reads one line of output; a last line without a line feed counts once the output ends. -/
def Process.readLine (p : Process) : Received × Process :=
  match p.unread.splitOn "\n" with
  | first :: rest@(_ :: _) => (receivedLine first, { p with unread := "\n".intercalate rest })
  | _ =>
    if !p.ended then (.nothing, p)
    else if p.unread.isEmpty then (.closed, p)
    else (receivedLine p.unread, { p with unread := "" })

/-- A program waited on for `timeout` seconds in vain: one whose time runs out meanwhile has
ended, and reading again finds its last output. -/
def Process.wait (p : Process) (timeout : Nat) : Option Process :=
  match p.lifetime with
  | some left =>
    if left < timeout.toFloat then some { p with ended := true, takesInput := false, lifetime := none }
    else none
  | none => none

/-- Sends a request and reads its reply, waiting at most `timeout` seconds. -/
def Process.roundTrip (p : Process) (request : Request) (timeout : Nat) : Evaluation × Process :=
  let line := request.encode
  let line := if line.endsWith "\n" then String.ofList line.toList.dropLast else line
  let answer (r : Received) (p : Process) : Evaluation × Process :=
    match r with
    | .line text => (replyEvaluation text, p)
    | .invalid => (.error (.io invalidText), p)
    | .closed => (.error .exited, p)
    | .nothing =>
      -- the time waited counts against the rest of its life
      (.error (.timeout timeout),
        { p with lifetime := p.lifetime.map fun left => left - timeout.toFloat })
  match p.write line with
  | .error io => (.error (.io io), p)
  | .ok p =>
    match p.readLine with
    | (.nothing, p) =>
      match p.wait timeout with
      | some p => let (r, p) := p.readLine; answer r p
      | none => answer .nothing p
    | (r, p) => answer r p

/-- Whether a program is still running. -/
def Process.running (p : Process) : Bool :=
  !p.ended

/-- A replay scope on a running program, each statement allowed `timeout` seconds. -/
def processScope (timeout : Nat) : Scope Process :=
  ⟨fun p src => p.roundTrip (.eval src) timeout⟩

end TranscriptTest.Worker
