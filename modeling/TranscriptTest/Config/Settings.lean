import TranscriptTest.Config.File
import TranscriptTest.Files.Path
import TranscriptTest.Transcript.Prompts
import TranscriptTest.Identity.Normalizer
import TranscriptTest.Text.Lines

/-!
# Settings

The settings of a run come from three places: built-in defaults, the configuration file, and
the command line, which wins. An interpreter command from the file that is a relative path of
two or more components is taken relative to the file's directory; a bare name is looked up on
the search path. Without arguments of its own, a command whose file stem is `node` runs the
bundled driver. A prompt given on the command line brings its own continuation prompt.
-/

namespace TranscriptTest.Config

open TranscriptTest.Transcript TranscriptTest.Identity TranscriptTest.Files TranscriptTest.Text

/-- Values given on the command line. -/
structure Overrides where
  command : Option String := none
  timeout : Option Nat := none
  prologue : Option String := none
  prompt : Option String := none
  identityPattern : Option String := none
  consistentIdentity : Bool := false
  group : Option String := none
  quiet : Bool := false
  deriving Inhabited

/-- Everything a run needs to know. -/
structure Settings where
  command : String
  /-- Arguments of the interpreter; `none` runs the bundled driver. -/
  args : Option (List String)
  /-- Seconds per statement. -/
  timeout : Nat
  quiet : Bool
  prompts : Prompts
  normalizer : Normalizer
  prologue : Option String
  extensions : List String
  group : String
  deriving Inhabited

/-- The interpreter used when none is named. -/
def defaultCommand : String := "node"

/-- Seconds per statement when none are given. -/
def defaultTimeout : Nat := 30

/-- The group emitted sessions go to when none is given. -/
def defaultGroup : String := "default"

/-- A command from a configuration file at `configPath`: relative paths of two or more
components are taken from the file's directory. -/
def commandBeside (command configPath : String) : String :=
  if isAbsolute command || (components command).length < 2 then command
  else match parent? configPath with
    | some dir => join dir command
    | none => command

/-- Whether a command runs the bundled driver when it has no arguments. -/
def runsDriver (command : String) : Bool :=
  fileStem? command == some defaultCommand

/-- Merges defaults, a configuration file read from `configPath`, and the command line. -/
def resolve (file : Option (ConfigFile × String)) (o : Overrides) : Except ConfigError Settings := do
  let raw := (file.map (·.1)).getD {}
  let interp := raw.interpreter.getD {}
  let promptCfg := raw.prompts.getD {}
  let identity := raw.identity.getD {}
  let command := match o.command, interp.command, file with
    | some c, _, _ => trim c
    | none, some c, some (_, path) => commandBeside (trim c) path
    | none, some c, none => trim c
    | none, none, _ => defaultCommand
  let args := match interp.args with
    | some a => some a
    | none => if runsDriver command then none else some []
  let timeout := (o.timeout.orElse fun _ => interp.timeout).getD defaultTimeout
  let primary := (o.prompt.orElse fun _ => promptCfg.primary).getD Prompts.standard.primary
  -- a primary prompt on the command line brings its own continuation
  let continuation := if o.prompt.isSome then none else promptCfg.continuation
  let prompts ← match continuation with
    | some c => Prompts.withContinuation primary c
    | none => Prompts.new primary
  let pattern := (o.identityPattern.orElse fun _ => identity.pattern).getD defaultPattern
  let placeholder := identity.placeholder.getD defaultPlaceholder
  let normalizer ← Normalizer.new pattern placeholder
  let normalizer := normalizer.withConsistent (o.consistentIdentity || identity.consistent.getD false)
  let extensions := (raw.extensions.getD ["js"]).map fun e =>
    String.ofList ((trim e).toList.dropWhile (· == '.'))
  pure {
    command, args, timeout, quiet := o.quiet, prompts, normalizer,
    prologue := o.prologue.orElse fun _ => raw.prologue,
    extensions,
    group := (o.group.orElse fun _ => raw.group).getD defaultGroup }

end TranscriptTest.Config
