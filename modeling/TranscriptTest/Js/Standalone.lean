import TranscriptTest.Js.Repl

/-!
# Scripts run on their own

A script run on its own gets a fresh realm with `process` and `require`, runs once, and then
lives on as long as something listens to its standard input. After the script, and after each
line it is given, the jobs its promises queued run. Each line it is given goes to its
listeners in the order they were added: line readers hear the line, `data` listeners the line
with its line feed. Each step gives what the script wrote to standard output and how it stands
after it.
-/

namespace TranscriptTest.Js

/-- How a standalone script stands after a step. -/
inductive ScriptStatus where
  /-- Waiting for more input. -/
  | listening
  /-- Ended. -/
  | ended
  /-- Running without end. -/
  | stuck
  deriving Inhabited, BEq

/-- What one step of a standalone script gives. -/
structure ScriptStep where
  realm : Realm
  /-- What the script wrote to standard output during the step. -/
  output : String
  status : ScriptStatus
  deriving Inhabited

/-- The text written since the last step, taken out of the realm. -/
def takeOutput (realm : Realm) : String × Realm :=
  (String.join (realm.printed.toList.map (· ++ "\n")) ++ realm.pending,
   { realm with printed := #[], pending := "" })

/-- The step a run of script code makes, from how the run ended. -/
def ScriptStep.ofRun (result : Except Abrupt Unit) (realm : Realm) : ScriptStep :=
  let (output, realm) := takeOutput realm
  let status := match result with
    | .ok () => if realm.listeners.isEmpty then .ended else .listening
    | .error .exhausted => if realm.exitCode.isSome then .ended else .stuck
    | .error _ => .ended
  ⟨realm, output, status⟩

/-- A realm ready for a step: the full budget of steps, no calls under way. -/
def Realm.forStep (realm : Realm) : Realm :=
  { realm with steps := stepBudget, depth := 0 }

/-- Starts a script: runs its text once. -/
def startScript (source : String) : ScriptStep :=
  let realm := standaloneRealm.forStep
  match parseProgram source with
  | .error _ => ⟨realm, "", .ended⟩
  | .ok (body, strict) =>
    let (result, realm) := attemptIn realm (do
      let _ <- runScript body strict
      runJobs evalFuel stepBudget)
    ScriptStep.ofRun result realm

/-- Calls the listeners of standard input for one line, in the order they were added. -/
def hearLine (line : String) : Eval Unit := do
  for l in (← get).listeners do
    if l.event == "line" then
      let _ <- serviceHost.call l.fn l.target [.str line]
    else if l.event == "data" then
      let _ <- serviceHost.call l.fn l.target [.str (line ++ "\n")]

/-- Gives a listening script one line of its standard input. -/
def feedScript (realm : Realm) (line : String) : ScriptStep :=
  let (result, realm) := attemptIn realm.forStep (do
    hearLine line
    runJobs evalFuel stepBudget)
  ScriptStep.ofRun result realm

end TranscriptTest.Js
