import TranscriptTest.Js.Eval
import TranscriptTest.Wire.JsonText

/-!
# The evaluation service

The service reads one JSON request per line and answers each with one JSON line
`{"output":…,"error":…}`. `{"op":"eval","source":s}` runs `s` as a script in the current global
environment: the answer's output is every line the script printed, then the script's value
unless that is `undefined` (or a function, when the source starts with `function`); a script
that throws answers with the printed lines and the error's text. `{"op":"reset"}` starts a
fresh global environment. Anything else is an unknown op; a line that is no JSON is a bad
request.
-/

namespace TranscriptTest.Js

open TranscriptTest.Wire

/-- Steps one script may take; a script that takes more runs forever as far as anyone waiting
for its answer can tell. -/
def stepBudget : Nat := 50000000

/-- Nesting the evaluator may reach: more than the budget can ever use. -/
def evalFuel : Nat := 8 * stepBudget + 100000

/-- What the service does with one request line. -/
inductive Answer where
  /-- Writes this line. -/
  | reply (line : String)
  /-- Keeps running without answering. -/
  | silent
  /-- Stops. -/
  | crash
  deriving Inhabited, BEq

/-- The reply line for an output and an error. -/
def replyLine (output : String) (error : Option String) : String :=
  let err := match error with
    | some e => jsonQuote e
    | none => "null"
  "\x7b\"output\":" ++ jsonQuote output ++ ",\"error\":" ++ err ++ "\x7d"

/-- The error of a name declared twice. -/
def redeclared {α : Type} (name : String) : Eval α :=
  raiseError .syntaxError (SyntaxIssue.alreadyDeclared name).message

/-- Creates the global bindings a script declares before it runs. -/
def declareGlobals (body : List Stmt) : Eval Unit := do
  let r <- get
  let g := r.global
  let gs := r.globalScope
  let lexical := lexicalDecls body
  let lexicalTaken (n : String) : Eval Bool := do
    pure ((<- getScope gs).bindings.any (·.name == n))
  for (n, _) in lexical do
    if <- lexicalTaken n then redeclared n
    match (<- getObj g).findOwn? n with
    | some s => if !s.configurable then redeclared n
    | none => pure ()
  let varNames := body.flatMap (Stmt.topVarNames false)
  for n in varNames do
    if <- lexicalTaken n then redeclared n
  for f in functionDecls body do
    match f.name with
    | some n =>
      let ref <- makeFunction gs f n none
      match (<- getObj g).findOwn? n with
      | some (.data _ w e false) => defineData g n (.obj ref) w e false
      | _ => defineData g n (.obj ref) true true false
    | none => pure ()
  let mut hoisted := []
  for n in hoistedBlockFunctions body [] do
    if !(<- lexicalTaken n) then hoisted := hoisted ++ [n]
  let blockFunctions := hoisted
  modifyScope gs fun s => { s with blockFunctions := s.blockFunctions ++ blockFunctions }
  for n in listVarNames body ++ hoisted do
    if ((<- getObj g).findOwn? n).isNone then defineData g n .undefined true true false
  for (n, c) in lexical do
    declareIn gs n none !c

/-- Runs a script in the global environment, as strict code if `strict`; its completion
value. -/
def runScript (body : List Stmt) (strict : Bool) : Eval Value := do
  declareGlobals body
  let gs := (<- get).globalScope
  modifyScope gs fun s => { s with strict := some strict }
  let v <- evalStmts evalFuel gs body none
  pure (v.getD .undefined)

/-- The host the service's own conversions use. -/
def serviceHost : Host :=
  { call := call evalFuel, construct := fun c a => construct evalFuel c a c,
    get := getV evalFuel, put := putV evalFuel, assign := strictPut evalFuel,
    toPrimitive := toPrimitive evalFuel,
    iterate := fun x => do iterate evalFuel x (<- describeValue x),
    evalGlobal := fun x => do evalCode evalFuel (<- get).globalScope x,
    resume := resumeGenerator evalFuel }

/-- The text of a thrown value: `name: message` when it has a message, else the value as text. -/
def thrownText (e : Value) : Eval String := do
  let h := serviceHost
  let message <- if e.truthy then h.get e "message" else pure .undefined
  match message with
  | .undefined => h.toStr e
  | _ =>
    let name <- h.get e "name"
    pure ((<- h.toStr name) ++ ": " ++ (<- h.toStr message))

/-- Whether a source text, trimmed, starts with `function`. -/
def startsWithFunction (source : String) : Bool :=
  (source.toList.dropWhile isTrimmed).take 8 == "function".toList

/-- The output of a finished script: its printed lines, then its value. -/
def resultOutput (source : String) (v : Value) : Eval String := do
  let lines := (<- get).printed
  let declaresFunction := (<- typeOf v) == "function" && startsWithFunction source
  let lines <- match v with
    | .undefined => pure lines
    | _ => if declaresFunction then pure lines else do pure (lines.push (<- render serviceHost v))
  pure (String.join (lines.toList.map (· ++ "\n")))

/-- The printed lines as output. -/
def printedOutput : Eval String := do
  pure (String.join ((<- get).printed.toList.map (· ++ "\n")))

/-- Runs an evaluation, giving how it ended and the realm after it. -/
def attemptIn {α : Type} (realm : Realm) (m : Eval α) : Except Abrupt α × Realm :=
  match m.run realm with
  | .ok a r => (.ok a, r)
  | .error e r => (.error e, r)

/-- The answer for a script that threw `e`, with the lines it printed. -/
def errorAnswer (realm : Realm) (e : Value) : Answer × Realm :=
  let output := (attemptIn realm printedOutput).1
  match attemptIn realm (thrownText e) with
  | (.ok text, realm) =>
    (.reply (replyLine (match output with
      | .ok o => o
      | .error _ => "") (some text)), realm)
  | (.error (.thrown e2), realm) =>
    match attemptIn realm (do
        if e2.isNullish then throwType "Cannot read properties of null"
        serviceHost.toStr (<- serviceHost.get e2 "message")) with
    | (.ok m, realm) => (.reply (replyLine "" (some ("bad request: " ++ m))), realm)
    | (.error _, realm) => (.crash, realm)
  | (.error _, realm) => (.silent, realm)

/-- Runs the jobs a script left queued, once it has answered: what they print is seen by no
one, but what they change stays for the next script. -/
def afterScript (realm : Realm) : Realm :=
  let realm := { realm with steps := stepBudget, depth := 0, frames := [{}] }
  match attemptIn realm (runJobs evalFuel stepBudget) with
  | (_, realm) => { realm with jobs := [] }

/-- The answer to one script. -/
def answerSource (realm : Realm) (source : String) : Answer × Realm :=
  let realm := { realm with printed := #[], steps := stepBudget, depth := 0, frames := [{}] }
  match parseProgram source with
  | .error issue =>
    match attemptIn realm (raiseError .syntaxError issue.message : Eval Value) with
    | (.error (.thrown e), realm) => errorAnswer realm e
    | (_, realm) => (.silent, realm)
  | .ok (body, strict) =>
    match attemptIn realm (runScript body strict) with
    | (.ok v, realm) =>
      match attemptIn realm (resultOutput source v) with
      | (.ok out, realm) => (.reply (replyLine out none), realm)
      | (.error (.thrown e), realm) => errorAnswer realm e
      | (.error _, realm) => (.silent, realm)
    | (.error (.thrown e), realm) => errorAnswer realm e
    | (.error _, realm) => (.silent, realm)

/-- Evaluates one script; the jobs it queued run after its answer. -/
def evaluateSource (realm : Realm) (source : String) : Answer × Realm :=
  let (answer, realm) := answerSource realm source
  (answer, afterScript realm)

mutual

/-- The text of a JSON value as a script would convert it. -/
def JsonTree.text : JsonTree -> String
  | .null => "null"
  | .bool b => if b then "true" else "false"
  | .num x => numberText x
  | .str s => s
  | .arr items => ",".intercalate (JsonTree.itemTexts items)
  | .obj _ => "[object Object]"

/-- The texts of array items joined into an array's text: `null` items are empty. -/
def JsonTree.itemTexts : List JsonTree -> List String
  | [] => []
  | .null :: rest => "" :: JsonTree.itemTexts rest
  | t :: rest => t.text :: JsonTree.itemTexts rest

end

/-- A member of a JSON object; the last one wins when a name repeats. -/
def JsonTree.member? (t : JsonTree) (name : String) : Option JsonTree :=
  match t with
  | .obj members => (members.reverse.find? (·.1 == name)).map (·.2)
  | _ => none

/-- Answers one request line. -/
def respond (realm : Realm) (line : String) : Answer × Realm :=
  match readJson line with
  | .error f => (.reply (replyLine "" (some ("bad request: " ++ f.message line))), realm)
  | .ok .null => (.reply (replyLine "" (some "bad request: Cannot read properties of null (reading 'op')")), realm)
  | .ok request =>
    match request.member? "op" with
    | some (.str "reset") => (.reply (replyLine "" none), freshRealm)
    | some (.str "eval") =>
      let source := match request.member? "source" with
        | some t => t.text
        | none => "undefined"
      evaluateSource realm source
    | op =>
      let shown := match op with
        | some t => t.text
        | none => "undefined"
      (.reply (replyLine "" (some ("unknown op " ++ shown))), realm)

end TranscriptTest.Js
