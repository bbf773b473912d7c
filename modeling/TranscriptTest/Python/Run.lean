import TranscriptTest.Python.Eval
import TranscriptTest.Python.Parser

/-!
# Running a program on the input given so far

A program is run from its start on the lines of input it has been given. It either ends (it
finished, called `exit`, or an exception nobody caught ended it; buffered output is then
written out), or it is still running: it waits for a line not given yet, or it spends its whole
budget of steps without ending. Output still in the buffer of a program that runs on has not
reached the pipe.
-/

namespace TranscriptTest.Python

/-- How deeply calls and expressions may nest in a run. -/
def evalFuel : Nat := 100000

/-- What a run on some input gives. -/
structure Outcome where
  /-- What reached standard output. -/
  out : String
  /-- Whether the program has ended. -/
  ended : Bool
  deriving Inhabited

/-- The machine a program starts in: its module scope, which knows its name, holds the input. -/
def startMachine (input : Array String) (unbuffered : Bool) : Machine :=
  { heap := #[.scope #[("__name__", .str "__main__")] Option.none [] [] false], globals := 0,
    input, unbuffered }

/-- Runs a program on the lines of input given so far. -/
def runProgram (program : List Stmt) (input : Array String) (unbuffered : Bool) : Outcome :=
  let (r, m) := ((execBlock evalFuel 0 program).run).run (startMachine input unbuffered)
  match r with
  | .error .waiting | .error .exhausted => { out := m.out, ended := false }
  | _ => { out := m.out ++ m.pending, ended := true }

/-- How the interpreter is started: with `-c`, the program text; `-u` for unbuffered output. -/
structure Invocation where
  source : Option String
  unbuffered : Bool
  /-- Whether a file is named to run, which is not there. -/
  missingFile : Bool
  deriving Inhabited

/-- Reads the interpreter's command line: flags that take no value may be joined (`-uc`); `-c`
takes the program text, from the rest of its flag or the next argument, and ends the options. -/
def Invocation.ofArgs (args : List String) : Invocation :=
  go args.length args false
where
  go : Nat -> List String -> Bool -> Invocation
    | 0, _, u => { source := none, unbuffered := u, missingFile := false }
    | _, [], u => { source := none, unbuffered := u, missingFile := false }
    | fuel + 1, a :: rest, u =>
      if a == "-" || !a.startsWith "-" then
        { source := none, unbuffered := u, missingFile := a != "-" }
      else if a == "-W" || a == "-X" then go fuel (rest.drop 1) u
      else
        let flags := (a.drop 1).toString.toList
        let unbuffered := u || (flags.takeWhile (· != 'c')).contains 'u'
        match flags.findIdx? (· == 'c') with
        | some i =>
          let tail := String.ofList (flags.drop (i + 1))
          if tail.isEmpty then
            match rest with
            | code :: _ => { source := some code, unbuffered, missingFile := false }
            | [] => { source := none, unbuffered, missingFile := true }
          else { source := some tail, unbuffered, missingFile := false }
        | none => go fuel rest unbuffered

end TranscriptTest.Python
