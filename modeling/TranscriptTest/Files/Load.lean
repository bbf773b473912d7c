import TranscriptTest.Files.Tree
import TranscriptTest.Transcript.Parse
import TranscriptTest.Verdict.Batch
import TranscriptTest.Text.Template

/-!
# Loading transcripts

Transcript files come from the paths given: a path that is not a directory is taken as it is,
whatever its extension; a directory contributes every file below it whose extension is one of
those asked for, and a failure for each directory below it that cannot be read. Each file is
read and parsed with its name and line 1 as its tag. A file that cannot be read, or that holds
no statement, is a load failure; with `skipEmpty` a file without statements is set aside
instead.
-/

namespace TranscriptTest.Files

open TranscriptTest.Transcript TranscriptTest.Verdict TranscriptTest.Text

/-- What loading found. -/
structure Loaded where
  sessions : List Session := []
  failures : List LoadFailure := []
  /-- Files without statements, when those are set aside. -/
  skipped : List String := []
  deriving Inhabited

/-- Whether a path's extension is one of `extensions`. -/
def hasExtension (extensions : List String) (p : String) : Bool :=
  match extension? p with
  | some e => extensions.contains e
  | none => false

/-- The message of a file that cannot be read. -/
def cannotRead (file error : String) : String :=
  fillTemplate ("Cannot read " ++ slot "file" ++ ": " ++ slot "error") [("file", file), ("error", error)]

/-- Takes one entry of a walk: a file with one of the extensions joins the files, a directory
that cannot be read the failures. -/
def collectEntry (extensions : List String) (acc : List String × List LoadFailure) :
    WalkEntry → List String × List LoadFailure
  | .file f => if hasExtension extensions f then (acc.1 ++ [f], acc.2) else acc
  | .unreadable f e => (acc.1, acc.2 ++ [⟨f, cannotRead f e⟩])

/-- Takes one path: one that is not a directory as given, a directory's entries as its walk meets
them. -/
def collectPath (t : FileTree) (extensions : List String) (acc : List String × List LoadFailure)
    (p : String) : List String × List LoadFailure :=
  if t.isDir p then (t.walk p).foldl (collectEntry extensions) acc else (acc.1 ++ [p], acc.2)

/-- The files named by the paths, and the failures of their walks. -/
def collectFiles (t : FileTree) (paths extensions : List String) : List String × List LoadFailure :=
  paths.foldl (collectPath t extensions) ([], [])

/-- Reads and parses one file into what was loaded so far. -/
def loadFile (t : FileTree) (p : Prompts) (skipEmpty : Bool) (acc : Loaded) (file : String) : Loaded :=
  match t.readText file with
  | .error e => { acc with failures := acc.failures ++ [⟨file, cannotRead file e.message⟩] }
  | .ok text =>
    match parse text p ⟨file, 1⟩ with
    | .ok s => { acc with sessions := acc.sessions ++ [s] }
    | .error e =>
      if skipEmpty then { acc with skipped := acc.skipped ++ [file] }
      else { acc with failures := acc.failures ++ [⟨file, e.message⟩] }

/-- Loads the sessions of every file the paths name, after the failures of the walks. -/
def loadSessions (t : FileTree) (paths extensions : List String) (p : Prompts) (skipEmpty : Bool) : Loaded :=
  let found := collectFiles t paths extensions
  found.1.foldl (loadFile t p skipEmpty) { failures := found.2 }

end TranscriptTest.Files
