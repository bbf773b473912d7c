import TranscriptTest.Cli.Run

/-!
# The command

Reads the files a run may look at from the working directory, runs, then writes the files the
run produced, prints its output and ends with its status.
-/

open TranscriptTest TranscriptTest.Files

/-- Reads a path below the working directory into a list of files, of directories and of the
directories that cannot be read, descending at most `depth` levels. -/
partial def snapshot (root : String) (depth : Nat) (acc : List (String × ByteArray) × List String × List String) :
    IO (List (String × ByteArray) × List String × List String) := do
  let cwd ← IO.currentDir
  let here := cwd / root
  if ← here.isDir then
    let acc := (acc.1, acc.2.1 ++ [root], acc.2.2)
    if depth == 0 then return acc
    let some entries ← some <$> here.readDir <|> pure none
      | return (acc.1, acc.2.1, acc.2.2 ++ [root])
    let names := (entries.toList.map (·.fileName)).mergeSort (· ≤ ·)
    names.foldlM (fun acc name => snapshot (Files.join root name) (depth - 1) acc) acc
  else if ← here.pathExists then
    try
      let bytes ← IO.FS.readBinFile here
      return (acc.1 ++ [(root, bytes)], acc.2)
    catch _ => return acc
  else return acc

/-- Runs the program. -/
def main (args : List String) : IO UInt32 := do
  let cwd ← IO.currentDir
  let mut found : List (String × ByteArray) × List String × List String := ([], [], [])
  for p in Cli.touchedPaths args do
    if !isAbsolute p then
      found ← snapshot p 16 found
  let tree := (FileTree.ofPaths found.1 found.2.1).lock found.2.2
  let out := Cli.run tree args
  for (path, text) in out.written do
    let target := cwd / path
    if let some dir := target.parent then
      IO.FS.createDirAll dir
    IO.FS.writeFile target text
  IO.print out.stdout
  IO.eprint out.stderr
  return out.exit.toUInt32
