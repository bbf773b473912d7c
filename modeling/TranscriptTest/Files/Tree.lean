import TranscriptTest.Files.Path

/-!
# File trees

A file tree is a snapshot of a directory: files by their relative names, with their bytes, and
the directories that hold them (a directory may also stand empty, or refuse to be read). Paths
are looked up relative to the tree's root; a walk through a directory visits its files depth
first, each directory's entries in byte order of their names, and names each file by joining the
walked path and the names below it. A directory that cannot be read is met as an error, and
nothing below it is met.
-/

namespace TranscriptTest.Files

/-- A snapshot of a directory. -/
structure FileTree where
  /-- Files by the names of their components, with their contents. -/
  files : List (List String × ByteArray)
  /-- Directories named explicitly, by the names of their components. -/
  dirs : List (List String) := []
  /-- Directories whose entries cannot be read. -/
  locked : List (List String) := []
  deriving Inhabited

/-- Why a file could not be read. -/
inductive ReadError where
  | notFound
  | notADirectory
  | isADirectory
  | invalidUtf8
  | permissionDenied
  deriving Inhabited, BEq

/-- The text of a read error, as the operating system words it. -/
def ReadError.message : ReadError → String
  | .notFound => "No such file or directory (os error 2)"
  | .notADirectory => "Not a directory (os error 20)"
  | .isADirectory => "Is a directory (os error 21)"
  | .invalidUtf8 => "stream did not contain valid UTF-8"
  | .permissionDenied => "Permission denied (os error 13)"

/-- The names a relative path leads to from the root, `.` and `..` taken in place; `none` for
an absolute path or one that leaves the root. -/
def resolveNames (p : String) : Option (List String) :=
  if isAbsolute p then none
  else (components p).foldl (fun acc c => acc.bind fun names =>
    match c with
    | .name n => some (names ++ [n])
    | .parent => if names.isEmpty then none else some names.dropLast
    | _ => some names) (some [])

/-- The names a path of a tree stands for. -/
def namesOf (p : String) : List String := (resolveNames p).getD [p]

/-- The names of a tree's files split into components. -/
def FileTree.ofPaths (files : List (String × ByteArray)) (dirs : List String) : FileTree :=
  { files := files.map fun (p, b) => (namesOf p, b), dirs := dirs.map namesOf }

/-- A tree whose directories `dirs` cannot be read. -/
def FileTree.lock (t : FileTree) (dirs : List String) : FileTree :=
  { t with locked := dirs.map namesOf }

/-- Whether `pre` is a proper prefix of `names`. -/
def isProperPrefix (pre names : List String) : Bool :=
  pre.length < names.length && names.take pre.length == pre

/-- Whether the names are a file of the tree. -/
def FileTree.isFile (t : FileTree) (names : List String) : Bool :=
  t.files.any (·.1 == names)

/-- Whether the names are a directory of the tree: the root, a directory named explicitly, or
one that holds a file or directory. -/
def FileTree.isDirNames (t : FileTree) (names : List String) : Bool :=
  names.isEmpty || t.dirs.any (fun d => d == names || isProperPrefix names d) ||
    t.files.any (fun f => isProperPrefix names f.1)

/-- What a path leads to in a tree. -/
inductive Entry where
  | file (names : List String)
  | dir (names : List String)
  deriving Inhabited, BEq

/-- Takes one component of a path from where the walk stands: an empty component and `.` stay,
`..` goes up and a name goes down, each only from a directory, which must be readable unless the
component is empty; a name that is neither a file nor a directory is missing. -/
def FileTree.step (t : FileTree) (at_ : Entry) (part : String) : Except ReadError Entry :=
  match at_ with
  | .file _ => .error .notADirectory
  | .dir names =>
    if part.isEmpty then .ok (.dir names)
    else if t.locked.contains names then .error .permissionDenied
    else if part == "." then .ok (.dir names)
    else if part == ".." then
      if names.isEmpty then .error .notFound else .ok (.dir names.dropLast)
    else
      let child := names ++ [part]
      if t.isFile child then .ok (.file child)
      else if t.isDirNames child then .ok (.dir child)
      else .error .notFound

/-- Walks a relative path component by component from the root, as the system resolves it: every
component but the last must be a directory, and a final separator asks for one too. An empty or
absolute path leads nowhere. -/
def FileTree.lookup (t : FileTree) (p : String) : Except ReadError Entry :=
  if p.isEmpty || isAbsolute p then .error .notFound
  else (p.splitOn "/").foldlM t.step (.dir [])

/-- Whether a path is a directory. -/
def FileTree.isDir (t : FileTree) (p : String) : Bool :=
  match t.lookup p with
  | .ok (.dir _) => true
  | _ => false

/-- Reads a file as text. -/
def FileTree.readText (t : FileTree) (p : String) : Except ReadError String :=
  match t.lookup p with
  | .error e => .error e
  | .ok (.dir _) => .error .isADirectory
  | .ok (.file names) =>
    match t.files.find? (·.1 == names) with
    | some (_, bytes) =>
      match String.fromUTF8? bytes with
      | some s => .ok s
      | none => .error .invalidUtf8
    | none => .error .notFound

/-- Whether one list of names comes before another: by the first names that differ, and a
directory before what it holds. -/
def namesBefore : List String → List String → Bool
  | [], _ => true
  | _ :: _, [] => false
  | a :: as, b :: bs => if a == b then namesBefore as bs else a < b

/-- What a walk meets: a file, or a directory that cannot be read, with the walk's error. -/
inductive WalkEntry where
  | file (path : String)
  | unreadable (path : String) (error : String)
  deriving Inhabited, BEq

/-- The files below a directory path and the directories there that cannot be read, depth first
in name order, named by joining the path and the names below it. -/
def FileTree.walk (t : FileTree) (p : String) : List WalkEntry :=
  match t.lookup p with
  | .ok (.dir dir) =>
    -- nothing below a directory that cannot be read is met
    let met (names : List String) := !t.locked.any fun l => dir.isPrefixOf l && isProperPrefix l names
    let found := ((t.files.map (·.1)).filter (isProperPrefix dir)).map (·, true) ++
      (t.locked.filter dir.isPrefixOf).map (·, false)
    let rel := ((found.filter (met ·.1)).map fun (n, f) => (n.drop dir.length, f)).mergeSort
      fun a b => namesBefore a.1 b.1
    rel.map fun (names, isFile) =>
      let path := names.foldl join p
      if isFile then .file path
      else .unreadable path ("IO error for operation on " ++ path ++ ": " ++ ReadError.permissionDenied.message)
  | _ => []

end TranscriptTest.Files
