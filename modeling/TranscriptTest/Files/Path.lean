/-!
# Paths

Paths are texts of components divided by `/`. A leading `/` makes a path absolute; empty
components and `.` components after the first are not counted; `..` is a parent step. The last
component that is a name gives the file name; its stem and extension are divided by its last
`.`, unless that dot opens the name.
-/

namespace TranscriptTest.Files

/-- One component of a path. -/
inductive Component where
  | root
  | current
  | parent
  | name (text : String)
  deriving Inhabited, BEq

/-- Whether a path starts at the root. -/
def isAbsolute (p : String) : Bool := p.startsWith "/"

/-- The components of a path. -/
def components (p : String) : List Component :=
  let parts := p.splitOn "/"
  let lead : List Component := if isAbsolute p then [.root] else []
  let first := match parts with
    | "." :: _ :: _ => if isAbsolute p then [] else [Component.current]
    | ["."] => [Component.current]
    | _ => []
  let body := parts.filterMap fun s =>
    if s.isEmpty || s == "." then none
    else if s == ".." then some Component.parent
    else some (Component.name s)
  lead ++ first ++ body

/-- A path without its trailing separators, a root kept. -/
def trimSeparators (p : String) : String :=
  let cs := p.toList.reverse.dropWhile (· == '/')
  if cs.isEmpty && isAbsolute p then "/" else String.ofList cs.reverse

/-- The path without its last component; `none` for a root or an empty path. -/
def parent? (p : String) : Option String :=
  match (components p).getLast? with
  | none | some .root => none
  | some _ =>
    let t := trimSeparators p
    let t := if t.endsWith "/." then trimSeparators (String.ofList (t.toList.dropLast)) else t
    let before := (t.toList.reverse.dropWhile (· != '/')).reverse
    if before.isEmpty then some ""
    else some (trimSeparators (String.ofList before))

/-- `p` below `base`; an absolute `p` stands alone. -/
def join (base p : String) : String :=
  if isAbsolute p || base.isEmpty then p
  else if base.endsWith "/" then base ++ p
  else base ++ "/" ++ p

/-- The last component if it is a name. -/
def fileName? (p : String) : Option String :=
  match (components p).getLast? with
  | some (.name n) => some n
  | _ => none

/-- The file name up to its last dot, unless the dot opens it. -/
def fileStem? (p : String) : Option String :=
  (fileName? p).map fun n =>
    match (n.toList.reverse.span (· != '.')) with
    | (_, []) => n
    | (_, [_]) => n
    | (_, _ :: before) => String.ofList before.reverse

/-- The file name after its last dot, unless the dot opens it. -/
def extension? (p : String) : Option String :=
  (fileName? p).bind fun n =>
    match (n.toList.reverse.span (· != '.')) with
    | (_, []) => none
    | (_, [_]) => none
    | (after, _ :: _) => some (String.ofList after.reverse)

end TranscriptTest.Files
