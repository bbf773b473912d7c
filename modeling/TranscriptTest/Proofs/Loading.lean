import TranscriptTest.Files.Load

/-!
# Where loading puts each file

Collecting loops over the paths and each directory's walk, and loading over the collected files;
both are read here as what each path, walk entry and file contributes, in order
(`loadSessions_partitions`).
-/

namespace TranscriptTest.Files

open TranscriptTest.Transcript TranscriptTest.Verdict

/-- The file an entry of a walk contributes: a file with one of the extensions. -/
def WalkEntry.wanted (extensions : List String) : WalkEntry → Option String
  | .file f => if hasExtension extensions f then some f else none
  | .unreadable _ _ => none

/-- The failure an entry of a walk contributes: a directory that cannot be read. -/
def WalkEntry.failure? : WalkEntry → Option LoadFailure
  | .file _ => none
  | .unreadable f e => some ⟨f, cannotRead f e⟩

/-- The files a path contributes: itself when it is not a directory, else the files of its walk
with one of the extensions. -/
def filesFrom (t : FileTree) (extensions : List String) (d : String) : List String :=
  if t.isDir d then (t.walk d).filterMap (WalkEntry.wanted extensions) else [d]

/-- The failures a path contributes: those of its walk when it is a directory. -/
def failuresFrom (t : FileTree) (d : String) : List LoadFailure :=
  if t.isDir d then (t.walk d).filterMap WalkEntry.failure? else []

/-- The session a file gives: it reads as text and parses, tagged with its name and line 1. -/
def sessionOf (t : FileTree) (p : Prompts) (file : String) : Option Session :=
  match t.readText file with
  | .ok text => (parse text p ⟨file, 1⟩).toOption
  | .error _ => none

/-- The failure a file gives: it cannot be read, or it holds no statement and such files are
not set aside. -/
def failureOf (t : FileTree) (p : Prompts) (skipEmpty : Bool) (file : String) : Option LoadFailure :=
  match t.readText file with
  | .error e => some ⟨file, cannotRead file e.message⟩
  | .ok text =>
    match parse text p ⟨file, 1⟩ with
    | .ok _ => none
    | .error e => if skipEmpty then none else some ⟨file, e.message⟩

/-- Whether a file is set aside: such files are, and it reads as text but holds no statement. -/
def setAside (t : FileTree) (p : Prompts) (skipEmpty : Bool) (file : String) : Bool :=
  skipEmpty && match t.readText file with
    | .ok text => !(parse text p ⟨file, 1⟩).isOk
    | .error _ => false

section Collect

variable (extensions : List String)

theorem collectEntry_eq (acc : List String × List LoadFailure) (e : WalkEntry) :
    collectEntry extensions acc e =
      (acc.1 ++ (e.wanted extensions).toList, acc.2 ++ e.failure?.toList) := by
  cases e with
  | file f =>
    by_cases h : hasExtension extensions f <;> simp [collectEntry, WalkEntry.wanted, WalkEntry.failure?, h]
  | unreadable f e => simp [collectEntry, WalkEntry.wanted, WalkEntry.failure?]

/-- The inner loop: a walk adds its wanted files and its failures, each in walk order. -/
theorem foldl_collectEntry (es : List WalkEntry) (acc : List String × List LoadFailure) :
    es.foldl (collectEntry extensions) acc =
      (acc.1 ++ es.filterMap (WalkEntry.wanted extensions), acc.2 ++ es.filterMap WalkEntry.failure?) := by
  induction es generalizing acc with
  | nil => simp
  | cons e es ih =>
    rw [List.foldl_cons, ih, collectEntry_eq]
    cases hw : e.wanted extensions <;> cases hf : e.failure? <;> simp [hw, hf]

/-- The outer loop: each path adds what it contributes, path after path. -/
theorem foldl_collectPath (t : FileTree) (paths : List String) (acc : List String × List LoadFailure) :
    paths.foldl (collectPath t extensions) acc =
      (acc.1 ++ paths.flatMap (filesFrom t extensions), acc.2 ++ paths.flatMap (failuresFrom t)) := by
  induction paths generalizing acc with
  | nil => simp
  | cons d paths ih =>
    rw [List.foldl_cons, ih]
    by_cases hd : t.isDir d <;> simp [collectPath, hd, foldl_collectEntry, filesFrom, failuresFrom]

end Collect

section Load

variable (t : FileTree) (p : Prompts) (skipEmpty : Bool)

/-- One file goes to the list its reading and parsing pick. -/
theorem loadFile_eq (acc : Loaded) (file : String) :
    loadFile t p skipEmpty acc file =
      { sessions := acc.sessions ++ (sessionOf t p file).toList
        failures := acc.failures ++ (failureOf t p skipEmpty file).toList
        skipped := acc.skipped ++ if setAside t p skipEmpty file then [file] else [] } := by
  unfold loadFile sessionOf failureOf setAside
  cases t.readText file with
  | error e => simp
  | ok text =>
    cases hp : parse text p ⟨file, 1⟩ with
    | ok s => simp [hp, Except.toOption, Except.isOk, Except.toBool]
    | error e => cases skipEmpty <;> simp [hp, Except.toOption, Except.isOk, Except.toBool]

/-- The loop over the files keeps, within each list, the order of the files. -/
theorem foldl_loadFile (files : List String) (acc : Loaded) :
    files.foldl (loadFile t p skipEmpty) acc =
      { sessions := acc.sessions ++ files.filterMap (sessionOf t p)
        failures := acc.failures ++ files.filterMap (failureOf t p skipEmpty)
        skipped := acc.skipped ++ files.filter (setAside t p skipEmpty) } := by
  induction files generalizing acc with
  | nil => simp
  | cons f files ih =>
    rw [List.foldl_cons, ih, loadFile_eq]
    cases hs : sessionOf t p f <;> cases hf : failureOf t p skipEmpty f <;>
      cases ha : setAside t p skipEmpty f <;> simp [hs, hf, ha]

/-- Every file has one place: its session, its failure, or set aside. -/
theorem placed_once (file : String) :
    (sessionOf t p file).isSome.toNat + (failureOf t p skipEmpty file).isSome.toNat +
      (setAside t p skipEmpty file).toNat = 1 := by
  unfold sessionOf failureOf setAside
  cases t.readText file with
  | error e => simp
  | ok text =>
    cases hp : parse text p ⟨file, 1⟩ with
    | ok s => simp [hp, Except.toOption, Except.isOk, Except.toBool]
    | error e => cases skipEmpty <;> simp [hp, Except.toOption, Except.isOk, Except.toBool]

end Load

/-- Loading partitions the collected files: each lands in exactly one of the sessions, the
failures (after those of the walks) and the files set aside, in collected order. -/
theorem loadSessions_partitions (t : FileTree) (paths extensions : List String) (p : Prompts)
    (skipEmpty : Bool) :
    let found := collectFiles t paths extensions
    let l := loadSessions t paths extensions p skipEmpty
    found = (paths.flatMap (filesFrom t extensions), paths.flatMap (failuresFrom t)) ∧
      l.sessions = found.1.filterMap (sessionOf t p) ∧
      l.failures = found.2 ++ found.1.filterMap (failureOf t p skipEmpty) ∧
      l.skipped = found.1.filter (setAside t p skipEmpty) ∧
      (∀ file, (sessionOf t p file).isSome.toNat + (failureOf t p skipEmpty file).isSome.toNat +
        (setAside t p skipEmpty file).toNat = 1) ∧
      (skipEmpty = false → l.skipped = []) := by
  intro found l
  have hl : l = { sessions := found.1.filterMap (sessionOf t p)
                  failures := found.2 ++ found.1.filterMap (failureOf t p skipEmpty)
                  skipped := found.1.filter (setAside t p skipEmpty) } :=
    (foldl_loadFile t p skipEmpty found.1 { failures := found.2 }).trans (by simp)
  refine ⟨(foldl_collectPath extensions t paths ([], [])).trans (by simp), by rw [hl], by rw [hl], by rw [hl],
    placed_once t p skipEmpty, ?_⟩
  rintro rfl
  simp [hl, setAside]

end TranscriptTest.Files
