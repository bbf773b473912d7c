import TranscriptTest.Yaml.Reader

/-!
# Configuration files

A configuration file is a YAML mapping with the sections `Interpreter` (`Command`, `Args`,
`Timeout`), `Prompts` (`Primary`, `Continuation`) and `Identity` (`Pattern`, `Placeholder`,
`Consistent`), and the values `Prologue`, `Extensions` (one or a list) and `Group`. Top-level
names may also be written in lower case; names inside sections may not. Unknown names are
ignored; a name given twice, or a value of the wrong kind, makes the file invalid. A null value
is the same as a missing one, and an empty file is an empty configuration.
-/

namespace TranscriptTest.Config

open TranscriptTest.Yaml

/-- Why a text is not a configuration file. -/
inductive FileError where
  /-- The text is not YAML this reader accepts. -/
  | malformed (e : YamlError)
  /-- A value has the wrong kind; the name of what was expected. -/
  | invalidType (expected : String)
  /-- A name appears twice in one mapping. -/
  | duplicateField (name : String)
  deriving Inhabited, BEq

/-- The interpreter section. -/
structure InterpreterSection where
  command : Option String := none
  args : Option (List String) := none
  /-- Seconds per statement. -/
  timeout : Option Nat := none
  deriving Inhabited, BEq

/-- The prompts section. -/
structure PromptSection where
  primary : Option String := none
  continuation : Option String := none
  deriving Inhabited, BEq

/-- The identity section. -/
structure IdentitySection where
  pattern : Option String := none
  placeholder : Option String := none
  consistent : Option Bool := none
  deriving Inhabited, BEq

/-- A configuration file's contents. -/
structure ConfigFile where
  interpreter : Option InterpreterSection := none
  prompts : Option PromptSection := none
  identity : Option IdentitySection := none
  prologue : Option String := none
  extensions : Option (List String) := none
  group : Option String := none
  deriving Inhabited, BEq

/-- Decoding a node. -/
abbrev Decode := Except FileError

/-- A string: any scalar, as written, whatever its tag. -/
def stringOf : Node → Decode String
  | .scalar s => pure s.text
  | _ => throw (.invalidType "a string")

/-- A value that may be null: absent for a null node, refused when the null tag refuses its
text. -/
def optional (f : Node → Decode α) (n : Node) : Decode (Option α) :=
  match n.presence with
  | some false => pure none
  | some true => some <$> f n
  | none => throw (.invalidType "null")

/-- A whole number of seconds: a plain scalar holding an integer below 2^64, whatever its tag;
a quoted one is refused even with the integer tag. -/
def secondsOf : Node → Decode Nat
  | .scalar s =>
    if s.style != .plain then throw (.invalidType "u64")
    else match unsignedText? s.text.toList with
      | some n => if n < Nat.pow 2 64 then pure n else throw (.invalidType "u64")
      | none => throw (.invalidType "u64")
  | _ => throw (.invalidType "u64")

/-- A boolean: a plain scalar spelling `true` or `false`, whatever its tag. -/
def flagOf : Node → Decode Bool
  | .scalar s =>
    if s.style != .plain then throw (.invalidType "a boolean")
    else match boolText? s.text with
      | some b => pure b
      | none => throw (.invalidType "a boolean")
  | _ => throw (.invalidType "a boolean")

/-- A list of strings; the empty plain scalar is the empty list. -/
def stringsOf : Node → Decode (List String)
  | .seq items _ => items.mapM stringOf
  | n => if n.isEmptyPlain then pure [] else throw (.invalidType "a sequence")

/-- A string that resolves as one: a quoted scalar, or a plain one that is not null, a boolean
or a number; a local tag is refused. -/
def textValueOf : Node → Decode String
  | .scalar s =>
    match s.tag, s.resolve with
    | some t, _ => if isLocalTag t then throw (.invalidType "untagged enum OneOrMany")
      else match s.resolve with
        | .str t => pure t
        | _ => throw (.invalidType "untagged enum OneOrMany")
    | none, .str t => pure t
    | none, _ => throw (.invalidType "untagged enum OneOrMany")
  | _ => throw (.invalidType "untagged enum OneOrMany")

/-- One string or a list of strings; a local tag on the list is refused. -/
def oneOrManyOf : Node → Decode (List String)
  | .seq items tag =>
    if tag.any isLocalTag then throw (.invalidType "untagged enum OneOrMany")
    else items.mapM textValueOf
  | n => (fun t => [t]) <$> textValueOf n

/-- The name a mapping key gives a field: the text of a scalar. -/
def keyName : Node → Decode String
  | .scalar s => pure s.text
  | _ => throw (.invalidType "a field identifier")

/-- Decodes a mapping into a record: `names` lists each field's accepted names, `set` stores
the value of field `i`. A field named twice is refused when its second name is read; values
are decoded in document order. The empty plain scalar is an empty mapping. -/
def fieldsOf (what : String) (names : List (List String)) (init : σ)
    (set : Nat → Node → σ → Decode σ) : Node → Decode σ
  | .map entries _ => do
    let step (acc : List Nat × σ) (entry : Node × Node) : Decode (List Nat × σ) := do
      let name ← keyName entry.1
      match names.findIdx? (·.contains name) with
      | some i =>
        if acc.1.contains i then throw (.duplicateField ((names.getD i []).headD ""))
        else do
          let st ← set i entry.2 acc.2
          pure (i :: acc.1, st)
      | none => pure acc
    let (_, st) ← entries.foldlM step ([], init)
    pure st
  | n => if n.isEmptyPlain then pure init else throw (.invalidType what)

/-- The interpreter section. -/
def interpreterOf : Node → Decode InterpreterSection :=
  fieldsOf "struct InterpreterCfg" [["Command"], ["Args"], ["Timeout"]] {} fun i v s =>
    match i with
    | 0 => do pure { s with command := ← optional stringOf v }
    | 1 => do pure { s with args := ← optional stringsOf v }
    | _ => do pure { s with timeout := ← optional secondsOf v }

/-- The prompts section. -/
def promptsOf : Node → Decode PromptSection :=
  fieldsOf "struct PromptsCfg" [["Primary"], ["Continuation"]] {} fun i v s =>
    match i with
    | 0 => do pure { s with primary := ← optional stringOf v }
    | _ => do pure { s with continuation := ← optional stringOf v }

/-- The identity section. -/
def identityOf : Node → Decode IdentitySection :=
  fieldsOf "struct IdentityCfg" [["Pattern"], ["Placeholder"], ["Consistent"]] {} fun i v s =>
    match i with
    | 0 => do pure { s with pattern := ← optional stringOf v }
    | 1 => do pure { s with placeholder := ← optional stringOf v }
    | _ => do pure { s with consistent := ← optional flagOf v }

/-- A whole configuration file. -/
def configOf : Node → Decode ConfigFile :=
  fieldsOf "struct RawConfig"
    [["Interpreter", "interpreter"], ["Prompts", "prompts"], ["Identity", "identity"],
      ["Prologue", "prologue"], ["Extensions", "extensions"], ["Group", "group"]] {} fun i v c =>
    match i with
    | 0 => do pure { c with interpreter := ← optional interpreterOf v }
    | 1 => do pure { c with prompts := ← optional promptsOf v }
    | 2 => do pure { c with identity := ← optional identityOf v }
    | 3 => do pure { c with prologue := ← optional stringOf v }
    | 4 => do pure { c with extensions := ← optional oneOrManyOf v }
    | _ => do pure { c with group := ← optional stringOf v }

/-- Reads a configuration file's text. -/
def ConfigFile.read (text : String) : Except FileError ConfigFile :=
  match readDocument text with
  | .error e => .error (.malformed e)
  | .ok none => .ok {}
  | .ok (some node) => configOf node

end TranscriptTest.Config
