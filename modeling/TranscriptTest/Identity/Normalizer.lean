import TranscriptTest.Pattern.Search
import TranscriptTest.Config.Error

/-!
# Identity hashes

Interpreters print opaque objects as `qualified.Name@1a2b3c`, where the hexadecimal part changes
from run to run. A normalizer finds these with a pattern that has a group named `hash` and
replaces only that group's text by a placeholder; all other text is kept as it is.
-/

namespace TranscriptTest.Identity

open TranscriptTest.Pattern TranscriptTest.Config

/-- The pattern of an identity: a dotted name, `@`, and hexadecimal digits ending a word. -/
def defaultPattern : String :=
  "[A-Za-z_$][\\w$]*(?:\\.[A-Za-z_$][\\w$]*)*@(?P<hash>[0-9a-fA-F]+)\\b"

/-- The text that stands for a hash after normalizing. -/
def defaultPlaceholder : String := "<hash>"

/-- Finds identity hashes and masks them. -/
structure Normalizer where
  regex : Regex
  /-- Index of the group named `hash`. -/
  hashGroup : Nat
  placeholder : String
  /-- Whether each expected hash must stand for one actual hash throughout a session. -/
  consistent : Bool := false

instance : Inhabited Normalizer :=
  ⟨⟨⟨⟨#[.accept], 0⟩, 1, []⟩, 0, defaultPlaceholder, false⟩⟩

/-- A normalizer for a pattern, which must compile and have a group named `hash`. -/
def Normalizer.new (pattern placeholder : String) : Except ConfigError Normalizer :=
  match Regex.compile pattern with
  | .error e => .error (.badPattern e)
  | .ok r =>
    match r.groupIndex? "hash" with
    | some i => .ok ⟨r, i, placeholder, false⟩
    | none => .error .missingHashGroup

/-- The normalizer of the default pattern and placeholder. -/
def Normalizer.standard : Normalizer :=
  match Normalizer.new defaultPattern defaultPlaceholder with
  | .ok n => n
  | .error _ => default

/-- Turns consistent-identity mode on or off. -/
def Normalizer.withConsistent (n : Normalizer) (on : Bool) : Normalizer :=
  { n with consistent := on }

/-- The spans of the `hash` group in every match where it took part, in order. -/
def Normalizer.hashSpans (n : Normalizer) (cs : Array Char) : List (Nat × Nat) :=
  (n.regex.findAll cs).filterMap (·.group n.hashGroup)

/-- The characters between two positions. -/
def slice (cs : Array Char) (s e : Nat) : String :=
  String.ofList (cs.extract s e).toList

/-- Replaces the given spans, in increasing order, by the placeholder. -/
def replaceSpans (cs : Array Char) (placeholder : String) : Nat → List (Nat × Nat) → String
  | last, [] => slice cs last cs.size
  | last, (s, e) :: rest => slice cs last s ++ placeholder ++ replaceSpans cs placeholder e rest

/-- A text handed back as it came in, or one built anew. -/
inductive Cow where
  | borrowed (s : String)
  | owned (s : String)

/-- The text, however it was made. -/
def Cow.text : Cow → String
  | .borrowed s | .owned s => s

/-- The text with each hash replaced by the placeholder; the text itself, borrowed, when no
hash took part in a match. -/
def Normalizer.normalizeCow (n : Normalizer) (text : String) : Cow :=
  let cs := text.toList.toArray
  match n.hashSpans cs with
  | [] => .borrowed text
  | spans => .owned (replaceSpans cs n.placeholder 0 spans)

/-- The text with each hash replaced by the placeholder. -/
def Normalizer.normalize (n : Normalizer) (text : String) : String :=
  (n.normalizeCow text).text

/-- The hashes of a text, in order. -/
def Normalizer.hashes (n : Normalizer) (text : String) : List String :=
  let cs := text.toList.toArray
  (n.hashSpans cs).map fun (s, e) => slice cs s e

end TranscriptTest.Identity
