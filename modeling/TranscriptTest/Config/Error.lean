import TranscriptTest.Pattern.Syntax

/-!
# Configuration errors

What can be wrong with prompts or with an identity pattern.
-/

namespace TranscriptTest.Config

open TranscriptTest.Pattern

/-- Why prompts or an identity pattern cannot be used. -/
inductive ConfigError where
  /-- The identity pattern is not a valid pattern. -/
  | badPattern (e : PatternError)
  /-- The identity pattern has no group named `hash`. -/
  | missingHashGroup
  /-- A prompt is empty. -/
  | emptyPrompt
  deriving Inhabited

/-- The text of a configuration error. -/
def ConfigError.message : ConfigError → String
  | .badPattern _ => "identity pattern is not a valid regex"
  | .missingHashGroup => "identity pattern must contain a named group `hash`"
  | .emptyPrompt => "prompt must not be empty"

end TranscriptTest.Config
