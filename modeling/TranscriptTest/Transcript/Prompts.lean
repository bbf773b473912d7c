import TranscriptTest.Config.Error

/-!
# Prompts

A transcript marks the first line of each statement with the primary prompt (`js>`) and the
lines that continue it with the continuation prompt (`  >`). A primary prompt alone gets a
continuation prompt of the same width: spaces, then `>`.
-/

namespace TranscriptTest.Transcript

open TranscriptTest.Config

/-- The two prompt markers of a transcript. -/
structure Prompts where
  primary : String
  continuation : String
  deriving Inhabited, BEq

/-- `js>` and `  >`. -/
def Prompts.standard : Prompts := ⟨"js>", "  >"⟩

/-- A primary prompt with a continuation prompt of the same width. -/
def Prompts.new (primary : String) : Except ConfigError Prompts :=
  if primary.isEmpty then .error .emptyPrompt
  else .ok ⟨primary, String.ofList (List.replicate (primary.length - 1) ' ') ++ ">"⟩

/-- Both prompts given; neither may be empty. -/
def Prompts.withContinuation (primary continuation : String) : Except ConfigError Prompts :=
  if primary.isEmpty || continuation.isEmpty then .error .emptyPrompt
  else .ok ⟨primary, continuation⟩

end TranscriptTest.Transcript
