import TranscriptTest.Wire.JsonText
import TranscriptTest.Wire.Reader
import TranscriptTest.Replay.Failure
import TranscriptTest.Text.Lines

/-!
# The interpreter protocol

The interpreter reads one request per line, `{"op":"eval","source":…}` or `{"op":"reset"}`, and
answers each with one reply line, a JSON object with an optional `output` string (empty when
absent) and an optional `error` string or `null`. Unknown members are ignored; a reply given as
an array lists the two members in order. A reply with an error is a thrown failure.
-/

namespace TranscriptTest.Wire

open TranscriptTest.Replay TranscriptTest.Text

/-- What is sent to the interpreter. -/
inductive Request where
  | eval (source : String)
  | reset

/-- The request line, ended by a line feed. -/
def Request.encode : Request → String
  | .eval source => "\x7b\"op\":\"eval\",\"source\":" ++ quote source ++ "\x7d\n"
  | .reset => "\x7b\"op\":\"reset\"\x7d\n"

/-- One reply. -/
structure Reply where
  output : String := ""
  error : Option String := none
  deriving Inhabited, BEq

/-- Output, or the thrown error. -/
def Reply.toEvaluation (r : Reply) : Evaluation :=
  match r.error with
  | some message => .error (.thrown message)
  | none => .ok r.output

/-- The members of a reply object after its `{`. -/
def replyMembers : Reader Reply := do
  let bs ← read
  let rec go : Nat → Bool → Option String → Option (Option String) → Reader Reply
    | 0, _, out, err => pure ⟨out.getD "", err.getD none⟩
    | k + 1, first, out, err => do
      let ahead ← match ← skipBlanks with
        | some 125 => return ⟨out.getD "", err.getD none⟩
        | some 44 => if first then pure (some 44) else do eat; skipBlanks
        | some b => if first then pure (some b) else failAhead expectedObjectEnd
        | none => failAhead eofObject
      match ahead with
      | some 34 => do
        eat
        let key ← stringBody
        if key == "output" then do
          if out.isSome then throw ⟨"duplicate field `output`", none⟩
          colon
          let v ← stringValue
          go k false (some v) err
        else if key == "error" then do
          if err.isSome then throw ⟨"duplicate field `error`", none⟩
          colon
          let v ← optionalString
          go k false out (some v)
        else do
          colon
          skipValue ((← read).size + 1)
          go k false out err
      | some 125 => failAhead trailingComma
      | some _ => failAhead keyNotString
      | none => failAhead eofValue
  go (bs.size + 1) true none none
where
  colon : Reader Unit := do
    match ← skipBlanks with
    | some 58 => eat
    | some _ => failAhead expectedColon
    | none => failAhead eofObject

/-- The end of an object: `}`. -/
def objectEnd : Reader Unit := do
  match ← skipBlanks with
  | some 125 => eat
  | some 44 => failAhead trailingComma
  | some _ => failAhead trailingCharacters
  | none => failAhead eofObject

/-- The items of a reply array after its `[`: output, then error. -/
def replyItems : Reader Reply := do
  let first ← item true
  let output ← match first with
    | some _ => stringValue
    | none => pure ""
  let second ← if first.isSome then item false else pure none
  let error ← match second with
    | some _ => optionalString
    | none => pure none
  pure ⟨output, error⟩
where
  /-- Whether another item follows; `some ()` when it does. -/
  item (first : Bool) : Reader (Option Unit) := do
    match ← skipBlanks with
    | some 93 => pure none
    | some 44 =>
      if first then failAhead "expected value"
      else do
        eat
        match ← skipBlanks with
        | some 93 => failAhead trailingComma
        | none => failAhead eofValue
        | _ => pure (some ())
    | some _ => if first then pure (some ()) else failAhead expectedListEnd
    | none => failAhead eofList

/-- The end of an array: `]`. -/
def arrayEnd : Reader Unit := do
  match ← skipBlanks with
  | some 93 => eat
  | some 44 => do
    eat
    match ← skipBlanks with
    | some 93 => failAhead trailingComma
    | _ => failAhead trailingCharacters
  | some _ => failAhead trailingCharacters
  | none => failAhead eofList

/-- Reads a whole reply: one value, then nothing but blanks. -/
def replyText : Reader Reply := do
  let value ← match ← skipBlanks with
    | none => failAhead eofValue
    | some 123 => do
      eat
      let r ← attempt replyMembers
      let e ← attempt objectEnd
      finish r e
    | some 91 => do
      eat
      let r ← attempt replyItems
      let e ← attempt arrayEnd
      finish r e
    | some _ => invalidType "struct Reply"
  match ← skipBlanks with
  | some _ => failAhead trailingCharacters
  | none => pure value
where
  finish (r : Except ReadError Reply) (e : Except ReadError Unit) : Reader Reply := do
    match r, e with
    | .ok v, .ok () => pure v
    | .error err, _ => throw (← placed err)
    | .ok _, .error err => throw (← placed err)

/-- Decodes a reply line (trailing White_Space dropped); the error names the line. -/
def Reply.decode (line : String) : Except String Reply :=
  let text := trimEnd line
  match ((replyText.run text.toUTF8).run).run 0 with
  | (.ok r, _) => .ok r
  | (.error e, _) => .error (e.render ++ ": " ++ text)

/-- A reply line as an evaluation: a line that cannot be decoded is a protocol failure. -/
def replyEvaluation (line : String) : Evaluation :=
  match Reply.decode line with
  | .ok r => r.toEvaluation
  | .error detail => .error (.protocol detail)

end TranscriptTest.Wire
