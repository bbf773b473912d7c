/-!
# Text seen as bytes

Some programs treat text as bytes: a character beyond ASCII is the bytes of its UTF-8 form to
them. A byte text keeps that view inside a string: an ASCII character stands for itself, and
each byte from `0x80` on for a character of its own at the top of the last plane,
`U+10FF00` plus the byte. Lengths then count bytes, patterns match bytes, and an escape may
write any byte. Read back, the bytes must form UTF-8 again.
-/

namespace TranscriptTest.Text

/-- The character standing for byte zero; bytes from `0x80` on are this plus the byte. -/
def byteBase : Nat := 0x10FF00

/-- The character that stands for a byte (taken modulo 256). -/
def byteChar (b : Nat) : Char :=
  let b := b % 256
  if b < 0x80 then Char.ofNat b else Char.ofNat (byteBase + b)

/-- The bytes a character of a byte text stands for: one byte for an ASCII character or a
byte character, the UTF-8 form of any other character. -/
def charBytes (c : Char) : List UInt8 :=
  if c.toNat < 0x80 then [c.toNat.toUInt8]
  else if byteBase + 0x80 <= c.toNat then [(c.toNat - byteBase).toUInt8]
  else c.toString.toUTF8.toList

/-- The byte a character of a byte text starts with. -/
def charByte (c : Char) : Nat :=
  ((charBytes c).headD 0).toNat

/-- A text as a byte text. -/
def toByteText (s : String) : String :=
  String.ofList (s.toList.flatMap fun c =>
    if c.toNat < 0x80 then [c] else c.toString.toUTF8.toList.map fun b => byteChar b.toNat)

/-- The bytes of a byte text. -/
def byteTextBytes (s : String) : ByteArray :=
  ⟨(s.toList.flatMap charBytes).toArray⟩

/-- A byte text read back as text; `none` when its bytes are not UTF-8. -/
def fromByteText (s : String) : Option String :=
  String.fromUTF8? (byteTextBytes s)

/-- An ASCII text is its own byte text. -/
theorem toByteText_ascii (s : String) (h : ∀ c ∈ s.toList, c.toNat < 0x80) :
    toByteText s = s := by
  unfold toByteText
  suffices hs : ∀ cs : List Char, (∀ c ∈ cs, c.toNat < 0x80) ->
      cs.flatMap (fun c => if c.toNat < 0x80 then [c]
        else c.toString.toUTF8.toList.map fun b => byteChar b.toNat) = cs by
    rw [hs s.toList h, String.ofList_toList]
  intro cs hcs
  induction cs with
  | nil => rfl
  | cons c cs ih =>
    rw [List.flatMap_cons, if_pos (hcs c List.mem_cons_self),
      ih (fun d hd => hcs d (List.mem_cons_of_mem c hd))]
    rfl

end TranscriptTest.Text
