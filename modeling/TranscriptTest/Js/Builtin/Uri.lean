import TranscriptTest.Js.Builtin.Error

/-!
# URI encoding

`encodeURIComponent` and `encodeURI` write every character outside their kept sets as the
`%XX` escapes of its UTF-8 bytes, in upper-case hexadecimal; the decoders read such escapes back,
and `decodeURI` leaves the escapes of characters that `encodeURI` keeps as they are. A `%` that
starts no escape, bytes that are no UTF-8, or a surrogate without its partner to encode,
are a `URIError`. `escape` and `unescape` are the
older pair: `%XX` below 256 and `%uXXXX` above, over UTF-16 units.
-/

namespace TranscriptTest.Js

/-- Characters no URI encoder escapes. -/
def isUriUnreserved (c : Char) : Bool :=
  c.isAlphanum || "-_.!~*'()".contains c

/-- Characters `encodeURI` keeps besides the unreserved ones. -/
def isUriReserved (c : Char) : Bool :=
  ";/?:@&=+$,#".contains c

/-- Two upper-case hexadecimal digits of a byte. -/
def hexByte (b : Nat) : String :=
  let digit (d : Nat) : Char := if d < 10 then Char.ofNat (48 + d) else Char.ofNat (55 + d)
  String.ofList [digit (b / 16 % 16), digit (b % 16)]

/-- The UTF-8 bytes of a character. -/
def utf8Bytes (c : Char) : List Nat :=
  let n := c.toNat
  if n < 0x80 then [n]
  else if n < 0x800 then [0xC0 + n / 64, 0x80 + n % 64]
  else if n < 0x10000 then [0xE0 + n / 4096, 0x80 + n / 64 % 64, 0x80 + n % 64]
  else [0xF0 + n / 262144, 0x80 + n / 4096 % 64, 0x80 + n / 64 % 64, 0x80 + n % 64]

/-- Encodes a text, keeping the characters `keep` accepts; `none` when it holds a surrogate
without its partner, which has no UTF-8 bytes. -/
def uriEncode (keep : Char → Bool) (s : String) : Option String :=
  if s.toList.any fun c => (standIn? c).isSome then none
  else some (String.join (s.toList.map fun c =>
    if keep c then String.singleton c
    else String.join ((utf8Bytes c).map fun b => "%" ++ hexByte b)))

/-- The value of a hexadecimal digit. -/
def hexDigitValue (c : Char) : Option Nat :=
  if c.isDigit then some (c.toNat - 48)
  else if 'a' <= c && c <= 'f' then some (c.toNat - 87)
  else if 'A' <= c && c <= 'F' then some (c.toNat - 55)
  else none

/-- The byte of a `%XX` escape at the front of the characters. -/
def escapedByte : List Char -> Option (Nat × List Char)
  | '%' :: a :: b :: rest => do
    let x <- hexDigitValue a
    let y <- hexDigitValue b
    pure (16 * x + y, rest)
  | _ => none

/-- Reads `n` continuation bytes, each from a `%XX` escape, into a code point begun with `acc`;
with the text the escapes took. -/
def continuationBytes : Nat -> Nat -> List Char -> List Char -> Option (Nat × List Char × List Char)
  | 0, acc, rest, taken => some (acc, rest, taken)
  | n + 1, acc, rest, taken => do
    let (b, rest') <- escapedByte rest
    if b / 64 != 2 then none
    continuationBytes n (acc * 64 + b % 64) rest' (taken ++ rest.take 3)

/-- Decodes a text; escapes of characters that `keepEscaped` accepts stay as written. -/
def uriDecode (keepEscaped : Char → Bool) (s : String) : Option String :=
  let rec go : Nat -> List Char -> List Char -> Option (List Char)
    | 0, _, acc => some acc.reverse
    | _ + 1, [], acc => some acc.reverse
    | fuel + 1, '%' :: rest, acc => do
      let (b, rest') <- escapedByte ('%' :: rest)
      let written := ('%' :: rest).take 3
      if b < 0x80 then
        let c := Char.ofNat b
        if keepEscaped c then go fuel rest' (written.reverse ++ acc) else go fuel rest' (c :: acc)
      else
        let (n, lead, least) <-
          if b / 32 == 6 then some (1, b % 32, 0x80)
          else if b / 16 == 14 then some (2, b % 16, 0x800)
          else if b / 8 == 30 then some (3, b % 8, 0x10000)
          else none
        let (cp, rest'', taken) <- continuationBytes n lead rest' []
        if cp < least || cp > 0x10FFFF || (0xD800 <= cp && cp < 0xE000) then none
        let c := Char.ofNat cp
        if keepEscaped c then go fuel rest'' ((written ++ taken).reverse ++ acc)
        else go fuel rest'' (c :: acc)
    | fuel + 1, c :: rest, acc => go fuel rest (c :: acc)
  (go (s.length + 1) s.toList []).map String.ofList

/-- Applies a decoder, or throws `URIError: URI malformed`. -/
def Host.decodeWith (h : Host) (keepEscaped : Char → Bool) (args : List Value) : Eval Value := do
  let s <- h.toStr (argAt args 0)
  match uriDecode keepEscaped s with
  | some t => pure (.str t)
  | none => raiseError .uriError "URI malformed"

/-- Applies an encoder, or throws `URIError: URI malformed`. -/
def Host.encodeWith (h : Host) (keep : Char → Bool) (args : List Value) : Eval Value := do
  match uriEncode keep (<- h.toStr (argAt args 0)) with
  | some t => pure (.str t)
  | none => raiseError .uriError "URI malformed"

/-- `encodeURIComponent`. -/
def globalEncodeURIComponent : NativeFn := fun h _ args _ => h.encodeWith isUriUnreserved args

/-- `encodeURI`. -/
def globalEncodeURI : NativeFn := fun h _ args _ =>
  h.encodeWith (fun c => isUriUnreserved c || isUriReserved c) args

/-- `decodeURIComponent`. -/
def globalDecodeURIComponent : NativeFn := fun h _ args _ => h.decodeWith (fun _ => false) args

/-- `decodeURI`. -/
def globalDecodeURI : NativeFn := fun h _ args _ => h.decodeWith isUriReserved args

/-- Characters `escape` keeps. -/
def isEscapeKept (c : Char) : Bool :=
  c.isAlphanum || "@*_+-./".contains c

/-- Four upper-case hexadecimal digits of a UTF-16 unit. -/
def hexUnit (u : Nat) : String :=
  hexByte (u / 256) ++ hexByte (u % 256)

/-- `escape`. -/
def globalEscape : NativeFn := fun h _ args _ => do
  let s <- h.toStr (argAt args 0)
  pure (.str (String.join ((unitList s).map fun u =>
    if u < 128 && isEscapeKept (Char.ofNat u) then String.singleton (Char.ofNat u)
    else if u < 256 then "%" ++ hexByte u
    else "%u" ++ hexUnit u)))

/-- The unit of a `%uXXXX` or `%XX` escape at the front of the characters. -/
def escapedUnit : List Char -> Option (Nat × List Char)
  | '%' :: 'u' :: a :: b :: c :: d :: rest => do
    let ds <- [a, b, c, d].mapM hexDigitValue
    pure (ds.foldl (fun n x => 16 * n + x) 0, rest)
  | cs => escapedByte cs

/-- `unescape`. -/
def globalUnescape : NativeFn := fun h _ args _ => do
  let s <- h.toStr (argAt args 0)
  let rec go : Nat -> List Char -> List Nat -> List Nat
    | 0, _, acc => acc.reverse
    | _ + 1, [], acc => acc.reverse
    | fuel + 1, c :: rest, acc =>
      match escapedUnit (c :: rest) with
      | some (u, rest') => go fuel rest' (u :: acc)
      | none => go fuel rest ((unitList (String.singleton c)).reverse ++ acc)
  pure (.str (ofUnits (go (s.length + 1) s.toList [])))

end TranscriptTest.Js
