/-!
# Code-point range tables

A Unicode property is stored as sorted, disjoint, inclusive ranges of code points. The tables
are written in a compact range code (see `RangeTable.ofCode`), read once, and searched by
bisection.
-/

namespace TranscriptTest.Unicode

/-- A set of code points given as sorted, disjoint, inclusive ranges. -/
structure RangeTable where
  ranges : Array (Nat × Nat)
  deriving Inhabited

namespace RangeTable

/-- Value of one hexadecimal digit (either case). -/
def hexValue? (c : Char) : Option Nat :=
  if '0' <= c ∧ c <= '9' then some (c.toNat - '0'.toNat)
  else if 'A' <= c ∧ c <= 'F' then some (c.toNat - 'A'.toNat + 10)
  else if 'a' <= c ∧ c <= 'f' then some (c.toNat - 'a'.toNat + 10)
  else none

/-- A character of the range code: its value and whether it ends a number. -/
def codeDigit? (c : Char) : Option (Nat × Bool) :=
  if '0' <= c ∧ c <= '9' then some (c.toNat - '0'.toNat, true)
  else if 'A' <= c ∧ c <= 'V' then some (c.toNat - 'A'.toNat + 10, true)
  else if 'a' <= c ∧ c <= 'z' then some (c.toNat - 'a'.toNat, false)
  else if 'W' <= c ∧ c <= 'Z' then some (c.toNat - 'W'.toNat + 26, false)
  else if c = '+' then some (30, false)
  else if c = '/' then some (31, false)
  else none

/-- The numbers of a range code, in order: each is written in base 32, most significant digit
first, and its last digit is one that ends a number. -/
def codeNumbers (s : String) : Array Nat :=
  (s.toList.foldl (fun (acc, out) c =>
    match codeDigit? c with
    | some (d, true) => (0, out.push (32 * acc + d))
    | some (d, false) => (32 * acc + d, out)
    | none => (acc, out)) ((0 : Nat), (#[] : Array Nat))).2

/-- Reads one number of the range code from the front of `cs`, after the digits `acc` already
read: the number and what follows it. -/
def readCodeNumber : List Char -> Nat -> Nat × List Char
  | c :: cs, acc =>
    match codeDigit? c with
    | some (d, true) => (32 * acc + d, cs)
    | some (d, false) => readCodeNumber cs (32 * acc + d)
    | none => (acc, c :: cs)
  | [], acc => (acc, [])

/-- Expands back-references: `*` and two numbers `d` and `n` stand for `n` characters, each the
one `d` places before it, so a reference may overlap what it writes. -/
def unpack (s : String) : String :=
  match s.splitOn "*" with
  | [] => ""
  | first :: refs =>
    let out := refs.foldl (fun out ref =>
      let (d, rest) := readCodeNumber ref.toList 0
      let (n, rest) := readCodeNumber rest 0
      (List.range n).foldl (fun out _ => out.push (out.getD (out.size - d) ' ')) out ++ rest.toArray)
      first.toList.toArray
    String.ofList out.toList

/-- Reads a table from its range code. -/
def ofCode (s : String) : RangeTable :=
  let nums := codeNumbers s
  let (_, ranges) := (List.range (nums.size / 2)).foldl (fun (next, out) i =>
    let lo := next + nums.getD (2 * i) 0
    let hi := lo + nums.getD (2 * i + 1) 0
    (hi + 1, out.push (lo, hi))) ((0 : Nat), (#[] : Array (Nat × Nat)))
  ⟨ranges⟩

/-- Reads a table from its range code with back-references (see `unpack`). -/
def ofPacked (s : String) : RangeTable :=
  ofCode (unpack s)

/-- Whether the code point lies in one of the ranges. -/
def containsNat (t : RangeTable) (c : Nat) : Bool :=
  go 0 t.ranges.size
where
  go (lo hi : Nat) : Bool :=
    if lo < hi then
      let mid := (lo + hi) / 2
      match t.ranges[mid]? with
      | some (a, b) => if c < a then go lo mid else if b < c then go (mid + 1) hi else true
      | none => false
    else false
  termination_by hi - lo

/-- Whether the character lies in the table. -/
def contains (t : RangeTable) (c : Char) : Bool :=
  t.containsNat c.toNat

end RangeTable

/-- A signed difference in the table code: an even number goes up by its half, an odd one down
by its half rounded up. -/
def signedOfCode (n : Nat) : Int :=
  if n % 2 == 0 then ((n / 2 : Nat) : Int) else -(((n + 1) / 2 : Nat) : Int)

/-- Reads a mapping table from its code. -/
def mappingsOfCode (s : String) : Array (Nat × List Nat) :=
  let nums := (RangeTable.codeNumbers (RangeTable.unpack s)).toList
  go nums 0 [] #[] nums.length
where
  go : List Nat -> Nat -> List Nat -> Array (Nat × List Nat) -> Nat -> Array (Nat × List Nat)
    | gap :: n :: rest, next, prev, out, fuel + 1 =>
      let key := next + gap
      let vals := (List.range n).map fun j =>
        (((prev.getD j key : Nat) : Int) + signedOfCode (rest.getD j 0)).toNat
      go (rest.drop n) (key + 1) vals (out.push (key, vals)) fuel
    | _, _, _, out, _ => out

/-- Reads a table of values by character from its code: runs of consecutive characters with the
same value, each as the gap since the run before, how many characters follow its first, and the
value. -/
def runsOfCode (s : String) : Array (Nat × Nat) :=
  let nums := (RangeTable.codeNumbers (RangeTable.unpack s)).toList
  go nums 0 #[] nums.length
where
  go : List Nat -> Nat -> Array (Nat × Nat) -> Nat -> Array (Nat × Nat)
    | gap :: extra :: v :: rest, next, out, fuel + 1 =>
      let lo := next + gap
      go rest (lo + extra + 1) (out ++ ((List.range (extra + 1)).map fun k => (lo + k, v)).toArray) fuel
    | _, _, out, _ => out

/-- Property names compare after dropping blanks, underscores and hyphens, ignoring ASCII case,
and dropping a leading `is`; other non-ASCII characters are dropped too. -/
def normalizeName (s : String) : String :=
  let cs := s.toList
  let (hasIs, body) := match cs with
    | a :: b :: rest => if (a == 'i' || a == 'I') && (b == 's' || b == 'S') then (true, rest) else (false, cs)
    | _ => (false, cs)
  let kept := body.filterMap fun c =>
    if c == ' ' || c == '_' || c == '-' then none
    else if 'A' <= c ∧ c <= 'Z' then some (Char.ofNat (c.toNat + 32))
    else if c.toNat <= 0x7F then some c
    else none
  -- `isc` names the category Other, not a property `c`
  if hasIs && kept == ['c'] then "isc" else String.ofList kept

/-- Rows of (aliases, table text) packed together so a table may refer back into earlier ones:
the aliases joined by commas, and one code (see `unpack`) of the texts, each ended by `.`. -/
def packedRowsOf (base : String) (names : List String) (code : String) :
    List (List String × String) :=
  let skip := ((RangeTable.unpack base).splitOn ".").length - 1
  (names.zip (((RangeTable.unpack (base ++ code)).splitOn ".").drop skip)).map fun (n, t) =>
    (n.splitOn ",", t)

/-- Looks a name up in a list of (aliases, table text) rows. -/
def lookupTable (rows : List (List String × String)) (name : String) : Option RangeTable :=
  let key := normalizeName name
  (rows.find? fun row => row.1.any fun a => normalizeName a == key).map fun row => RangeTable.ofPacked row.2

/-- Looks a name up in a list of (aliases, table text) rows: the row's first alias, which is its
canonical name, and its table. -/
def lookupRow (rows : List (List String × String)) (name : String) : Option (String × RangeTable) :=
  let key := normalizeName name
  (rows.find? fun row => row.1.any fun a => normalizeName a == key).map fun row =>
    (row.1.headD "", RangeTable.ofPacked row.2)

end TranscriptTest.Unicode
