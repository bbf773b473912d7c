/-!
# Sorting by natural runs

The script engine's sort: a stable merge sort over natural runs, with galloping. The items are
cut into runs that go up, or go strictly down and are turned around; a run shorter than the
minimum run length is made longer by binary insertion. Runs wait on a stack whose lengths must
shrink fast enough from bottom to top, and are merged as soon as they do not. A merge first
skips the items already in place, then takes items one at a time until one side wins often
enough in a row, and then gallops: it searches, by doubling steps, for how many items of one
side come next, and moves them at once.
-/

namespace TranscriptTest.Sort

variable {m : Type -> Type} [Monad m] {α : Type} [Inhabited α]

/-- The state of a sort: the items, the runs waiting to be merged (start and length, bottom of
the stack first), and how many wins in a row start a gallop. -/
structure Work (α : Type) where
  items : Array α
  runs : Array (Nat × Nat)
  minGallop : Nat

/-- How a merge ends early: all of one side is placed (`done`), or one item of it is left
whose place is known (`tail`). -/
inductive Exit where
  | done
  | tail

/-- Wins in a row that keep a gallop going, and that start one at first. -/
def galloping : Nat := 7

/-- Copies `len` items of `src` from `srcPos` into `dst` from `dstPos`; the items are read
before any is written, so the two may be the same array and overlap. -/
def moveItems (dst : Array α) (dstPos : Nat) (src : Array α) (srcPos len : Nat) : Array α :=
  ((src.extract srcPos (srcPos + len)).foldl
    (fun (acc, i) x => (acc.setIfInBounds i x, i + 1)) (dst, dstPos)).1

/-- The item at an index that may have run below zero. -/
def itemAt (xs : Array α) (i : Int) : α := xs.getD i.toNat default

/-- The run of items starting at `low`: as long as they do not go down, or as long as they
strictly go down, in which case they are turned around. -/
def countRun (before : α → α → m Bool) (xs : Array α) (low high : Nat) : m (Nat × Array α) := do
  if low + 1 >= high then return (1, xs)
  let descending <- before (xs.getD (low + 1) default) (xs.getD low default)
  let mut len := 2
  let mut prev := xs.getD (low + 1) default
  for idx in [low + 2:high] do
    let cur := xs.getD idx default
    let down <- before cur prev
    if descending != down then break
    prev := cur
    len := len + 1
  if descending then
    return (len, xs.extract 0 low ++ (xs.extract low (low + len)).reverse ++ xs.extract (low + len) xs.size)
  pure (len, xs)

/-- Where `pivot` goes among the sorted items from `left` to `right`: after every item it does
not come before. -/
def insertionPoint (before : α -> α -> m Bool) (xs : Array α) (pivot : α) :
    Nat -> Nat -> Nat -> m Nat
  | 0, left, _ => pure left
  | fuel + 1, left, right =>
    if left < right then do
      let mid := left + (right - left) / 2
      if <- before pivot (xs.getD mid default) then insertionPoint before xs pivot fuel left mid
      else insertionPoint before xs pivot fuel (mid + 1) right
    else pure left

/-- Sorts the items from `low` to `high` by binary insertion, those before `start` being sorted
already. -/
def binaryInsertion (before : α -> α -> m Bool) (xs : Array α) (low start high : Nat) :
    m (Array α) := do
  let mut xs := xs
  for s in [start:high] do
    let pivot := xs.getD s default
    let p <- insertionPoint before xs pivot (s - low + 1) low s
    xs := (xs.extract 0 p).push pivot ++ xs.extract p s ++ xs.extract (s + 1) xs.size
  pure xs

/-- The shortest run worth merging for `n` items: `n` halved until below 64, plus one if any
bit was dropped. -/
def minRunLength (n : Nat) : Nat :=
  go 64 n 0
where
  go : Nat -> Nat -> Nat -> Nat
    | 0, n, r => n + r
    | fuel + 1, n, r => if n >= 64 then go fuel (n / 2) (r ||| (n % 2)) else n + r

/-- Where `key` goes among the `len` sorted items from `base`, before any it does not come
before: searched from `hint` outwards by doubling steps, then by halving. -/
def gallopLeft (before : α -> α -> m Bool) (xs : Array α) (key : α) (base len hint : Nat) :
    m Nat := do
  let mut lastOfs : Int := 0
  let mut ofs : Int := 1
  if ← before (xs.getD (base + hint) default) key then
    let maxOfs : Int := (len : Int) - hint
    for _ in [0:64] do
      if ofs >= maxOfs then break
      if !(<- before (itemAt xs (base + hint + ofs)) key) then break
      lastOfs := ofs
      ofs := 2 * ofs + 1
    if ofs > maxOfs then ofs := maxOfs
    lastOfs := lastOfs + hint
    ofs := ofs + hint
  else
    let maxOfs : Int := (hint : Int) + 1
    for _ in [0:64] do
      if ofs >= maxOfs then break
      if <- before (itemAt xs (base + hint - ofs)) key then break
      lastOfs := ofs
      ofs := 2 * ofs + 1
    if ofs > maxOfs then ofs := maxOfs
    let below := lastOfs
    lastOfs := hint - ofs
    ofs := hint - below
  lastOfs := lastOfs + 1
  for _ in [0:64] do
    if lastOfs >= ofs then break
    let mid := lastOfs + (ofs - lastOfs) / 2
    if <- before (itemAt xs (base + mid)) key then lastOfs := mid + 1
    else ofs := mid
  pure ofs.toNat

/-- Where `key` goes among the `len` sorted items from `base`, after every item it does not come
before: searched from `hint` out by doubling steps, then halving. -/
def gallopRight (before : α -> α -> m Bool) (xs : Array α) (key : α) (base len hint : Nat) :
    m Nat := do
  let mut lastOfs : Int := 0
  let mut ofs : Int := 1
  if ← before key (xs.getD (base + hint) default) then
    let maxOfs : Int := (hint : Int) + 1
    for _ in [0:64] do
      if ofs >= maxOfs then break
      if !(<- before key (itemAt xs (base + hint - ofs))) then break
      lastOfs := ofs
      ofs := 2 * ofs + 1
    if ofs > maxOfs then ofs := maxOfs
    let below := lastOfs
    lastOfs := hint - ofs
    ofs := hint - below
  else
    let maxOfs : Int := (len : Int) - hint
    for _ in [0:64] do
      if ofs >= maxOfs then break
      if <- before key (itemAt xs (base + hint + ofs)) then break
      lastOfs := ofs
      ofs := 2 * ofs + 1
    if ofs > maxOfs then ofs := maxOfs
    lastOfs := lastOfs + hint
    ofs := ofs + hint
  lastOfs := lastOfs + 1
  for _ in [0:64] do
    if lastOfs >= ofs then break
    let mid := lastOfs + (ofs - lastOfs) / 2
    if <- before key (itemAt xs (base + mid)) then ofs := mid
    else lastOfs := mid + 1
  pure ofs.toNat

/-- Merges two adjacent runs from the left, the first (`lenA` items from `baseA`) being the
shorter and copied aside. -/
def mergeLow (before : α -> α -> m Bool) (w : Work α) (baseA lenA baseB lenB : Nat) :
    m (Work α) := do
  let temp := w.items.extract baseA (baseA + lenA)
  let fuel := lenA + lenB + 2
  let mut xs := w.items
  let mut lenA := lenA
  let mut lenB := lenB - 1
  let mut dest := baseA + 1
  let mut curT := 0
  let mut curB := baseB + 1
  let mut stored := w.minGallop
  let mut minGallop := w.minGallop
  xs := xs.setIfInBounds baseA (xs.getD baseB default)
  let mut exit : Option Exit := if lenB == 0 then some .done else if lenA == 1 then some .tail else none
  for _ in [0:fuel] do
    if exit.isSome then break
    let mut winsA := 0
    let mut winsB := 0
    for _ in [0:fuel] do
      if ← before (xs.getD curB default) (temp.getD curT default) then
        xs := xs.setIfInBounds dest (xs.getD curB default)
        dest := dest + 1
        curB := curB + 1
        winsB := winsB + 1
        lenB := lenB - 1
        winsA := 0
        if lenB == 0 then
          exit := some .done
          break
        if winsB >= minGallop then break
      else
        xs := xs.setIfInBounds dest (temp.getD curT default)
        dest := dest + 1
        curT := curT + 1
        winsA := winsA + 1
        lenA := lenA - 1
        winsB := 0
        if lenA == 1 then
          exit := some .tail
          break
        if winsA >= minGallop then break
    if exit.isSome then break
    minGallop := minGallop + 1
    let mut first := true
    for _ in [0:fuel] do
      if !(winsA >= galloping || winsB >= galloping || first) then break
      first := false
      minGallop := Nat.max 1 (minGallop - 1)
      stored := minGallop
      winsA <- gallopRight before temp (xs.getD curB default) curT lenA 0
      if winsA > 0 then
        xs := moveItems xs dest temp curT winsA
        dest := dest + winsA
        curT := curT + winsA
        lenA := lenA - winsA
        if lenA == 1 then
          exit := some .tail
          break
        if lenA == 0 then
          exit := some .done
          break
      xs := xs.setIfInBounds dest (xs.getD curB default)
      dest := dest + 1
      curB := curB + 1
      lenB := lenB - 1
      if lenB == 0 then
        exit := some .done
        break
      winsB <- gallopLeft before xs (temp.getD curT default) curB lenB 0
      if winsB > 0 then
        xs := moveItems xs dest xs curB winsB
        dest := dest + winsB
        curB := curB + winsB
        lenB := lenB - winsB
        if lenB == 0 then
          exit := some .done
          break
      xs := xs.setIfInBounds dest (temp.getD curT default)
      dest := dest + 1
      curT := curT + 1
      lenA := lenA - 1
      if lenA == 1 then
        exit := some .tail
        break
    if exit.isSome then break
    minGallop := minGallop + 1
    stored := minGallop
  match exit with
  | some .done => if lenA > 0 then xs := moveItems xs dest temp curT lenA
  | some .tail =>
    xs := moveItems xs dest xs curB lenB
    xs := xs.setIfInBounds (dest + lenB) (temp.getD curT default)
  | none => pure ()
  pure { w with items := xs, minGallop := stored }

/-- Merges two adjacent runs from the right, the second (`lenB` items from `baseB`) being the
shorter and copied aside. -/
def mergeHigh (before : α -> α -> m Bool) (w : Work α) (baseA lenA baseB lenB : Nat) :
    m (Work α) := do
  let temp := w.items.extract baseB (baseB + lenB)
  let fuel := lenA + lenB + 2
  let mut xs := w.items
  let mut lenA := lenA - 1
  let mut lenB := lenB
  let mut dest : Int := (baseB : Int) + lenB - 2
  let mut curT : Int := (lenB : Int) - 1
  let mut curA : Int := (baseA : Int) + lenA - 1
  let mut stored := w.minGallop
  let mut minGallop := w.minGallop
  xs := xs.setIfInBounds (baseB + lenB - 1) (itemAt xs (curA + 1))
  let mut exit : Option Exit := if lenA == 0 then some .done else if lenB == 1 then some .tail else none
  for _ in [0:fuel] do
    if exit.isSome then break
    let mut winsA := 0
    let mut winsB := 0
    for _ in [0:fuel] do
      if ← before (itemAt temp curT) (itemAt xs curA) then
        xs := xs.setIfInBounds dest.toNat (itemAt xs curA)
        dest := dest - 1
        curA := curA - 1
        winsA := winsA + 1
        lenA := lenA - 1
        winsB := 0
        if lenA == 0 then
          exit := some .done
          break
        if winsA >= minGallop then break
      else
        xs := xs.setIfInBounds dest.toNat (itemAt temp curT)
        dest := dest - 1
        curT := curT - 1
        winsB := winsB + 1
        lenB := lenB - 1
        winsA := 0
        if lenB == 1 then
          exit := some .tail
          break
        if winsB >= minGallop then break
    if exit.isSome then break
    minGallop := minGallop + 1
    let mut first := true
    for _ in [0:fuel] do
      if !(winsA >= galloping || winsB >= galloping || first) then break
      first := false
      minGallop := Nat.max 1 (minGallop - 1)
      stored := minGallop
      let k <- gallopRight before xs (itemAt temp curT) baseA lenA (lenA - 1)
      winsA := lenA - k
      if winsA > 0 then
        dest := dest - winsA
        curA := curA - winsA
        xs := moveItems xs (dest + 1).toNat xs (curA + 1).toNat winsA
        lenA := lenA - winsA
        if lenA == 0 then
          exit := some .done
          break
      xs := xs.setIfInBounds dest.toNat (itemAt temp curT)
      dest := dest - 1
      curT := curT - 1
      lenB := lenB - 1
      if lenB == 1 then
        exit := some .tail
        break
      let k <- gallopLeft before temp (itemAt xs curA) 0 lenB (lenB - 1)
      winsB := lenB - k
      if winsB > 0 then
        dest := dest - winsB
        curT := curT - winsB
        xs := moveItems xs (dest + 1).toNat temp (curT + 1).toNat winsB
        lenB := lenB - winsB
        if lenB == 1 then
          exit := some .tail
          break
        if lenB == 0 then
          exit := some .done
          break
      xs := xs.setIfInBounds dest.toNat (itemAt xs curA)
      dest := dest - 1
      curA := curA - 1
      lenA := lenA - 1
      if lenA == 0 then
        exit := some .done
        break
    if exit.isSome then break
    minGallop := minGallop + 1
    stored := minGallop
  match exit with
  | some .done =>
    if lenB > 0 then xs := moveItems xs (dest - (lenB - 1)).toNat temp 0 lenB
  | some .tail =>
    dest := dest - lenA
    curA := curA - lenA
    xs := moveItems xs (dest + 1).toNat xs (curA + 1).toNat lenA
    xs := xs.setIfInBounds dest.toNat (itemAt temp curT)
  | none => pure ()
  pure { w with items := xs, minGallop := stored }

/-- Merges the runs at `i` and `i + 1` of the stack: items already in place at either end stay,
and the rest are merged from the side of the shorter. -/
def mergeAt (before : α → α → m Bool) (w : Work α) (i : Nat) : m (Work α) := do
  let (baseA, lenA) := w.runs.getD i (0, 0)
  let (baseB, lenB) := w.runs.getD (i + 1) (0, 0)
  let mut runs := w.runs.setIfInBounds i (baseA, lenA + lenB)
  if i + 3 == w.runs.size then runs := runs.setIfInBounds (i + 1) (w.runs.getD (i + 2) (0, 0))
  let w := { w with runs := runs.pop }
  let k <- gallopRight before w.items (w.items.getD baseB default) baseA lenA 0
  let baseA := baseA + k
  let lenA := lenA - k
  if lenA == 0 then return w
  let lenB <- gallopLeft before w.items (w.items.getD (baseA + lenA - 1) default) baseB lenB (lenB - 1)
  if lenB == 0 then return w
  if lenA <= lenB then mergeLow before w baseA lenA baseB lenB
  else mergeHigh before w baseA lenA baseB lenB

/-- The length of the run at `i` of the stack. -/
def Work.runLength (w : Work α) (i : Nat) : Nat := (w.runs.getD i (0, 0)).2

/-- Whether the run at `n` and the two below it keep the stack's rule: the third from the top
is longer than the two above it together. -/
def Work.settled (w : Work α) (n : Nat) : Bool :=
  n < 2 || w.runLength (n - 2) > w.runLength (n - 1) + w.runLength n

/-- Merges runs at the top of the stack until its lengths shrink fast enough again. -/
def mergeCollapse (before : α → α → m Bool) (w : Work α) : m (Work α) := do
  let mut w := w
  for _ in [0:w.runs.size] do
    if w.runs.size <= 1 then break
    let n := w.runs.size - 2
    if !w.settled (n + 1) || !w.settled n then
      let n := if w.runLength (n - 1) < w.runLength (n + 1) then n - 1 else n
      w <- mergeAt before w n
    else if w.runLength n ≤ w.runLength (n + 1) then
      w <- mergeAt before w n
    else break
  pure w

/-- Merges all runs left on the stack, at the end. -/
def mergeForceCollapse (before : α → α → m Bool) (w : Work α) : m (Work α) := do
  let mut w := w
  for _ in [0:w.runs.size] do
    if w.runs.size <= 1 then break
    let n := w.runs.size - 2
    let n := if n > 0 && w.runLength (n - 1) < w.runLength (n + 1) then n - 1 else n
    w <- mergeAt before w n
  pure w

/-- Sorts as the engine does: natural runs, extended to the minimum run by binary insertion,
pushed on the stack, merged as its rule asks, and all merged at the end. -/
def timSort (before : α → α → m Bool) (items : Array α) : m (Array α) := do
  let n := items.size
  if n < 2 then return items
  let minRun := minRunLength n
  let mut w : Work α := ⟨items, #[], galloping⟩
  let mut low := 0
  for _ in [0:n] do
    if low >= n then break
    let (len, ys) <- countRun before w.items low n
    let mut len := len
    let mut ys := ys
    if len < minRun then
      let forced := Nat.min minRun (n - low)
      ys <- binaryInsertion before ys low (low + len) (low + forced)
      len := forced
    w := { w with items := ys, runs := w.runs.push (low, len) }
    w <- mergeCollapse before w
    low := low + len
  w <- mergeForceCollapse before w
  pure w.items

end TranscriptTest.Sort
