import Mathlib.Data.List.Induction
import TranscriptTest.Proofs.Reading

/-!
# The grammar of transcripts

Once its indentation is removed, a transcript is a description followed by statements. A
statement is a line that starts with the primary prompt, then the lines right after it that start
with the continuation prompt and not with the primary one, then its output: the lines up to the
next primary prompt. `Decomposes` states this of a list of lines, each statement's lines kept as
a `Block`.

* `Decomposes.unique`: a list of lines splits in at most one way;
* `Follows.add`: reading one more line keeps the reader in the state that the split of the lines
  read so far describes, so `addAll_follows` holds of every list of lines;
* `parse_reads_grammar`: the reader fails exactly when no line opens a statement, and otherwise
  returns the statements of the one split of the lines.
-/

namespace TranscriptTest.Transcript

/-- A list splits in at most one way into a run of elements that satisfy `P` and a rest that does
not start with one. -/
theorem run_split_unique {α : Type} (P : α → Prop) {xs ys xs' ys' : List α}
    (h : xs ++ ys = xs' ++ ys') (hx : ∀ x ∈ xs, P x) (hx' : ∀ x ∈ xs', P x)
    (hy : ∀ y ∈ ys.head?, ¬ P y) (hy' : ∀ y ∈ ys'.head?, ¬ P y) : xs = xs' ∧ ys = ys' := by
  induction xs generalizing xs' with
  | nil =>
    cases xs' with
    | nil => exact ⟨rfl, h⟩
    | cons x xs' =>
      rw [List.nil_append] at h
      subst h
      exact absurd (hx' x List.mem_cons_self) (hy x rfl)
  | cons x xs ih =>
    cases xs' with
    | nil =>
      rw [List.nil_append] at h
      subst h
      exact absurd (hx x List.mem_cons_self) (hy' x rfl)
    | cons x' xs' =>
      simp only [List.cons_append, List.cons.injEq] at h
      obtain ⟨rfl, h⟩ := h
      obtain ⟨rfl, rfl⟩ := ih h (fun y hy => hx y (List.mem_cons_of_mem _ hy))
        (fun y hy => hx' y (List.mem_cons_of_mem _ hy))
      exact ⟨rfl, rfl⟩

theorem string_append_cancel_left {a b c : String} (h : a ++ b = a ++ c) : b = c :=
  String.toList_inj.mp (by simpa using congrArg String.toList h)

/-- The text after a prefix, put back after it, is the line. -/
theorem afterPrefix_eq_some {pre line : String} {rest : List Char}
    (h : afterPrefix pre line = some rest) : line = pre ++ String.ofList rest := by
  unfold afterPrefix at h
  split at h
  · next hp =>
    obtain ⟨u, hu⟩ := List.isPrefixOf_iff_prefix.mp hp
    cases h
    apply String.toList_inj.mp
    rw [← hu, String.toList_append, String.toList_ofList, String.length_toList.symm]
    simp
  · cases h

section Grammar

variable (p : Prompts)

/-- The lines of one statement: the text after its primary prompt, the text after the
continuation prompt on each line that continues its input, and its output lines. -/
structure Block where
  first : String
  more : List String
  output : List String

/-- A block's lines as they stand in the transcript. -/
def Block.lines (b : Block) : List String :=
  (p.primary ++ b.first) :: b.more.map (p.continuation ++ ·) ++ b.output

/-- The grammar's conditions on a block: no line after its first starts with the primary prompt,
and its input goes on while lines start with the continuation prompt. -/
structure Block.WellFormed (b : Block) : Prop where
  more : ∀ m ∈ b.more, ¬ p.primary.toList <+: (p.continuation ++ m).toList
  output : ∀ l ∈ b.output, ¬ p.primary.toList <+: l.toList
  ends : ∀ l ∈ b.output.head?, ¬ p.continuation.toList <+: l.toList

/-- The statement a block reads as at an offset, its trailing empty output lines kept. -/
def Block.read (b : Block) (offset : Nat) : Statement :=
  ⟨promptBody b.first.toList :: b.more.map (promptBody ·.toList), b.output, offset⟩

/-- The statements of blocks laid one after the other from an offset. -/
def Block.readAll : Nat → List Block → List Statement
  | _, [] => []
  | k, b :: bs => b.read k :: Block.readAll (k + (b.lines p).length) bs

/-- Lines made of a description, no line of which opens a statement, and then blocks. -/
structure Decomposes (ls desc : List String) (bs : List Block) : Prop where
  noPrompt : ∀ l ∈ desc, ¬ p.primary.toList <+: l.toList
  wellFormed : ∀ b ∈ bs, b.WellFormed p
  eq : ls = desc ++ bs.flatMap (Block.lines p)

/-! ## A split is unique -/

/-- The lines of blocks start with a primary prompt. -/
theorem head?_flatMap_lines (bs : List Block) :
    ∀ l ∈ (bs.flatMap (Block.lines p)).head?, p.primary.toList <+: l.toList := by
  cases bs with
  | nil => simp
  | cons b bs =>
    intro l hl
    simp only [List.flatMap_cons, Block.lines, List.cons_append, List.head?_cons,
      Option.mem_def, Option.some.injEq] at hl
    subst hl
    simp [List.prefix_append]

/-- Blocks are read back from their lines. -/
theorem Block.flatMap_lines_inj {bs bs' : List Block} (hw : ∀ b ∈ bs, b.WellFormed p)
    (hw' : ∀ b ∈ bs', b.WellFormed p)
    (h : bs.flatMap (Block.lines p) = bs'.flatMap (Block.lines p)) : bs = bs' := by
  induction bs generalizing bs' with
  | nil =>
    cases bs' with
    | nil => rfl
    | cons b' bs' => simp [Block.lines] at h
  | cons b bs ih =>
    cases bs' with
    | nil => simp [Block.lines] at h
    | cons b' bs' =>
      have wf := hw b List.mem_cons_self
      have wf' := hw' b' List.mem_cons_self
      obtain ⟨first, more, output⟩ := b
      obtain ⟨first', more', output'⟩ := b'
      simp only [List.flatMap_cons, Block.lines, List.cons_append, List.cons.injEq,
        List.append_assoc] at h
      obtain ⟨hfirst, h⟩ := h
      -- the output, or else the next block, ends the run of continuation lines
      have hends : ∀ (o : List String), (∀ l ∈ o.head?, ¬ p.continuation.toList <+: l.toList) →
          ∀ (rest : List Block), ∀ l ∈ (o ++ rest.flatMap (Block.lines p)).head?,
            ¬ (p.continuation.toList <+: l.toList ∧ ¬ p.primary.toList <+: l.toList) := by
        intro o ho rest l hl hc
        cases o with
        | nil => exact hc.2 (head?_flatMap_lines p rest l hl)
        | cons o os => exact ho l hl hc.1
      have hcont : ∀ (ms : List String), (∀ m ∈ ms, ¬ p.primary.toList <+: (p.continuation ++ m).toList) →
          ∀ l ∈ ms.map (p.continuation ++ ·),
            p.continuation.toList <+: l.toList ∧ ¬ p.primary.toList <+: l.toList := by
        intro ms hms l hl
        obtain ⟨m, hm, rfl⟩ := List.mem_map.mp hl
        exact ⟨by simp [List.prefix_append], hms m hm⟩
      obtain ⟨hmore, h⟩ := run_split_unique _ h (hcont more wf.more) (hcont more' wf'.more)
        (hends output wf.ends bs) (hends output' wf'.ends bs')
      -- the next block ends the output
      obtain ⟨rfl, hrest⟩ := run_split_unique (fun l => ¬ p.primary.toList <+: l.toList) h
        wf.output wf'.output (fun l hl hn => hn (head?_flatMap_lines p bs l hl))
        (fun l hl hn => hn (head?_flatMap_lines p bs' l hl))
      have hmore' : more = more' :=
        (List.map_inj_right fun _ _ => string_append_cancel_left).mp hmore
      rw [string_append_cancel_left hfirst, hmore',
        ih (fun b hb => hw b (List.mem_cons_of_mem _ hb))
          (fun b hb => hw' b (List.mem_cons_of_mem _ hb)) hrest]

/-- A list of lines splits into a description and blocks in at most one way. -/
theorem Decomposes.unique {ls desc desc' : List String} {bs bs' : List Block}
    (h : Decomposes p ls desc bs) (h' : Decomposes p ls desc' bs') : desc = desc' ∧ bs = bs' := by
  obtain ⟨rfl, hrest⟩ := run_split_unique (fun l => ¬ p.primary.toList <+: l.toList)
    (h.eq.symm.trans h'.eq) h.noPrompt h'.noPrompt (fun l hl hn => hn (head?_flatMap_lines p bs l hl))
    (fun l hl hn => hn (head?_flatMap_lines p bs' l hl))
  exact ⟨rfl, Block.flatMap_lines_inj p h.wellFormed h'.wellFormed hrest⟩

/-! ## The reader follows the split -/

theorem Block.readAll_append_singleton (k : Nat) (bs : List Block) (b : Block) :
    Block.readAll p k (bs ++ [b]) =
      Block.readAll p k bs ++ [b.read (k + (bs.flatMap (Block.lines p)).length)] := by
  induction bs generalizing k with
  | nil => simp [readAll]
  | cons b' bs ih => simp [readAll, ih, Nat.add_assoc]

theorem Reading.addAll_append_singleton (st : Reading) (k : Nat) (ls : List String) (l : String) :
    Reading.addAll p st k (ls ++ [l]) = (Reading.addAll p st k ls).add p (k + ls.length) l := by
  induction ls generalizing st k with
  | nil => rfl
  | cons l' ls ih =>
    rw [List.cons_append, Reading.addAll_cons, Reading.addAll_cons, ih, List.length_cons,
      Nat.add_assoc, Nat.add_comm 1]

/-- A line that continues the input of the newest statement is added to that input. -/
theorem Reading.add_of_continues {st : Reading} {cur : Statement} {older : List Statement}
    {offset : Nat} {line : String} {rest : List Char} (hst : st.statements = cur :: older)
    (hprimary : afterPrefix p.primary line = none) (hin : st.inInput = true)
    (hcont : afterPrefix p.continuation line = some rest) :
    st.add p offset line =
      { st with statements := { cur with input := cur.input ++ [promptBody rest] } :: older } := by
  simp [Reading.add, hprimary, hst, hin, hcont]

/-- The reader, having read the lines `ls`, is in the state that their split into `desc` and
`bs` describes: the description, the blocks' statements newest first, and whether the newest
block is still reading input. -/
structure Follows (ls : List String) (st : Reading) (desc : List String) (bs : List Block) :
    Prop where
  decomposes : Decomposes p ls desc bs
  state : st = ⟨desc, (Block.readAll p desc.length bs).reverse,
    bs.getLast?.any (·.output.isEmpty)⟩

/-- A block whose output has not begun takes one more continuation line. -/
theorem Block.WellFormed.more_append {b : Block} (hwf : b.WellFormed p) (hout : b.output = [])
    {m : String} (hm : ¬ p.primary.toList <+: (p.continuation ++ m).toList) :
    { b with more := b.more ++ [m] }.WellFormed p :=
  ⟨List.forall_mem_append.mpr ⟨hwf.more, List.forall_mem_singleton.mpr hm⟩, by simp [hout],
    by simp [hout]⟩

/-- A block takes one more output line; its first output line must not look like a
continuation. -/
theorem Block.WellFormed.output_append {b : Block} (hwf : b.WellFormed p) {l : String}
    (hl : ¬ p.primary.toList <+: l.toList)
    (hfirst : b.output = [] → ¬ p.continuation.toList <+: l.toList) :
    { b with output := b.output ++ [l] }.WellFormed p := by
  refine ⟨hwf.more, List.forall_mem_append.mpr ⟨hwf.output, List.forall_mem_singleton.mpr hl⟩, ?_⟩
  cases hout : b.output with
  | nil => simpa [hout] using hfirst hout
  | cons o os => simpa [hout] using hwf.ends

/-- One more line read: it opens a block, ends the description, continues the newest block's
input, or is its output. -/
theorem Follows.add {ls desc : List String} {bs : List Block} {st : Reading}
    (h : Follows p ls st desc bs) (l : String) :
    ∃ desc' bs', Follows p (ls ++ [l]) (st.add p ls.length l) desc' bs' := by
  obtain ⟨⟨hdesc, hblocks, rfl⟩, rfl⟩ := h
  cases hprim : afterPrefix p.primary l with
  | some rest =>
    refine ⟨desc, bs ++ [⟨String.ofList rest, [], []⟩], ⟨hdesc, List.forall_mem_append.mpr
      ⟨hblocks, List.forall_mem_singleton.mpr ⟨by simp, by simp, by simp⟩⟩, ?_⟩, ?_⟩
    · simp [Block.lines, ← afterPrefix_eq_some hprim]
    · rw [Reading.add_of_opens p hprim, Block.readAll_append_singleton, List.length_append]
      simp [Block.read]
  | none =>
    have hl := afterPrefix_eq_none_iff.mp hprim
    induction bs using List.reverseRecOn with
    | nil =>
      -- before the first prompt: one more description line
      refine ⟨desc ++ [l], [], ⟨List.forall_mem_append.mpr
        ⟨hdesc, List.forall_mem_singleton.mpr hl⟩, by simp, by simp⟩, ?_⟩
      simp [Reading.add, hprim, Block.readAll]
    | append_singleton bs b _ =>
      obtain ⟨hbs, hwf⟩ := List.forall_mem_append.mp hblocks
      replace hwf := List.forall_mem_singleton.mp hwf
      have hst : (Block.readAll p desc.length (bs ++ [b])).reverse =
          b.read (desc.length + (bs.flatMap (Block.lines p)).length) ::
            (Block.readAll p desc.length bs).reverse := by
        simp [Block.readAll_append_singleton]
      have hin : (bs ++ [b]).getLast?.any (·.output.isEmpty) = b.output.isEmpty := by simp
      by_cases hcont : b.output = [] ∧ (afterPrefix p.continuation l).isSome
      · -- the line continues the input of the newest block
        obtain ⟨hout, hsome⟩ := hcont
        obtain ⟨rest, hrest⟩ := Option.isSome_iff_exists.mp hsome
        have hl' : l = p.continuation ++ String.ofList rest := afterPrefix_eq_some hrest
        refine ⟨desc, bs ++ [{ b with more := b.more ++ [String.ofList rest] }], ⟨hdesc,
          List.forall_mem_append.mpr ⟨hbs, List.forall_mem_singleton.mpr
            (hwf.more_append p hout (hl' ▸ hl))⟩, by simp [Block.lines, hout, hl']⟩, ?_⟩
        rw [Reading.add_of_continues p hst hprim (by simp [hout]) hrest]
        simp [Block.read, Block.readAll_append_singleton]
      · -- the line is output of the newest block
        have hnone : b.output = [] → afterPrefix p.continuation l = none := fun hout =>
          Option.not_isSome_iff_eq_none.mp fun hs => hcont ⟨hout, hs⟩
        refine ⟨desc, bs ++ [{ b with output := b.output ++ [l] }], ⟨hdesc,
          List.forall_mem_append.mpr ⟨hbs, List.forall_mem_singleton.mpr (hwf.output_append p hl
            fun hout => afterPrefix_eq_none_iff.mp (hnone hout))⟩, by simp [Block.lines]⟩, ?_⟩
        rw [Reading.add_of_output p hst hprim (fun h => hnone (by simpa [hin] using h))]
        simp [Block.read, Block.readAll_append_singleton]

/-- Reading a list of lines from the start follows their split. -/
theorem addAll_follows (ls : List String) :
    ∃ desc bs, Follows p ls (Reading.addAll p {} 0 ls) desc bs := by
  induction ls using List.reverseRecOn with
  | nil => exact ⟨[], [], ⟨by simp, by simp, rfl⟩, rfl⟩
  | append_singleton ls l ih =>
    obtain ⟨desc, bs, h⟩ := ih
    rw [Reading.addAll_append_singleton, Nat.zero_add]
    exact h.add p l

/-! ## What the reader returns -/

/-- The session a description and blocks make: the blocks' statements in order, each without its
trailing empty output lines. -/
def Block.session (tag : SourceTag) (desc : List String) (bs : List Block) (expectFail : Bool) :
    Session :=
  ⟨tag, desc, (Block.readAll p desc.length bs).map fun st =>
    { st with expected := dropTrailingEmpty st.expected }, expectFail⟩

theorem parse_eq_of_follows {t : String} (tag : SourceTag) {desc : List String} {bs : List Block}
    (h : Follows p (stripIndentation t p) (Reading.addAll p {} 0 (stripIndentation t p)) desc bs) :
    parse t p tag = if bs = [] then .error (.noStatements p.primary)
      else .ok (Block.session p tag desc bs (hasExpectFail t)) := by
  unfold parse
  rw [h.state]
  cases bs with
  | nil => rfl
  | cons b bs =>
    obtain ⟨x, xs, hx⟩ : ∃ x xs, (Block.readAll p desc.length (b :: bs)).reverse = x :: xs :=
      List.exists_cons_of_ne_nil (by simp [Block.readAll])
    simp only [hx, reduceCtorEq, if_false, Block.session]
    rw [← hx, List.reverse_reverse]

/-- A session read from lines that follow a split comes from that split's blocks, and there are
some. -/
theorem parse_eq_ok_of_follows {t : String} {tag : SourceTag} {desc : List String}
    {bs : List Block}
    (h : Follows p (stripIndentation t p) (Reading.addAll p {} 0 (stripIndentation t p)) desc bs)
    {s : Session} (hs : parse t p tag = .ok s) :
    bs ≠ [] ∧ s = Block.session p tag desc bs (hasExpectFail t) := by
  rw [parse_eq_of_follows p tag h] at hs
  by_cases hbs : bs = []
  · simp [hbs] at hs
  · simp only [hbs, if_false, Except.ok.injEq] at hs
    exact ⟨hbs, hs.symm⟩

theorem Block.input_ne_nil_of_mem_readAll {k : Nat} {bs : List Block} {st : Statement}
    (h : st ∈ Block.readAll p k bs) : st.input ≠ [] := by
  induction bs generalizing k with
  | nil => cases h
  | cons b bs ih =>
    rcases List.mem_cons.mp h with rfl | h
    · simp [Block.read]
    · exact ih h

theorem Block.le_offset_of_mem_readAll {k : Nat} {bs : List Block} {st : Statement}
    (h : st ∈ Block.readAll p k bs) : k ≤ st.offset := by
  induction bs generalizing k with
  | nil => cases h
  | cons b bs ih =>
    rcases List.mem_cons.mp h with rfl | h
    · simp [Block.read]
    · have := ih h
      omega

/-- Each block starts on a later line than the one before. -/
theorem Block.readAll_pairwise (k : Nat) (bs : List Block) :
    (Block.readAll p k bs).Pairwise (·.offset < ·.offset) := by
  induction bs generalizing k with
  | nil => exact .nil
  | cons b bs ih =>
    refine .cons (fun st hst => ?_) (ih _)
    have := Block.le_offset_of_mem_readAll p hst
    simp only [Block.read, Block.lines, List.cons_append, List.length_cons] at this ⊢
    omega

theorem dropTrailingEmpty_getLast?_ne (ls : List String) :
    (dropTrailingEmpty ls).getLast? ≠ some "" := by
  have h := List.head?_dropWhile_not String.isEmpty ls.reverse
  rw [dropTrailingEmpty, List.getLast?_reverse]
  intro he
  rw [he] at h
  exact absurd h (by decide)

/-- The reader accepts exactly the grammar of transcripts. It fails, naming the primary prompt,
exactly when no line opens a statement. Otherwise it returns the description and the statements
of the one split of the lines into a description and blocks, with no line lost or read twice,
and with the `EXPECT FAIL` marker of the whole text. Every statement has input, each starts on a
later line than the one before, and none expects a trailing empty line. -/
theorem parse_reads_grammar (t : String) (tag : SourceTag) :
    (parse t p tag = .error (.noStatements p.primary) ↔
      ∀ l ∈ stripIndentation t p, ¬ p.primary.toList <+: l.toList) ∧
    (∀ s, parse t p tag = .ok s ↔ ∃ desc bs, Decomposes p (stripIndentation t p) desc bs ∧
      bs ≠ [] ∧ s = Block.session p tag desc bs (hasExpectFail t)) ∧
    (∀ desc bs desc' bs', Decomposes p (stripIndentation t p) desc bs →
      Decomposes p (stripIndentation t p) desc' bs' → desc = desc' ∧ bs = bs') ∧
    ∀ s, parse t p tag = .ok s → (∀ st ∈ s.statements, st.input ≠ []) ∧
      s.statements.Pairwise (·.offset < ·.offset) ∧
      (∀ st ∈ s.statements, st.expected.getLast? ≠ some "") ∧ s.expectFail = hasExpectFail t := by
  obtain ⟨desc, bs, h⟩ := addAll_follows p (stripIndentation t p)
  have hparse := parse_eq_of_follows p tag h
  have hd := h.decomposes
  refine ⟨?_, fun s => ⟨fun hs => ?_, fun ⟨desc', bs', hd', hne, hs⟩ => ?_⟩,
    fun _ _ _ _ h₁ h₂ => h₁.unique p h₂, fun s hs => ?_⟩
  · rw [hparse]
    by_cases hbs : bs = []
    · subst hbs
      simp only [if_true, true_iff]
      simpa [hd.eq] using hd.noPrompt
    · -- the first block's first line opens a statement
      obtain ⟨b, bs', rfl⟩ := List.exists_cons_of_ne_nil hbs
      simp only [if_false, reduceCtorEq, false_iff, not_forall, not_not, hbs]
      refine ⟨p.primary ++ b.first, by simp [hd.eq, Block.lines], by simp [List.prefix_append]⟩
  · obtain ⟨hbs, rfl⟩ := parse_eq_ok_of_follows p h hs
    exact ⟨desc, bs, hd, hbs, rfl⟩
  · obtain ⟨rfl, rfl⟩ := hd'.unique p hd
    simp [hparse, hne, hs]
  · obtain ⟨-, rfl⟩ := parse_eq_ok_of_follows p h hs
    refine ⟨fun st hst => ?_, ?_, fun st hst => ?_, rfl⟩
    · obtain ⟨st', hst', rfl⟩ := List.mem_map.mp hst
      exact (Block.input_ne_nil_of_mem_readAll p hst' :)
    · exact List.pairwise_map.mpr (Block.readAll_pairwise p _ _)
    · obtain ⟨st', -, rfl⟩ := List.mem_map.mp hst
      exact dropTrailingEmpty_getLast?_ne _

end Grammar

end TranscriptTest.Transcript
