import TranscriptTest.Transcript.Parse

/-!
# Reading transcript lines

`Reading.add` reads one stripped line. A line that starts with the primary prompt opens a
statement (`Reading.add_of_opens`); any other line, once a statement is open and unless it
continues the input, is output of the newest statement (`Reading.add_of_output`). Lines of
output read one after the other are all appended to that statement (`Reading.addAll_of_output`).
-/

namespace TranscriptTest.Transcript

theorem afterPrefix_eq_none_iff {pre line : String} :
    afterPrefix pre line = none ↔ ¬ pre.toList <+: line.toList := by
  unfold afterPrefix
  split
  · next h => simpa using List.isPrefixOf_iff_prefix.mp h
  · next h => simpa [List.isPrefixOf_iff_prefix] using h

/-- A line made of a prefix and a rest is the rest after that prefix. -/
theorem afterPrefix_append (pre rest : String) :
    afterPrefix pre (pre ++ rest) = some rest.toList := by
  have hpre : pre.toList.isPrefixOf (pre ++ rest).toList = true := by
    rw [String.toList_append]
    exact List.isPrefixOf_iff_prefix.mpr (List.prefix_append _ _)
  rw [afterPrefix, if_pos hpre, String.toList_append, ← String.length_toList, List.drop_left]

/-- The one space after a prompt belongs to the marker. -/
theorem promptBody_space (s : String) : promptBody (' ' :: s.toList) = s :=
  String.ofList_toList

namespace Reading

variable (p : Prompts)

@[simp] theorem addAll_nil (st : Reading) (offset : Nat) : addAll p st offset [] = st := rfl

theorem addAll_cons (st : Reading) (offset : Nat) (l : String) (ls : List String) :
    addAll p st offset (l :: ls) = addAll p (st.add p offset l) (offset + 1) ls := rfl

/-- A line that starts with the primary prompt opens a statement at its offset. -/
theorem add_of_opens {st : Reading} {offset : Nat} {line : String} {rest : List Char}
    (h : afterPrefix p.primary line = some rest) :
    st.add p offset line =
      { st with statements := ⟨[promptBody rest], [], offset⟩ :: st.statements,
                inInput := true } := by
  simp [add, h]

/-- Lines that open no statement, read before any statement, open none. -/
theorem statements_addAll_of_none {st : Reading} (hst : st.statements = []) (offset : Nat)
    {ls : List String} (h : ∀ l ∈ ls, afterPrefix p.primary l = none) :
    (addAll p st offset ls).statements = [] := by
  induction ls generalizing st offset with
  | nil => exact hst
  | cons l ls ih =>
    rw [addAll_cons]
    exact ih (by simp [add, h l List.mem_cons_self, hst]) _ fun l' m => h l' (List.mem_cons_of_mem _ m)

/-- A line that opens no statement and does not continue the input is output of the newest
statement. -/
theorem add_of_output {st : Reading} {cur : Statement} {older : List Statement} {offset : Nat}
    {line : String} (hst : st.statements = cur :: older)
    (hprimary : afterPrefix p.primary line = none)
    (hcont : st.inInput = true → afterPrefix p.continuation line = none) :
    st.add p offset line =
      { st with statements := { cur with expected := cur.expected ++ [line] } :: older,
                inInput := false } := by
  unfold add
  rw [hprimary, hst]
  cases hin : st.inInput with
  | false => rfl
  | true => simp [hcont hin]

/-- Lines that open no statement, read after the input has ended, are all output of the newest
statement. -/
theorem addAll_of_output {st : Reading} {cur : Statement} {older : List Statement}
    (offset : Nat) (ls : List String) (hst : st.statements = cur :: older)
    (hin : st.inInput = false) (hprimary : ∀ l ∈ ls, afterPrefix p.primary l = none) :
    addAll p st offset ls =
      { st with statements := { cur with expected := cur.expected ++ ls } :: older,
                inInput := false } := by
  induction ls generalizing st cur offset with
  | nil =>
    obtain ⟨description, statements, inInput⟩ := st
    simp only at hst hin
    simp [hst, hin]
  | cons l ls ih =>
    rw [addAll_cons, add_of_output p hst (hprimary l List.mem_cons_self) (by simp [hin]),
      ih _ rfl rfl fun l' m => hprimary l' (List.mem_cons_of_mem _ m)]
    simp

end Reading

end TranscriptTest.Transcript
