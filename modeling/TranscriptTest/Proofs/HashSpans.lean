import TranscriptTest.Proofs.Mapping

/-!
# Normalizing replaces exactly the hash spans

A normalizer takes the span of the `hash` group from every match of its pattern in which that
group took part (`Normalizer.hashSpans`) and replaces each span by the placeholder. The search
lists its matches in order, none overlapping the next, each group inside its match
(`Normalizer.MatchesInOrder`); then the spans are in order too (`SpansInOrder`), which is what
cutting the text at their boundaries one after the other needs. The text is its gaps between the
spans with the hashes set in them, and the normalized text is the same gaps with the placeholder
set in instead (`normalize_replaces_hash_spans`).
-/

namespace TranscriptTest.Identity

open TranscriptTest.Pattern

/-! ## Spans in order -/

/-- What the search promises of the matches it lists from position `p` on, in a text of `size`
characters: each match starts at or after the end of the one before and ends within the text,
and the `hash` group's span, when that group took part, lies inside its match. -/
def Normalizer.MatchesInOrder (n : Normalizer) (size : Nat) : Nat → List Captures → Prop
  | p, [] => p ≤ size
  | p, c :: cs =>
    match c.group 0, c.group n.hashGroup with
    | some (s, e), some (a, b) => p ≤ s ∧ s ≤ a ∧ a ≤ b ∧ b ≤ e ∧ n.MatchesInOrder size e cs
    | some (s, e), none => p ≤ s ∧ s ≤ e ∧ n.MatchesInOrder size e cs
    | none, _ => False

/-- Spans from position `last` on, each starting at or after the end of the one before and
ending no earlier than it starts, the last ending within `size`. -/
def SpansInOrder (size : Nat) : Nat → List (Nat × Nat) → Prop
  | last, [] => last ≤ size
  | last, (s, e) :: rest => last ≤ s ∧ s ≤ e ∧ SpansInOrder size e rest

theorem SpansInOrder.le_size {size last : Nat} :
    ∀ {spans : List (Nat × Nat)}, SpansInOrder size last spans → last ≤ size
  | [], h => h
  | (_, _) :: _, ⟨hs, he, hrest⟩ => by have := hrest.le_size; omega

theorem SpansInOrder.of_le {size last last' : Nat} (hle : last' ≤ last) :
    ∀ {spans : List (Nat × Nat)}, SpansInOrder size last spans → SpansInOrder size last' spans
  | [], h => Nat.le_trans hle h
  | (_, _) :: _, ⟨hs, he, hrest⟩ => ⟨Nat.le_trans hle hs, he, hrest⟩

/-- The `hash` spans of matches in order are in order. -/
theorem Normalizer.spansInOrder_filterMap (n : Normalizer) {size : Nat} :
    ∀ {p : Nat} {cs : List Captures}, n.MatchesInOrder size p cs →
      SpansInOrder size p (cs.filterMap (·.group n.hashGroup))
  | _, [], h => h
  | p, c :: cs, h => by
    unfold MatchesInOrder at h
    -- a match whose `hash` group took part gives a span; the rest are passed over
    match h0 : c.group 0, hh : c.group n.hashGroup, h with
    | some (s, e), some (a, b), ⟨hps, hsa, hab, hbe, hrest⟩ =>
      simp only [List.filterMap_cons, hh]
      exact ⟨by omega, hab, (n.spansInOrder_filterMap hrest).of_le hbe⟩
    | some (s, e), none, ⟨hps, hse, hrest⟩ =>
      simp only [List.filterMap_cons, hh]
      exact (n.spansInOrder_filterMap hrest).of_le (by omega)

/-! ## Cutting a text at its spans -/

/-- The text between spans from `last` on: before the first, between each two, after the last. -/
def gaps (cs : Array Char) : Nat → List (Nat × Nat) → List String
  | last, [] => [slice cs last cs.size]
  | last, (s, e) :: rest => slice cs last s :: gaps cs e rest

/-- Pieces set between gaps: `g₀ ++ x₁ ++ g₁ ++ … ++ xₘ ++ gₘ`. -/
def interleave : List String → List String → String
  | g :: gs, x :: xs => g ++ x ++ interleave gs xs
  | gs, _ => String.join gs

theorem slice_append_slice (cs : Array Char) {a b c : Nat} (hab : a ≤ b) (hbc : b ≤ c) :
    slice cs a b ++ slice cs b c = slice cs a c := by
  simp only [slice, ← String.ofList_append, Array.toList_extract, List.extract_eq_take_drop]
  have hc : c - a = (b - a) + (c - b) := by omega
  rw [hc, List.take_add, List.drop_drop, Nat.add_sub_cancel' hab]

theorem slice_all (text : String) :
    slice text.toList.toArray 0 text.toList.toArray.size = text := by
  simp [slice]

/-- Replacing spans sets the placeholder between the gaps. -/
theorem replaceSpans_eq_interleave (cs : Array Char) (placeholder : String) :
    ∀ (last : Nat) (spans : List (Nat × Nat)),
      replaceSpans cs placeholder last spans =
        interleave (gaps cs last spans) (spans.map fun _ => placeholder)
  | _, [] => by simp [replaceSpans, gaps, interleave]
  | _, (_, e) :: rest => by
    rw [replaceSpans, replaceSpans_eq_interleave cs placeholder e rest]
    rfl

/-- Spans in order cut the text into its gaps and the spans' own text, each once and in order. -/
theorem interleave_gaps_slices (cs : Array Char) :
    ∀ {last : Nat} {spans : List (Nat × Nat)}, SpansInOrder cs.size last spans →
      interleave (gaps cs last spans) (spans.map fun (s, e) => slice cs s e) =
        slice cs last cs.size
  | _, [], _ => by simp [gaps, interleave]
  | last, (s, e) :: rest, ⟨hls, hse, hrest⟩ => by
    have he := hrest.le_size
    simp only [gaps, List.map_cons, interleave]
    rw [interleave_gaps_slices cs hrest, String.append_assoc,
      slice_append_slice cs hse he, slice_append_slice cs hls (by omega)]

/-! ## Normalizing -/

/-- The text comes back borrowed exactly when no `hash` group took part in a match. -/
theorem Normalizer.normalizeCow_borrowed_iff (n : Normalizer) (text : String) :
    (∃ t, n.normalizeCow text = .borrowed t) ↔ n.hashSpans text.toList.toArray = [] := by
  cases hs : n.hashSpans text.toList.toArray with
  | nil => simp [normalizeCow, hs]
  | cons sp rest => simp [normalizeCow, hs]

/-- Normalizing sets the placeholder between the gaps, whether or not a hash took part. -/
theorem Normalizer.normalize_eq_interleave (n : Normalizer) (text : String) :
    n.normalize text = interleave (gaps text.toList.toArray 0 (n.hashSpans text.toList.toArray))
      ((n.hashSpans text.toList.toArray).map fun _ => n.placeholder) := by
  cases hs : n.hashSpans text.toList.toArray with
  | nil =>
    simp only [normalize, normalizeCow, hs, Cow.text, gaps, interleave, List.map_nil]
    simpa using (slice_all text).symm
  | cons sp rest => simp [normalize, normalizeCow, hs, Cow.text, replaceSpans_eq_interleave]

/-- When the search lists its matches in order: the `hash` spans are in order, so no cut goes
backwards or past the end; the text is its gaps between the spans with the hashes in them; the
normalized text is the same gaps with the placeholder, verbatim, in their place; it comes back
borrowed exactly when no `hash` group took part; and the hashes are the spans' text, in order. -/
theorem normalize_replaces_hash_spans (n : Normalizer) (text : String)
    (h : n.MatchesInOrder text.length 0 (n.regex.findAll text.toList.toArray)) :
    SpansInOrder text.length 0 (n.hashSpans text.toList.toArray) ∧
    text = interleave (gaps text.toList.toArray 0 (n.hashSpans text.toList.toArray))
      (n.hashes text) ∧
    n.normalize text = interleave (gaps text.toList.toArray 0 (n.hashSpans text.toList.toArray))
      ((n.hashSpans text.toList.toArray).map fun _ => n.placeholder) ∧
    ((∃ t, n.normalizeCow text = .borrowed t) ↔ n.hashSpans text.toList.toArray = []) ∧
    n.hashes text = (n.hashSpans text.toList.toArray).map fun (s, e) =>
      slice text.toList.toArray s e := by
  have hspans : SpansInOrder text.length 0 (n.hashSpans text.toList.toArray) :=
    n.spansInOrder_filterMap h
  have hsize : text.toList.toArray.size = text.length := String.length_toList
  refine ⟨hspans, ?_, n.normalize_eq_interleave text, n.normalizeCow_borrowed_iff text, rfl⟩
  rw [← hsize] at hspans
  rw [Normalizer.hashes, interleave_gaps_slices _ hspans, slice_all]

/-- `a@1 b@22` with the pattern `@(?P<hash>[0-9]+)`: two matches in order, whose hashes `1` and
`22` the placeholder `#` replaces. -/
theorem normalize_replaces_hash_spans_two_hashes :
    digitsAfterAt.MatchesInOrder "a@1 b@22".length 0
        (digitsAfterAt.regex.findAll "a@1 b@22".toList.toArray) ∧
      digitsAfterAt.normalize "a@1 b@22" = interleave ["a@", " b@", ""] ["#", "#"] := by
  have hm : digitsAfterAt.MatchesInOrder "a@1 b@22".length 0
      (digitsAfterAt.regex.findAll "a@1 b@22".toList.toArray) := by
    rw [show digitsAfterAt.regex.findAll "a@1 b@22".toList.toArray =
      [⟨#[some 1, some 3, some 2, some 3]⟩, ⟨#[some 5, some 8, some 6, some 8]⟩] from rfl,
      show "a@1 b@22".length = 8 from rfl]
    show 0 ≤ 1 ∧ 1 ≤ 2 ∧ 2 ≤ 3 ∧ 3 ≤ 3 ∧ 3 ≤ 5 ∧ 5 ≤ 6 ∧ 6 ≤ 8 ∧ 8 ≤ 8 ∧ 8 ≤ 8
    omega
  exact ⟨hm, (normalize_replaces_hash_spans digitsAfterAt _ hm).2.2.1.trans (by decide +kernel)⟩

end TranscriptTest.Identity
