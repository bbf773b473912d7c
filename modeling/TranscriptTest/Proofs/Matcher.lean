import TranscriptTest.Identity.Matcher

/-!
# A text matches itself

Matching compares normalized texts and, in consistent-identity mode, binds the hashes of the
expected text to those of the actual one. A text compared with itself always has equal
normalized forms and pairs every hash with itself; such pairs never contradict bindings that
also pair each hash with itself (`Matcher.Diagonal`). A fresh matcher has no bindings, so it
accepts any text against itself (`Matcher.check_self`).
-/

namespace TranscriptTest.Identity

/-- Every binding pairs a hash with itself. -/
def Matcher.Diagonal (m : Matcher) : Prop :=
  ∀ b ∈ m.bindings, b.1 = b.2

theorem Normalizer.matcher_diagonal (n : Normalizer) : n.matcher.Diagonal :=
  fun _ hb => nomatch hb

/-- A hash is bound to itself by a matcher that binds every hash to itself. -/
theorem Matcher.lookup_of_diagonal {m : Matcher} (hm : m.Diagonal) {e a : String}
    (h : m.lookup e = some a) : a = e := by
  obtain ⟨b, hb, rfl⟩ := Option.map_eq_some_iff.mp h
  have hkey : b.1 = e := by simpa using List.find?_some hb
  rw [← hkey, hm b (List.mem_of_find?_eq_some hb)]

/-- Binding a list of hashes each to itself succeeds and binds every hash to itself. -/
theorem Matcher.bindAll_zip_self {m : Matcher} (hm : m.Diagonal) (hs : List String) :
    (m.bindAll (hs.zip hs)).1 = true ∧ (m.bindAll (hs.zip hs)).2.Diagonal := by
  induction hs generalizing m with
  | nil => exact ⟨rfl, hm⟩
  | cons h hs ih =>
    rw [List.zip_cons_cons, bindAll]
    cases hl : m.lookup h with
    | some b =>
      rw [lookup_of_diagonal hm hl]
      simp only [beq_self_eq_true, if_true]
      exact ih hm
    | none =>
      apply ih
      intro b hb
      rcases List.mem_append.mp hb with hb | hb
      · exact hm b hb
      · rw [List.mem_singleton.mp hb]

/-- A matcher that binds every hash to itself accepts any text against itself. -/
theorem Matcher.check_self {m : Matcher} (hm : m.Diagonal) (t : String) :
    (m.check t t).1 = true := by
  unfold check
  simp only [bne_self_eq_false, Bool.false_eq_true, if_false]
  split
  · rfl
  · exact (bindAll_zip_self hm _).1

end TranscriptTest.Identity
