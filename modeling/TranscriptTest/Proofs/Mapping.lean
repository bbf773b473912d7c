import TranscriptTest.Identity.Matcher

/-!
# One mapping per session

In consistent-identity mode a matcher keeps, for each expected hash, the actual hash it was
first paired with. A comparison is accepted exactly when the texts agree once normalized, they
have as many hashes, and one mapping agrees with its hash pairings and with every pairing
recorded before (`Matcher.check_afterAll_iff`). A comparison records its pairings up to the
first that no such mapping allows (`keptPairings`): all of them when accepted, those before the
conflict when refused, so a refused comparison can refuse a later one
(`refused_comparison_keeps_its_bindings`). Comparisons that were all accepted, as in a replay,
which stops at its first refusal, record all their pairings (`recorded_of_accepted`).
-/

namespace TranscriptTest.Identity

/-! ## Mappings and the pairings they agree with -/

section Pairings

variable {R R' zs : List (String × String)}

/-- A mapping of expected to actual hashes agrees with every pairing of a list. -/
def Agrees (f : String → String) (ps : List (String × String)) : Prop :=
  ∀ p ∈ ps, f p.1 = p.2

/-- No expected hash is paired with two actual hashes. -/
def Functional (ps : List (String × String)) : Prop :=
  ∀ p ∈ ps, ∀ q ∈ ps, p.1 = q.1 → p.2 = q.2

instance (ps : List (String × String)) : Decidable (Functional ps) :=
  inferInstanceAs (Decidable (∀ p ∈ ps, ∀ q ∈ ps, p.1 = q.1 → p.2 = q.2))

@[simp] theorem agrees_append {f : String → String} :
    Agrees f (R ++ zs) ↔ Agrees f R ∧ Agrees f zs := by
  simp only [Agrees, List.mem_append, or_imp, forall_and]

/-- Some mapping agrees with pairings exactly when no expected hash has two actual hashes. -/
theorem functional_iff_exists_agrees : Functional R ↔ ∃ f, Agrees f R := by
  constructor
  · intro h
    -- each expected hash goes to the actual hash of its first pairing
    refine ⟨fun x => ((R.find? (·.1 == x)).map (·.2)).getD x, fun p hp => ?_⟩
    obtain ⟨q, hq⟩ : ∃ q, R.find? (·.1 == p.1) = some q :=
      Option.isSome_iff_exists.mp (List.find?_isSome.mpr ⟨p, hp, by simp⟩)
    have hkey : q.1 = p.1 := by simpa using List.find?_some hq
    simp only [hq, Option.map_some, Option.getD_some]
    exact h q (List.mem_of_find?_eq_some hq) p hp hkey
  · rintro ⟨f, hf⟩ p hp q hq hkey
    rw [← hf p hp, ← hf q hq, hkey]

@[simp] theorem functional_nil : Functional ([] : List (String × String)) := by
  simp [Functional]

theorem functional_congr (h : ∀ p, p ∈ R ↔ p ∈ R') :
    Functional R ↔ Functional R' := by
  simp only [Functional, h]

theorem Functional.mono (hR : Functional R) (h : R' ⊆ R) : Functional R' :=
  fun p hp q hq => hR p (h hp) q (h hq)

/-- A pairing keeps pairings functional exactly when its expected hash has no other pairing. -/
theorem functional_append_singleton (hR : Functional R) (e a : String) :
    Functional (R ++ [(e, a)]) ↔ ∀ b, (e, b) ∈ R → b = a := by
  constructor
  · intro h b hb
    exact h (e, b) (by simp [hb]) (e, a) (by simp) rfl
  · rintro h ⟨x, b⟩ hp ⟨y, c⟩ hq (hkey : x = y)
    subst hkey
    show b = c
    simp only [List.mem_append, List.mem_singleton, Prod.mk.injEq] at hp hq
    rcases hp with hp | ⟨hx, hb⟩ <;> rcases hq with hq | ⟨hx', hc⟩
    · exact hR _ hp _ hq rfl
    · rw [hc]
      exact h b (hx' ▸ hp)
    · rw [hb]
      exact (h c (hx ▸ hq)).symm
    · rw [hb, hc]

theorem mem_append_cons_of_mem {x : String × String} (hx : x ∈ R) (p : String × String) :
    p ∈ R ++ x :: zs ↔ p ∈ R ++ zs := by
  simp only [List.mem_append, List.mem_cons]
  constructor
  · rintro (hp | rfl | hp)
    · exact Or.inl hp
    · exact Or.inl hx
    · exact Or.inr hp
  · rintro (hp | hp)
    · exact Or.inl hp
    · exact Or.inr (Or.inr hp)

/-! ## What a comparison records -/

/-- The pairings of `zs` up to the first that no one mapping allows together with `R` and those
before it. -/
def keptPairings (R : List (String × String)) : List (String × String) → List (String × String)
  | [] => []
  | z :: zs => if Functional (R ++ [z]) then z :: keptPairings (R ++ [z]) zs else []

theorem keptPairings_congr (h : ∀ p, p ∈ R ↔ p ∈ R') (zs : List (String × String)) :
    keptPairings R zs = keptPairings R' zs := by
  induction zs generalizing R R' with
  | nil => rfl
  | cons z zs ih =>
    have hz : ∀ p, p ∈ R ++ [z] ↔ p ∈ R' ++ [z] := by simp [h]
    simp only [keptPairings, functional_congr hz, ih hz]

theorem functional_append_keptPairings (hR : Functional R) (zs : List (String × String)) :
    Functional (R ++ keptPairings R zs) := by
  induction zs generalizing R with
  | nil => simpa [keptPairings] using hR
  | cons z zs ih =>
    unfold keptPairings
    split
    · next hz => simpa using ih hz
    · simpa using hR

/-- Pairings that one mapping allows together with `R` are all kept. -/
theorem keptPairings_eq_self (h : Functional (R ++ zs)) : keptPairings R zs = zs := by
  induction zs generalizing R with
  | nil => rfl
  | cons z zs ih =>
    have hz : Functional (R ++ [z]) := h.mono (by simp)
    rw [keptPairings, if_pos hz, ih (by simpa using h)]

/-- What a comparison records on top of `R`: nothing in plain mode or when the texts differ once
normalized or in their number of hashes; else its hash pairings as far as they are kept. -/
def newPairings (n : Normalizer) (R : List (String × String)) (e a : String) :
    List (String × String) :=
  if n.consistent = true ∧ n.normalize e = n.normalize a ∧ (n.hashes e).length = (n.hashes a).length
  then keptPairings R ((n.hashes e).zip (n.hashes a)) else []

theorem newPairings_congr (n : Normalizer) (h : ∀ p, p ∈ R ↔ p ∈ R') (e a : String) :
    newPairings n R e a = newPairings n R' e a := by
  simp only [newPairings, keptPairings_congr h]

theorem functional_append_newPairings (n : Normalizer) (hR : Functional R) (e a : String) :
    Functional (R ++ newPairings n R e a) := by
  unfold newPairings
  split
  · exact functional_append_keptPairings hR _
  · simpa using hR

/-- The pairings recorded by comparing each pair in turn, on top of `R`. -/
def recordedFrom (n : Normalizer) (R : List (String × String)) :
    List (String × String) → List (String × String)
  | [] => R
  | (e, a) :: ps => recordedFrom n (R ++ newPairings n R e a) ps

/-- The pairings a session's comparisons have recorded. -/
def recorded (n : Normalizer) (ps : List (String × String)) : List (String × String) :=
  recordedFrom n [] ps

end Pairings

/-! ## The matcher against the pairings recorded -/

/-- The matcher after comparing each pair in turn. -/
def Matcher.afterAll : Matcher → List (String × String) → Matcher
  | m, [] => m
  | m, (e, a) :: ps => (m.check e a).2.afterAll ps

theorem Matcher.mem_of_lookup {m : Matcher} {e b : String} (h : m.lookup e = some b) :
    (e, b) ∈ m.bindings := by
  obtain ⟨q, hq, rfl⟩ := Option.map_eq_some_iff.mp h
  have hkey : q.1 = e := by simpa using List.find?_some hq
  rw [← hkey]
  exact List.mem_of_find?_eq_some hq

theorem Matcher.not_mem_of_lookup_eq_none {m : Matcher} {e : String} (h : m.lookup e = none)
    (b : String) : (e, b) ∉ m.bindings := by
  have hnone : m.bindings.find? (·.1 == e) = none := by simpa [Matcher.lookup] using h
  intro hb
  simpa using List.find?_eq_none.mp hnone (e, b) hb

/-- Binding a list of pairings: it succeeds exactly when no hash is paired twice among the
bindings and the list, and it binds the pairings it keeps. -/
theorem Matcher.bindAll_spec {m : Matcher} (hm : Functional m.bindings)
    (zs : List (String × String)) :
    ((m.bindAll zs).1 = true ↔ Functional (m.bindings ++ zs)) ∧
      (∀ p, p ∈ (m.bindAll zs).2.bindings ↔ p ∈ m.bindings ++ keptPairings m.bindings zs) ∧
      (m.bindAll zs).2.normalizer = m.normalizer := by
  induction zs generalizing m with
  | nil => simpa [bindAll, keptPairings] using hm
  | cons z zs ih =>
    obtain ⟨e, a⟩ := z
    have hsplit : m.bindings ++ (e, a) :: zs = (m.bindings ++ [(e, a)]) ++ zs := by simp
    cases hl : m.lookup e with
    | some b =>
      have hb : (e, b) ∈ m.bindings := mem_of_lookup hl
      by_cases hba : b = a
      · -- the pairing is bound already: the bindings do not change
        subst hba
        have hsame : ∀ p, p ∈ m.bindings ++ [(e, b)] ↔ p ∈ m.bindings := fun p => by
          simpa using (mem_append_cons_of_mem hb p : p ∈ m.bindings ++ [(e, b)] ↔ p ∈ m.bindings ++ [])
        have hkept : keptPairings m.bindings ((e, b) :: zs) = (e, b) :: keptPairings m.bindings zs := by
          rw [keptPairings, if_pos ((functional_congr hsame).mpr hm), keptPairings_congr hsame]
        obtain ⟨h1, h2, h3⟩ := ih hm
        simp only [bindAll, hl, beq_self_eq_true, if_true]
        refine ⟨?_, fun p => ?_, h3⟩
        · rw [h1]
          exact functional_congr fun p => (mem_append_cons_of_mem hb p).symm
        · rw [h2, hkept]
          exact (mem_append_cons_of_mem hb p).symm
      · -- the expected hash stands for another actual hash: refused, nothing more is bound
        have hnot : ¬ Functional (m.bindings ++ [(e, a)]) :=
          fun h => hba ((functional_append_singleton hm e a).mp h b hb)
        have hbeq : (b == a) = false := by simpa using hba
        simp only [bindAll, hl, hbeq, Bool.false_eq_true, if_false, keptPairings, if_neg hnot,
          List.append_nil, and_true, false_iff, iff_self, implies_true]
        rw [hsplit]
        exact fun h => hnot (h.mono (by simp))
    | none =>
      -- a new expected hash: its pairing is bound
      have hfun : Functional (m.bindings ++ [(e, a)]) :=
        (functional_append_singleton hm e a).mpr fun b hb => absurd hb (not_mem_of_lookup_eq_none hl b)
      obtain ⟨h1, h2, h3⟩ := ih (m := { m with bindings := m.bindings ++ [(e, a)] }) hfun
      simp only [bindAll, hl]
      refine ⟨by rw [h1, hsplit], fun p => ?_, h3⟩
      rw [h2, keptPairings, if_pos hfun]
      simp

/-- One comparison: when it is accepted, and what it binds. -/
theorem Matcher.check_spec {m : Matcher} (hm : Functional m.bindings) (e a : String) :
    ((m.check e a).1 = true ↔ m.normalizer.normalize e = m.normalizer.normalize a ∧
        (m.normalizer.consistent = true →
          (m.normalizer.hashes e).length = (m.normalizer.hashes a).length ∧
            Functional (m.bindings ++ (m.normalizer.hashes e).zip (m.normalizer.hashes a)))) ∧
      (∀ p, p ∈ (m.check e a).2.bindings ↔ p ∈ m.bindings ++ newPairings m.normalizer m.bindings e a) ∧
      (m.check e a).2.normalizer = m.normalizer := by
  by_cases hnorm : m.normalizer.normalize e = m.normalizer.normalize a
  · by_cases hc : m.normalizer.consistent = true
    · by_cases hlen : (m.normalizer.hashes e).length = (m.normalizer.hashes a).length
      · -- the only case that binds: the hashes are paired in order
        obtain ⟨h1, h2, h3⟩ := m.bindAll_spec hm ((m.normalizer.hashes e).zip (m.normalizer.hashes a))
        have hcheck : m.check e a = m.bindAll ((m.normalizer.hashes e).zip (m.normalizer.hashes a)) := by
          simp [check, hnorm, hc, hlen]
        rw [hcheck, newPairings, if_pos ⟨hc, hnorm, hlen⟩]
        exact ⟨by simp [h1, hnorm, hlen, hc], h2, h3⟩
      · have hcheck : m.check e a = (false, m) := by simp [check, hnorm, hc, hlen]
        rw [hcheck, newPairings, if_neg (by simp [hlen])]
        simp [hc, hlen]
    · have hcheck : m.check e a = (true, m) := by simp [check, hnorm, hc]
      rw [hcheck, newPairings, if_neg (by simp [hc])]
      simp [hnorm, hc]
  · have hcheck : m.check e a = (false, m) := by simp [check, hnorm]
    rw [hcheck, newPairings, if_neg (by simp [hnorm])]
    simp [hnorm]

/-- The run of a session's comparisons: the matcher binds the pairings recorded, and no hash is
bound twice. -/
theorem Matcher.afterAll_spec (ps : List (String × String)) {m : Matcher}
    {R : List (String × String)} (hR : Functional R) (hmem : ∀ p, p ∈ m.bindings ↔ p ∈ R) :
    (∀ p, p ∈ (m.afterAll ps).bindings ↔ p ∈ recordedFrom m.normalizer R ps) ∧
      (m.afterAll ps).normalizer = m.normalizer ∧
      Functional (recordedFrom m.normalizer R ps) := by
  induction ps generalizing m R with
  | nil => exact ⟨hmem, rfl, hR⟩
  | cons z ps ih =>
    obtain ⟨e, a⟩ := z
    obtain ⟨-, h2, h3⟩ := m.check_spec ((functional_congr hmem).mpr hR) e a
    have hnext : ∀ p, p ∈ (m.check e a).2.bindings ↔ p ∈ R ++ newPairings m.normalizer R e a := by
      intro p
      rw [h2, newPairings_congr _ hmem]
      simp [hmem]
    obtain ⟨i1, i2, i3⟩ := ih (functional_append_newPairings _ hR e a) hnext
    rw [h3] at i1 i2 i3
    exact ⟨i1, i2, i3⟩

/-- Comparing `e` with `a` after the comparisons `ps`: in consistent-identity mode it is accepted
exactly when the texts agree once normalized, they have as many hashes, and one mapping agrees
with the pairings of their hashes and with every pairing the earlier comparisons recorded; in
plain mode exactly when the texts agree once normalized. -/
theorem Matcher.check_afterAll_iff (n : Normalizer) (ps : List (String × String)) (e a : String) :
    ((n.matcher.afterAll ps).check e a).1 = true ↔
      n.normalize e = n.normalize a ∧
        (n.consistent = true → (n.hashes e).length = (n.hashes a).length ∧
          ∃ f, Agrees f ((n.hashes e).zip (n.hashes a)) ∧ Agrees f (recorded n ps)) := by
  obtain ⟨hmem, hnorm, hfun⟩ := n.matcher.afterAll_spec ps functional_nil (fun _ => Iff.rfl)
  obtain ⟨h1, -, -⟩ := (n.matcher.afterAll ps).check_spec ((functional_congr hmem).mpr hfun) e a
  have hn : (n.matcher.afterAll ps).normalizer = n := hnorm
  have hpairs : ∀ zs, Functional ((n.matcher.afterAll ps).bindings ++ zs) ↔
      ∃ f, Agrees f zs ∧ Agrees f (recorded n ps) := by
    intro zs
    have hsame : ∀ p, p ∈ (n.matcher.afterAll ps).bindings ++ zs ↔ p ∈ recorded n ps ++ zs := by
      intro p
      simp only [List.mem_append, hmem]
      rfl
    rw [functional_congr hsame, functional_iff_exists_agrees]
    simp only [agrees_append, and_comm]
  rw [h1, hn, hpairs]

/-- The answers of a matcher to each comparison in turn. -/
def Matcher.checkAll : Matcher → List (String × String) → List Bool
  | _, [] => []
  | m, (e, a) :: ps => (m.check e a).1 :: (m.check e a).2.checkAll ps

/-- In consistent-identity mode, comparisons that were all accepted record all their hash
pairings, in order. -/
theorem recordedFrom_of_accepted {n : Normalizer} (hc : n.consistent = true)
    (ps : List (String × String)) {m : Matcher} {R : List (String × String)} (hR : Functional R)
    (hmem : ∀ p, p ∈ m.bindings ↔ p ∈ R) (hn : m.normalizer = n)
    (hacc : ∀ b ∈ m.checkAll ps, b = true) :
    recordedFrom n R ps = R ++ ps.flatMap fun (e, a) => (n.hashes e).zip (n.hashes a) := by
  induction ps generalizing m R with
  | nil => simp [recordedFrom]
  | cons z ps ih =>
    obtain ⟨e, a⟩ := z
    subst hn
    obtain ⟨h1, h2, h3⟩ := m.check_spec ((functional_congr hmem).mpr hR) e a
    have hok : (m.check e a).1 = true := hacc _ (by simp [Matcher.checkAll])
    obtain ⟨hnorm, hpairs⟩ := h1.mp hok
    obtain ⟨hlen, hfun⟩ := hpairs hc
    -- an accepted comparison records every pairing of its hashes
    have hnew : ∀ R', (∀ p, p ∈ m.bindings ↔ p ∈ R') →
        newPairings m.normalizer R' e a = (m.normalizer.hashes e).zip (m.normalizer.hashes a) := by
      intro R' hR'
      rw [newPairings, if_pos ⟨hc, hnorm, hlen⟩]
      exact keptPairings_eq_self ((functional_congr fun p => by simp [hR']).mp hfun)
    have hnext : ∀ p, p ∈ (m.check e a).2.bindings ↔
        p ∈ R ++ (m.normalizer.hashes e).zip (m.normalizer.hashes a) := by
      intro p
      rw [h2, hnew _ (fun _ => Iff.rfl)]
      simp [hmem]
    have hfun' : Functional (R ++ (m.normalizer.hashes e).zip (m.normalizer.hashes a)) := by
      simpa [hnew R hmem] using functional_append_newPairings m.normalizer hR e a
    have hrest := ih hfun' hnext h3 (fun b hb => hacc b (by simp [Matcher.checkAll, hb]))
    rw [recordedFrom, hnew R hmem, hrest]
    simp

/-- Within a run that stops at its first refusal, the pairings recorded are those of the
accepted comparisons: when a session's comparisons were all accepted in consistent-identity
mode, it has recorded every pairing of their hashes. -/
theorem recorded_of_accepted {n : Normalizer} (hc : n.consistent = true)
    (ps : List (String × String)) (hacc : ∀ b ∈ n.matcher.checkAll ps, b = true) :
    recorded n ps = ps.flatMap fun (e, a) => (n.hashes e).zip (n.hashes a) := by
  simpa [recorded] using recordedFrom_of_accepted hc ps functional_nil (fun _ => Iff.rfl) rfl hacc

/-- The normalizer of the pattern `@(?P<hash>[0-9]+)` with the placeholder `#`, in consistent
mode; its pattern is given by the tree it reads into. -/
def digitsAfterAt : Normalizer :=
  ⟨⟨Pattern.Program.ofNode (.group (some 0) (.concat [.char (.single '@'),
      .group (some 1) (.rep (.char (.range 48 57)) 1 none true)])), 2, [("hash", 1)]⟩,
    1, "#", true⟩

/-- A refused comparison keeps the binding it made before its conflict: `@1 @1` against `@5 @6`
binds `1` to `5` and is refused at the second pair, and then `@1` against `@7` is refused,
although the texts agree once normalized, have one hash each, and no accepted comparison paired
`1` with anything. -/
theorem refused_comparison_keeps_its_bindings :
    (digitsAfterAt.matcher.check "@1 @1" "@5 @6").1 = false ∧
      digitsAfterAt.normalize "@1" = digitsAfterAt.normalize "@7" ∧
      digitsAfterAt.hashes "@1" = ["1"] ∧ digitsAfterAt.hashes "@7" = ["7"] ∧
      Agrees (fun _ => "7") ((digitsAfterAt.hashes "@1").zip (digitsAfterAt.hashes "@7")) ∧
      ((digitsAfterAt.matcher.afterAll [("@1 @1", "@5 @6")]).check "@1" "@7").1 = false := by
  have h1 : digitsAfterAt.hashes "@1" = ["1"] := by decide +kernel
  have h7 : digitsAfterAt.hashes "@7" = ["7"] := by decide +kernel
  refine ⟨by decide +kernel, by decide +kernel, h1, h7, ?_, by decide +kernel⟩
  rw [h1, h7]
  simp [Agrees]

end TranscriptTest.Identity
