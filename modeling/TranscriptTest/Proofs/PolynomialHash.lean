import Mathlib.Algebra.BigOperators.Intervals
import Mathlib.Data.Nat.Digits.Defs
import Mathlib.Data.Nat.ModEq
import TranscriptTest.Transcript.Emit

/-!
# The hash that names stand-alone files

The hash of a text folds `h * 31 + u` over its UTF-16 units, modulo 2^32. Unrolled, it is the
polynomial in 31 whose coefficients are the units, the first unit weighing most, reduced once
at the end (`transcriptHash_toNat`). So the hash of two texts joined is the first one's hash
shifted by the second's length, plus the second's (`transcriptHash_append`), and a file name
shows the hash as exactly eight lower-case hexadecimal digits (`fileNameFor_hexDigits`).
-/

namespace TranscriptTest.Transcript

open TranscriptTest.Text

/-! ## The polynomial -/

/-- The units weighted by powers of 31: the last by `31 ^ 0`, the first by `31 ^ (n - 1)`. -/
def weightedSum31 (us : List Nat) : Nat :=
  ∑ i ∈ Finset.range us.length, us.getD i 0 * 31 ^ (us.length - 1 - i)

theorem weightedSum31_cons (u : Nat) (us : List Nat) :
    weightedSum31 (u :: us) = u * 31 ^ us.length + weightedSum31 us := by
  rw [weightedSum31, List.length_cons, Finset.sum_range_succ', add_comm]
  simp only [List.getD_cons_zero, List.getD_cons_succ, weightedSum31]
  congr 1
  refine Finset.sum_congr rfl fun i _ => ?_
  congr 2
  omega

/-- Folding from any start `h` shifts `h` past the units and adds their polynomial. -/
theorem foldl_hashStep_toNat (us : List Nat) (h : UInt32) :
    (us.foldl (fun h u => h * 31 + u.toUInt32) h).toNat =
      (h.toNat * 31 ^ us.length + weightedSum31 us) % 2 ^ 32 := by
  induction us generalizing h with
  | nil => simp [weightedSum31, Nat.mod_eq_of_lt h.toNat_lt]
  | cons u us ih =>
    rw [List.foldl_cons, ih, weightedSum31_cons]
    -- each step reduces modulo 2^32, which the final reduction absorbs
    have hstep : (h * 31 + u.toUInt32).toNat ≡ h.toNat * 31 + u [MOD 2 ^ 32] := by
      simp only [UInt32.toNat_add, UInt32.toNat_mul, Nat.toUInt32_eq, UInt32.toNat_ofNat']
      exact (Nat.mod_modEq _ _).trans (((Nat.mod_modEq _ _).add (Nat.mod_modEq _ _)))
    calc (h * 31 + u.toUInt32).toNat * 31 ^ us.length + weightedSum31 us
        ≡ (h.toNat * 31 + u) * 31 ^ us.length + weightedSum31 us [MOD 2 ^ 32] :=
          (hstep.mul_right _).add_right _
      _ = h.toNat * 31 ^ (us.length + 1) + (u * 31 ^ us.length + weightedSum31 us) := by ring

/-- The hash is the polynomial of the UTF-16 units, modulo 2^32. -/
theorem transcriptHash_toNat (s : String) :
    (transcriptHash s).toNat = weightedSum31 (units16 s) % 2 ^ 32 := by
  simpa [transcriptHash, hash31] using foldl_hashStep_toNat (units16 s) 0

theorem units16_append (s t : String) : units16 (s ++ t) = units16 s ++ units16 t := by
  simp [units16]

/-- The hash of two texts joined, from the hashes of the two. -/
theorem transcriptHash_append (s t : String) :
    (transcriptHash (s ++ t)).toNat =
      ((transcriptHash s).toNat * 31 ^ (units16 t).length + (transcriptHash t).toNat) % 2 ^ 32 := by
  rw [transcriptHash_toNat t, Nat.add_mod_mod]
  simp only [transcriptHash, hash31, units16_append, List.foldl_append]
  exact foldl_hashStep_toNat _ _

/-! ## File names -/

/-- The lower-case hexadecimal digits, each at the place of its value. -/
def hexDigits : List Char := "0123456789abcdef".toList

/-- The number that lower-case hexadecimal digits spell. -/
def hexNumber (ds : List Char) : Nat :=
  ds.foldl (fun v c => 16 * v + hexDigits.idxOf c) 0

theorem hexNumber_append_singleton (ds : List Char) (c : Char) :
    hexNumber (ds ++ [c]) = 16 * hexNumber ds + hexDigits.idxOf c := by
  simp [hexNumber]

/-- A digit below sixteen is a lower-case hexadecimal digit and reads back as itself. -/
theorem digitChar_hex {d : Nat} (hd : d < 16) :
    Nat.digitChar d ∈ hexDigits ∧ hexDigits.idxOf (Nat.digitChar d) = d := by
  have key : ∀ d < 16, Nat.digitChar d ∈ hexDigits ∧ hexDigits.idxOf (Nat.digitChar d) = d := by
    decide +kernel
  exact key d hd

theorem hexNumber_replicate_zero_append (k : Nat) (ds : List Char) :
    hexNumber (List.replicate k '0' ++ ds) = hexNumber ds := by
  have hz : (List.replicate k '0').foldl (fun v c => 16 * v + hexDigits.idxOf c) 0 = 0 := by
    induction k with
    | zero => rfl
    | succ k ih =>
      rw [List.replicate_succ', List.foldl_append, ih]
      exact (digitChar_hex (d := 0) (by norm_num)).2
  simp only [hexNumber, List.foldl_append, hz]

/-- Base-16 digits are lower-case hexadecimal digits that spell the number. -/
theorem toDigits_hex (n : Nat) :
    (∀ c ∈ Nat.toDigits 16 n, c ∈ hexDigits) ∧ hexNumber (Nat.toDigits 16 n) = n := by
  induction n using Nat.strong_induction_on with
  | _ n ih =>
    rw [Nat.toDigits_eq_if (by norm_num)]
    split
    case isTrue hn =>
      obtain ⟨hmem, hval⟩ := digitChar_hex hn
      simpa [hexNumber, hval] using hmem
    case isFalse hn =>
      obtain ⟨hmem, hval⟩ := ih (n / 16) (by omega)
      obtain ⟨hc, hcval⟩ := digitChar_hex (Nat.mod_lt n (by norm_num : 16 > 0))
      refine ⟨fun c hc' => ?_, ?_⟩
      · rcases List.mem_append.mp hc' with h | h
        · exact hmem c h
        · rw [List.mem_singleton.mp h]; exact hc
      · rw [hexNumber_append_singleton, hval, hcval, Nat.div_add_mod]

/-- A file name is `test-`, eight lower-case hexadecimal digits that spell the hash of the
session's text, and `.js`. -/
theorem fileNameFor_hexDigits (se : Session) (p : Prompts) :
    ∃ ds : List Char, ds.length = 8 ∧ (∀ c ∈ ds, c ∈ hexDigits) ∧
      hexNumber ds = (transcriptHash (emit se none p)).toNat ∧
      fileNameFor se p = "test-" ++ String.ofList ds ++ ".js" := by
  set n := (transcriptHash (emit se none p)).toNat
  have hlen : (Nat.toDigits 16 n).length ≤ 8 :=
    Nat.toDigits_length 16 n 8 (by norm_num) (by simpa [n] using UInt32.toNat_lt _)
  obtain ⟨hmem, hval⟩ := toDigits_hex n
  refine ⟨List.replicate (8 - (Nat.toDigits 16 n).length) '0' ++ Nat.toDigits 16 n,
    by simp; omega, fun c hc => ?_, by rw [hexNumber_replicate_zero_append, hval], rfl⟩
  rcases List.mem_append.mp hc with h | h
  · rw [List.eq_of_mem_replicate h]; decide
  · exact hmem c h

/-- The hash of a text is the polynomial in 31 of its UTF-16 units modulo 2^32, the hash of two
texts joined follows from theirs, and a file name is `test-`, eight lower-case hexadecimal
digits of the hash and `.js`. -/
theorem transcriptHash_polynomial :
    (∀ s : String, (transcriptHash s).toNat =
        (∑ i ∈ Finset.range (units16 s).length,
          (units16 s).getD i 0 * 31 ^ ((units16 s).length - 1 - i)) % 2 ^ 32) ∧
    (∀ s t : String, (transcriptHash (s ++ t)).toNat =
        ((transcriptHash s).toNat * 31 ^ (units16 t).length + (transcriptHash t).toNat) % 2 ^ 32) ∧
    (∀ (se : Session) (p : Prompts), ∃ ds : List Char, ds.length = 8 ∧
        (∀ c ∈ ds, c ∈ hexDigits) ∧ hexNumber ds = (transcriptHash (emit se none p)).toNat ∧
        fileNameFor se p = "test-" ++ String.ofList ds ++ ".js") :=
  ⟨transcriptHash_toNat, transcriptHash_append, fileNameFor_hexDigits⟩

end TranscriptTest.Transcript
