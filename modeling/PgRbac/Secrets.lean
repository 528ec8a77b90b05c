import PgRbac.Lib.Words
import PgRbac.LimiterKeys

/-!
# Secrets that are no powers

`_is_repeated_pattern` looks for the value inside its double.

* `repeated_iff_commute`     it is found where its two parts commute;
* `repeated_iff_power`       so the values found are the proper powers;
* `repeated_pattern_exact`   no accepted secret is a power of a shorter text.
-/

set_option linter.unusedVariables false

namespace PgRbac

open Fallible Words

theorem repeated_iff_occurs (value : List Char) : isRepeatedPattern value = true ↔
    ∃ i, 1 ≤ i ∧ i < value.length ∧ value <+: (value ++ value).drop i := by
  by_cases hnil : value = []
  · subst hnil
    constructor
    · intro h
      exact absurd h (by decide)
    · rintro ⟨i, _, hi, _⟩
      exact absurd hi (Nat.not_lt_zero i)
  have hpos : 0 < value.length := List.length_pos_iff.mpr hnil
  -- the second copy itself is always found
  have hlast : value.isPrefixOf ((value ++ value).drop value.length) = true := by
    rw [List.drop_left, List.isPrefixOf_iff_prefix]
  have hmem : value.length ∈ List.range' 1 value.length := by
    rw [List.mem_range'_1]
    omega
  unfold isRepeatedPattern
  rw [Bool.and_eq_true, decide_eq_true_eq, decide_eq_true_eq, ne_eq, ne_eq,
    List.find?_range'_eq_some]
  constructor
  · rintro ⟨-, hfound⟩
    by_contra hnone
    refine hfound ⟨hlast, hmem, fun j hj hlt => ?_⟩
    rw [Bool.not_eq_true']
    by_contra hoccurs
    rw [Bool.not_eq_false, List.isPrefixOf_iff_prefix] at hoccurs
    exact hnone ⟨j, hj, hlt, hoccurs⟩
  · rintro ⟨i, hi, hlt, hoccurs⟩
    refine ⟨hnil, ?_⟩
    rintro ⟨-, -, hfirst⟩
    have hmissed := hfirst i hi hlt
    rw [Bool.not_eq_true', ← Bool.not_eq_true, List.isPrefixOf_iff_prefix] at hmissed
    exact hmissed hoccurs

theorem repeated_iff_commute (value : List Char) : isRepeatedPattern value = true ↔
    ∃ i, 1 ≤ i ∧ i < value.length ∧
      value.take i ++ value.drop i = value.drop i ++ value.take i := by
  rw [repeated_iff_occurs]
  constructor
  · rintro ⟨i, hi, hlt, h⟩
    exact ⟨i, hi, hlt, (occurs_at (Nat.le_of_lt hlt)).mp h⟩
  · rintro ⟨i, hi, hlt, h⟩
    exact ⟨i, hi, hlt, (occurs_at (Nat.le_of_lt hlt)).mpr h⟩

theorem repeated_iff_power (value : List Char) : isRepeatedPattern value = true ↔
    ∃ t k, t ≠ [] ∧ 2 ≤ k ∧ value = power t k := by
  rw [repeated_iff_commute]
  constructor
  · rintro ⟨i, hi, hlt, h⟩
    have htake : value.take i ≠ [] := by
      rw [Ne, List.take_eq_nil_iff, not_or]
      exact ⟨by omega, List.length_pos_iff.mp (by omega)⟩
    have hdrop : value.drop i ≠ [] := by
      rw [Ne, List.drop_eq_nil_iff]
      omega
    obtain ⟨t, k, ht, hk, hpower⟩ := power_of_commute htake hdrop h
    exact ⟨t, k, ht, hk, (List.take_append_drop i value).symm.trans hpower⟩
  · rintro ⟨t, k, ht, hk, rfl⟩
    have htpos : 0 < t.length := List.length_pos_iff.mpr ht
    obtain ⟨n, rfl⟩ : ∃ n, k = n + 1 := ⟨k - 1, by omega⟩
    have hlt : t.length < (power t (n + 1)).length := by
      rw [length_power]
      exact (Nat.lt_mul_iff_one_lt_left htpos).mpr hk
    exact ⟨t.length, htpos, hlt, power_commute t n⟩

theorem secret_not_repeated {casefold : String → String} {secret fieldName : String}
    (h : validateSecuritySecret casefold secret fieldName = .ok ()) :
    secret.toList ≠ [] ∧ isRepeatedPattern secret.toList = false := by
  refine ⟨?_, ?_⟩
  · intro hnil
    have hlength := secret_length h
    rw [String.toList_eq_nil_iff.mp hnil] at hlength
    exact absurd hlength (by decide)
  · unfold validateSecuritySecret at h
    simp only [bind_ok, require_ok] at h
    obtain ⟨-, -, -, -, -, -, hstrong⟩ := h
    exact hstrong.2.2.2.2

/-- **repeated patterns are the proper powers, and no accepted secret is a power of a shorter
text** -/
theorem repeated_pattern_exact :
    (∀ value : List Char, isRepeatedPattern value = true ↔
      ∃ t k, t ≠ [] ∧ 2 ≤ k ∧ value = power t k) ∧
    ∀ (casefold : String → String) (secret fieldName : String),
      validateSecuritySecret casefold secret fieldName = .ok () →
        ∀ (t : List Char) (k : Nat), t.length < secret.toList.length →
          secret.toList ≠ power t k := by
  refine ⟨repeated_iff_power, ?_⟩
  intro casefold secret fieldName h t k hlt hpower
  obtain ⟨hnil, hnot⟩ := secret_not_repeated h
  have ht : t ≠ [] := by
    rintro rfl
    exact hnil (hpower.trans (power_nil k))
  have hk : 2 ≤ k := by
    by_contra hless
    have hlength : secret.toList.length ≤ 1 * t.length := by
      rw [hpower, length_power]
      exact Nat.mul_le_mul_right _ (by omega)
    omega
  rw [(repeated_iff_power _).mpr ⟨t, k, ht, hk, hpower⟩] at hnot
  exact Bool.noConfusion hnot

/-- two letters repeated, and a secret that is accepted -/
theorem repeated_pattern_exact_mixed :
    isRepeatedPattern "abcabc".toList = true ∧ isRepeatedPattern "abcab".toList = false ∧
      ∀ k, letterSettings.jwtSecret.toList ≠ power "0123".toList k := by
  have hexact := repeated_pattern_exact
  refine ⟨(hexact.1 _).mpr ⟨"abc".toList, 2, by decide, by decide, rfl⟩, by decide +kernel, ?_⟩
  intro k
  exact hexact.2 asciiCasefold _ "jwt_secret" letterSettings.jwt_ok _ k (by decide +kernel)

end PgRbac
