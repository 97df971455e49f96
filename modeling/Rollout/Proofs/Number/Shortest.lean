/-
The size of the shortest decimal. A decimal that is found on a grid lies between the ends of the double's interval
(`contains_iff`), and one that has lost its zeros is the same number (`withoutZeros_value`). Main statement:
`decimal_spec`, but for the three largest doubles the decimal of a double can be read as one.
-/
import Rollout.Number.Shortest
import Rollout.Proofs.Number.Literal

namespace Rollout.Shortest

open Magnitude Double

/-! ## Comparing -/

/-- Scaled numbers are compared as the numbers that they are. -/
theorem compareScaled_eq (digits : ℕ) (ten : ℤ) (quarters : ℕ) (two : ℤ) :
    compareScaled digits ten quarters two = compare ((digits : ℚ) * 10 ^ ten) (quarters * 2 ^ two) := by
  have hsplit : ∀ {b : ℚ}, b ≠ 0 → ∀ e : ℤ, b ^ e = b ^ e.toNat / b ^ (-e).toNat := by
    intro b hb e
    rw [← zpow_natCast, ← zpow_natCast, ← zpow_sub₀ hb]
    congr 1
    omega
  generalize hscale : ((10 : ℚ) ^ (-ten).toNat * 2 ^ (-two).toNat) = scale
  have hpos : 0 < scale := by rw [← hscale]; positivity
  have hmono : StrictMono fun n : ℕ => (n : ℚ) / scale :=
    fun _ _ h => div_lt_div_of_pos_right (by exact_mod_cast h) hpos
  have hdigits : (((digits * Nat.pow 10 ten.toNat) <<< (-two).toNat : ℕ) : ℚ) / scale = digits * 10 ^ ten := by
    rw [cast_shiftLeft, Nat.pow_eq, ← hscale, hsplit (by norm_num) ten]
    push_cast
    field_simp
  have hquarters : (((quarters * Nat.pow 10 (-ten).toNat) <<< two.toNat : ℕ) : ℚ) / scale = quarters * 2 ^ two := by
    rw [cast_shiftLeft, Nat.pow_eq, ← hscale, hsplit (by norm_num) two]
    push_cast
    field_simp
  unfold compareScaled
  rw [← hdigits, ← hquarters, ← cmp_eq_compare, ← cmp_eq_compare]
  exact (hmono.cmp_map_eq _ _).symm

/-! ## Intervals -/

theorem parts_pos {position : ℕ} (h : 0 < position) : 0 < (parts position).1 := by
  unfold parts
  split
  · exact h
  · exact Nat.add_pos_left (by decide) _

/-- The significand of a double has 53 bits; in the highest binade the three largest are those with the last ones. -/
theorem parts_lt {position : ℕ} (h : position < bound - 3) : (parts position).1 < 2 ^ 53 ∧
    ((parts position).2 ≤ 970 ∨ (parts position).2 = 971 ∧ (parts position).1 + 4 ≤ 2 ^ 53) := by
  have hbound : bound = 2047 * 2 ^ 52 := by rw [bound, Nat.shiftLeft_eq]
  unfold parts
  rw [Nat.shiftRight_eq_div_pow]
  simp only [Nat.shiftLeft_eq, one_mul]
  split_ifs with hlow
  · exact ⟨hlow, .inl (by norm_num)⟩
  · omega

namespace Interval

/-- Within the interval is what lies between its ends. -/
theorem between_of_contains {i : Interval} {digits : ℕ} {ten : ℤ} (h : i.contains digits ten = true) :
    (i.low : ℚ) * 2 ^ i.exponent ≤ digits * 10 ^ ten ∧ (digits : ℚ) * 10 ^ ten ≤ i.high * 2 ^ i.exponent := by
  unfold contains at h
  simp only [compareScaled_eq, Bool.and_eq_true, Bool.or_eq_true, beq_iff_eq, compare_gt_iff_gt, compare_lt_iff_lt,
    compare_eq_iff_eq] at h
  obtain ⟨hlow, hhigh⟩ := h
  exact ⟨hlow.elim le_of_lt fun h => h.2.ge, hhigh.elim le_of_lt fun h => h.2.le⟩

theorem low_pos {position : ℕ} (h : 0 < position) : 0 < (Interval.of position).low := by
  have hsignificand := parts_pos h
  unfold Interval.of
  dsimp only
  split <;> omega

/-- The upper end lies half a place above the double. -/
theorem high_eq (position : ℕ) : ((Interval.of position).high : ℚ) * 2 ^ (Interval.of position).exponent =
    ((parts position).1 + 1 / 2) * 2 ^ (parts position).2 := by
  unfold Interval.of
  dsimp only
  rw [zpow_sub₀ (by norm_num)]
  push_cast
  ring

/-- The three largest doubles aside, the interval of a double is one of safe numbers. -/
theorem high_le_safe {position : ℕ} (h : position < bound - 3) :
    ((Interval.of position).high : ℚ) * 2 ^ (Interval.of position).exponent ≤ safe := by
  have hplace : (0 : ℚ) < 2 ^ 970 := by positivity
  rw [high_eq, safe]
  obtain ⟨hm, hlow | ⟨htop, hm'⟩⟩ := parts_lt h
  · have hsignificand : ((parts position).1 : ℚ) + 1 / 2 ≤ 2 ^ 53 := by
      have hcast : ((parts position).1 : ℚ) + 1 ≤ 2 ^ 53 := by exact_mod_cast hm
      linarith
    have hexponent : (2 : ℚ) ^ (parts position).2 ≤ 2 ^ 970 := by
      rw [← zpow_natCast]
      exact zpow_le_zpow_right₀ (by norm_num) hlow
    calc ((parts position).1 + 1 / 2 : ℚ) * 2 ^ (parts position).2
        ≤ 2 ^ 53 * 2 ^ 970 := mul_le_mul hsignificand hexponent (two_zpow_pos _).le (by positivity)
      _ ≤ (2 ^ 54 - 7) * 2 ^ 970 := mul_le_mul_of_nonneg_right (by norm_num) hplace.le
  · have hsignificand : ((parts position).1 : ℚ) + 4 ≤ 2 ^ 53 := by exact_mod_cast hm'
    rw [htop, show (971 : ℤ) = ((970 : ℕ) : ℤ) + 1 by norm_num, zpow_add_one₀ (by norm_num), zpow_natCast]
    generalize (2 : ℚ) ^ 970 = place at hplace ⊢
    nlinarith

end Interval

/-! ## The decimal that is found -/

theorem contains_of_onGrid? {i : Interval} {ten : ℤ} {found : ℕ × ℤ} (h : onGrid? i ten = some found) :
    i.contains found.1 found.2 = true := by
  unfold onGrid? at h
  extract_lets below above at h
  split at h
  · cases h
  · rename_i hbelow _
    cases h
    exact hbelow
  · rename_i _ habove
    cases h
    exact habove
  · rename_i hbelow habove
    split at h
    · cases h
      exact hbelow
    · cases h
      exact habove
    · cases h
      dsimp only
      split
      · exact hbelow
      · exact habove

/-- A decimal without its zeros is the same number. -/
theorem withoutZeros_value : ∀ (fuel digits : ℕ) (ten : ℤ),
    ((withoutZeros fuel digits ten).1 : ℚ) * 10 ^ (withoutZeros fuel digits ten).2 = digits * 10 ^ ten
  | 0, _, _ => rfl
  | fuel + 1, digits, ten => by
    rw [withoutZeros]
    split_ifs with hzero
    · have htenth : digits = digits / 10 * 10 := by
        simp only [Bool.and_eq_true, decide_eq_true_eq] at hzero
        omega
      rw [withoutZeros_value fuel, zpow_add_one₀ (by norm_num)]
      conv_rhs => rw [htenth]
      push_cast
      ring
    · rfl

/-- The decimal of a double is found on a grid, or would be the double's numerator. -/
theorem decimal_cases (position : ℕ) :
    (∃ found ten, onGrid? (Interval.of position) ten = some found ∧
      decimal position = withoutZeros 20 found.1 found.2) ∨ decimal position = ((ratio position).1, 0) := by
  unfold decimal
  dsimp only
  split
  · rename_i digits ten hfound
    obtain ⟨count, -, hgrid⟩ := List.exists_of_findSome?_eq_some hfound
    exact .inl ⟨(digits, ten), _, hgrid, rfl⟩
  · exact .inr rfl

theorem pos_of_scaled_pos {digits : ℕ} {ten : ℤ} (h : 0 < (digits : ℚ) * 10 ^ ten) : 0 < digits := by
  rcases Nat.eq_zero_or_pos digits with rfl | hpos
  · simp at h
  · exact hpos

theorem small_le_safe : (2 : ℚ) ^ 53 ≤ safe := by
  have hplace : (2 : ℚ) ^ 53 ≤ 2 ^ 970 := pow_le_pow_right₀ (by norm_num) (by norm_num)
  have hpos : (0 : ℚ) < 2 ^ 970 := by positivity
  unfold safe
  generalize (2 : ℚ) ^ 970 = place at hplace hpos ⊢
  linarith

/-- The decimal of a double is a number above zero, and unless the double is one of the three largest, a safe one. -/
theorem decimal_spec {position : ℕ} (hpos : 0 < position) (h : position < bound - 3) :
    0 < (decimal position).1 ∧ ((decimal position).1 : ℚ) * 10 ^ (decimal position).2 ≤ safe := by
  rcases decimal_cases position with ⟨found, ten, hgrid, hdecimal⟩ | hdecimal
  · obtain ⟨hlow, hhigh⟩ := Interval.between_of_contains (contains_of_onGrid? hgrid)
    have hpositive : (0 : ℚ) < found.1 * 10 ^ found.2 := by
      refine lt_of_lt_of_le (mul_pos ?_ (two_zpow_pos _)) hlow
      exact_mod_cast Interval.low_pos hpos
    rw [← withoutZeros_value 20, ← hdecimal] at hpositive hhigh
    exact ⟨pos_of_scaled_pos hpositive, hhigh.trans (Interval.high_le_safe h)⟩
  · have hnumerator : (ratio position).1 = (parts position).1 * 2 ^ (parts position).2.toNat := Nat.shiftLeft_eq _ _
    rw [hdecimal, hnumerator]
    refine ⟨Nat.mul_pos (parts_pos hpos) (by positivity), ?_⟩
    rw [zpow_zero, mul_one]
    push_cast
    rcases le_or_gt 0 (parts position).2 with hwhole | hfraction
    · have hplace : (2 : ℚ) ^ (parts position).2.toNat = 2 ^ (parts position).2 := by
        rw [← zpow_natCast, Int.toNat_of_nonneg hwhole]
      rw [hplace]
      refine le_trans ?_ (Interval.high_le_safe h)
      rw [Interval.high_eq]
      exact mul_le_mul_of_nonneg_right (by linarith) (two_zpow_pos _).le
    · rw [Int.toNat_of_nonpos hfraction.le, pow_zero, mul_one]
      refine le_trans ?_ small_le_safe
      exact_mod_cast (parts_lt h).1.le

end Rollout.Shortest
