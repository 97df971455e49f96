/-
How far the arithmetic of doubles is off. A magnitude has a value (`Magnitude.value`), and the one nearest to a quotient
is off by half of its last place (`nearest_rounded`), so relative to the quotient by little (`nearest_error`). Main
statement: `nearest_lt_bound`, a quotient that is less than half a place above the largest finite double has a finite
double nearest to it.
-/
import Rollout.Number.Double
import Mathlib.Algebra.Order.Field.Power
import Mathlib.Tactic

namespace Rollout.Magnitude

/-! ## Shifts -/

theorem cast_shiftLeft (n k : ℕ) : ((n <<< k : ℕ) : ℚ) = n * 2 ^ k := by
  rw [Nat.shiftLeft_eq]
  push_cast
  rfl

/-- A shift to the left by an exponent, or of the other side by its opposite. -/
theorem div_shiftLeft (num den : ℕ) (e : ℤ) :
    ((num <<< e.toNat : ℕ) : ℚ) / ((den <<< (-e).toNat : ℕ) : ℚ) = num / den * 2 ^ e := by
  rw [cast_shiftLeft, cast_shiftLeft]
  rcases le_total 0 e with he | he
  · obtain ⟨n, rfl⟩ := Int.eq_ofNat_of_zero_le he
    rw [show (-(n : ℤ)).toNat = 0 by omega, Int.toNat_natCast, pow_zero, mul_one, zpow_natCast]
    ring
  · obtain ⟨n, rfl⟩ : ∃ n : ℕ, e = -(n : ℤ) := ⟨(-e).toNat, by omega⟩
    rw [show (-(n : ℤ)).toNat = 0 by omega, neg_neg, Int.toNat_natCast, pow_zero, mul_one, zpow_neg, zpow_natCast]
    field_simp

theorem two_zpow_pos (e : ℤ) : (0 : ℚ) < 2 ^ e := zpow_pos (by norm_num) e

/-! ## Values -/

/-- The number at a position. -/
def value (position : ℕ) : ℚ := (parts position).1 * 2 ^ (parts position).2

theorem ratio_eq_value (position : ℕ) : ((ratio position).1 : ℚ) / (ratio position).2 = value position := by
  unfold ratio value
  dsimp only
  rw [div_shiftLeft, Nat.cast_one, div_one]

theorem ratio_pos (position : ℕ) : 0 < (ratio position).2 := by
  unfold ratio
  dsimp only
  rw [Nat.shiftLeft_eq]
  positivity

theorem value_nonneg (position : ℕ) : 0 ≤ value position := by
  unfold value
  positivity

/-- A significand of 53 bits, or of fewer in the lowest binade, and even the next power of two. -/
theorem value_shifted {n q : ℕ} (hq : q ≤ 2 ^ 53) (hn : n = 0 ∨ 2 ^ 52 ≤ q) :
    value (n <<< 52 + q) = q * 2 ^ ((n : ℤ) - 1074) := by
  unfold value parts
  rw [Nat.shiftRight_eq_div_pow]
  simp only [Nat.shiftLeft_eq, one_mul]
  split_ifs with hlow
  · obtain rfl : n = 0 := by omega
    norm_num
  · rcases Nat.lt_or_ge q (2 ^ 53) with hlt | hge
    · obtain ⟨hrest, hbinade⟩ : (n * 2 ^ 52 + q) % 2 ^ 52 = q - 2 ^ 52 ∧ (n * 2 ^ 52 + q) / 2 ^ 52 = n + 1 := by omega
      have hfull : 2 ^ 52 + (q - 2 ^ 52) = q := by omega
      have hexponent : ((n + 1 : ℕ) : ℤ) - 1075 = (n : ℤ) - 1074 := by push_cast; ring
      rw [hrest, hbinade, hfull, hexponent]
    · obtain ⟨hrest, hbinade⟩ : (n * 2 ^ 52 + q) % 2 ^ 52 = 0 ∧ (n * 2 ^ 52 + q) / 2 ^ 52 = n + 2 := by omega
      have htop : (q : ℚ) = 2 ^ 53 := by exact_mod_cast Nat.le_antisymm hq hge
      have hexponent : ((n + 2 : ℕ) : ℤ) - 1075 = (n : ℤ) - 1074 + 1 := by push_cast; ring
      rw [hrest, hbinade, hexponent, zpow_add₀ (by norm_num), htop]
      push_cast
      ring

/-! ## Rounding -/

theorem roundHalfEven_error (num : ℕ) {den : ℕ} (hden : 0 < den) :
    |(roundHalfEven num den : ℚ) - num / den| ≤ 1 / 2 := by
  have hpos : (0 : ℚ) < den := by exact_mod_cast hden
  have hsplit : (num : ℚ) / den = (num / den : ℕ) + (num % den : ℕ) / (den : ℚ) := by
    have hdiv : (num : ℚ) = den * (num / den : ℕ) + (num % den : ℕ) := by exact_mod_cast (Nat.div_add_mod num den).symm
    rw [hdiv]
    field_simp
  have hlt : ((num % den : ℕ) : ℚ) / den < 1 := by
    rw [div_lt_one hpos]
    exact_mod_cast Nat.mod_lt num hden
  have hnonneg : (0 : ℚ) ≤ ((num % den : ℕ) : ℚ) / den := by positivity
  unfold roundHalfEven
  dsimp only
  rw [hsplit]
  split_ifs with hdown
  · have hhalf : ((num % den : ℕ) : ℚ) / den ≤ 1 / 2 := by
      rw [div_le_div_iff₀ hpos (by norm_num)]
      have htwice : 2 * (num % den) ≤ den := by
        simp only [Bool.or_eq_true, decide_eq_true_eq, Bool.and_eq_true, beq_iff_eq] at hdown
        omega
      have hcast : (2 : ℚ) * (num % den : ℕ) ≤ den := by exact_mod_cast htwice
      linarith
    rw [abs_le]
    constructor <;> linarith
  · have hhalf : 1 / 2 ≤ ((num % den : ℕ) : ℚ) / den := by
      rw [div_le_div_iff₀ (by norm_num) hpos]
      have htwice : den ≤ 2 * (num % den) := by
        simp only [Bool.or_eq_true, decide_eq_true_eq, Bool.and_eq_true, beq_iff_eq] at hdown
        omega
      have hcast : (den : ℚ) ≤ 2 * (num % den : ℕ) := by exact_mod_cast htwice
      linarith
    push_cast
    rw [abs_le]
    constructor <;> linarith

theorem shiftLeft_le_iff {num den : ℕ} (hnum : 0 < num) (hden : 0 < den) (e : ℤ) :
    den <<< e.toNat ≤ num <<< (-e).toNat ↔ (2 : ℚ) ^ e ≤ num / den := by
  have hpos : (0 : ℚ) < den := by exact_mod_cast hden
  have hpos' : (0 : ℚ) < num := by exact_mod_cast hnum
  have hshifted : (0 : ℚ) < ((num <<< (-e).toNat : ℕ) : ℚ) := by rw [cast_shiftLeft]; positivity
  calc den <<< e.toNat ≤ num <<< (-e).toNat
      ↔ ((den <<< e.toNat : ℕ) : ℚ) / ((num <<< (-e).toNat : ℕ) : ℚ) ≤ 1 := by
        rw [div_le_one hshifted]; exact Nat.cast_le.symm
    _ ↔ (den : ℚ) / num * 2 ^ e ≤ 1 := by rw [div_shiftLeft]
    _ ↔ (2 : ℚ) ^ e ≤ num / den := by
        rw [div_mul_eq_mul_div, div_le_one hpos', le_div_iff₀ hpos, mul_comm]

/-- The binade of a quotient. -/
theorem floorLog2_spec {num den : ℕ} (hnum : 0 < num) (hden : 0 < den) :
    (2 : ℚ) ^ floorLog2 num den ≤ num / den ∧ (num : ℚ) / den < 2 ^ (floorLog2 num den + 1) := by
  have hpos : (0 : ℚ) < den := by exact_mod_cast hden
  have hn : (2 : ℚ) ^ (num.log2 : ℤ) ≤ num ∧ (num : ℚ) < 2 ^ ((num.log2 : ℤ) + 1) := by
    rw [← Nat.cast_succ, zpow_natCast, zpow_natCast]
    exact ⟨by exact_mod_cast Nat.log2_self_le hnum.ne', by exact_mod_cast Nat.lt_log2_self⟩
  have hd : (2 : ℚ) ^ (den.log2 : ℤ) ≤ den ∧ (den : ℚ) < 2 ^ ((den.log2 : ℤ) + 1) := by
    rw [← Nat.cast_succ, zpow_natCast, zpow_natCast]
    exact ⟨by exact_mod_cast Nat.log2_self_le hden.ne', by exact_mod_cast Nat.lt_log2_self⟩
  generalize hguess : (num.log2 : ℤ) - den.log2 = guess
  have habove : (num : ℚ) / den < 2 ^ (guess + 1) := by
    rw [div_lt_iff₀ hpos]
    calc (num : ℚ) < 2 ^ ((num.log2 : ℤ) + 1) := hn.2
      _ = 2 ^ (guess + 1) * 2 ^ (den.log2 : ℤ) := by rw [← zpow_add₀ (by norm_num), ← hguess]; congr 1; ring
      _ ≤ 2 ^ (guess + 1) * den := mul_le_mul_of_nonneg_left hd.1 (two_zpow_pos _).le
  have hbelow : (2 : ℚ) ^ (guess - 1) ≤ num / den := by
    rw [le_div_iff₀ hpos]
    calc (2 : ℚ) ^ (guess - 1) * den ≤ 2 ^ (guess - 1) * 2 ^ ((den.log2 : ℤ) + 1) :=
          mul_le_mul_of_nonneg_left hd.2.le (two_zpow_pos _).le
      _ = 2 ^ (num.log2 : ℤ) := by rw [← zpow_add₀ (by norm_num), ← hguess]; congr 1; ring
      _ ≤ num := hn.1
  unfold floorLog2
  rw [hguess]
  dsimp only
  split_ifs with hfits
  · exact ⟨(shiftLeft_le_iff hnum hden guess).1 hfits, habove⟩
  · rw [shiftLeft_le_iff hnum hden, not_le] at hfits
    exact ⟨hbelow, by rw [sub_add_cancel]; exact hfits⟩

/-- The magnitude nearest to a quotient: a significand in a binade, off by at most half. -/
theorem nearest_rounded {num den : ℕ} (hnum : 0 < num) (hden : 0 < den) : ∃ n q : ℕ,
    nearest num den = n <<< 52 + q ∧ q ≤ 2 ^ 53 ∧
    (n = 0 ∨ 2 ^ 52 ≤ q ∧ (2 : ℚ) ^ ((n : ℤ) - 1022) ≤ num / den) ∧
    |(q : ℚ) - num / den / 2 ^ ((n : ℤ) - 1074)| ≤ 1 / 2 := by
  obtain ⟨hlow, hhigh⟩ := floorLog2_spec hnum hden
  generalize hexponent : max (floorLog2 num den - 52) (-1074) = e
  obtain ⟨n, rfl⟩ : ∃ n : ℕ, e = (n : ℤ) - 1074 := ⟨(e + 1074).toNat, by omega⟩
  have hscaled : ((num <<< (-((n : ℤ) - 1074)).toNat : ℕ) : ℚ) / ((den <<< ((n : ℤ) - 1074).toNat : ℕ) : ℚ) =
      num / den / 2 ^ ((n : ℤ) - 1074) := by
    have hshift := div_shiftLeft num den (-((n : ℤ) - 1074))
    rw [neg_neg] at hshift
    rw [hshift, zpow_neg, div_eq_mul_inv (num / den : ℚ)]
  have herror := roundHalfEven_error (num <<< (-((n : ℤ) - 1074)).toNat)
    (show 0 < den <<< ((n : ℤ) - 1074).toNat by rw [Nat.shiftLeft_eq]; positivity)
  rw [hscaled] at herror
  refine ⟨n, _, ?_, ?_, ?_, herror⟩
  · unfold nearest
    rw [if_neg hnum.ne']
    dsimp only
    rw [hexponent, sub_add_cancel, Int.toNat_natCast]
  all_goals generalize roundHalfEven _ _ = q at herror ⊢
  · -- the quotient lies below the next binade
    have hscaledHigh : (num : ℚ) / den / 2 ^ ((n : ℤ) - 1074) < 2 ^ 53 := by
      rw [div_lt_iff₀ (two_zpow_pos _), ← zpow_natCast, ← zpow_add₀ (by norm_num)]
      exact hhigh.trans_le (zpow_le_zpow_right₀ (by norm_num) (by push_cast; omega))
    have hq : (q : ℚ) < 2 ^ 53 + 1 := by linarith [(abs_le.1 herror).2]
    have hlt : q < 2 ^ 53 + 1 := by exact_mod_cast hq
    omega
  · by_cases hn : n = 0
    · exact .inl hn
    · have hbinade : (n : ℤ) - 1022 = floorLog2 num den := by omega
      have hscaledLow : (2 : ℚ) ^ 52 ≤ num / den / 2 ^ ((n : ℤ) - 1074) := by
        rw [le_div_iff₀ (two_zpow_pos _), ← zpow_natCast, ← zpow_add₀ (by norm_num)]
        rwa [show ((52 : ℕ) : ℤ) + ((n : ℤ) - 1074) = floorLog2 num den by push_cast; omega]
      refine .inr ⟨?_, by rw [hbinade]; exact hlow⟩
      have hq : (2 : ℚ) ^ 52 < q + 1 := by linarith [(abs_le.1 herror).1]
      have hlt : 2 ^ 52 < q + 1 := by exact_mod_cast hq
      omega

/-- The nearest magnitude is off by little of the quotient, or by half of the lowest place. -/
theorem nearest_error (num : ℕ) {den : ℕ} (hden : 0 < den) :
    |value (nearest num den) - num / den| ≤ num / den * 2 ^ (-53 : ℤ) + 2 ^ (-1075 : ℤ) := by
  rcases Nat.eq_zero_or_pos num with rfl | hnum
  · have hzero : value (nearest 0 den) = 0 := by
      unfold nearest value parts
      simp
    rw [hzero]
    simp
  obtain ⟨n, q, hnearest, hq, hbinade, herror⟩ := nearest_rounded hnum hden
  have hplace : (0 : ℚ) < 2 ^ ((n : ℤ) - 1074) := two_zpow_pos _
  have hquotient : (0 : ℚ) ≤ num / den := by positivity
  rw [hnearest, value_shifted hq (hbinade.imp_right (·.1))]
  calc |(q : ℚ) * 2 ^ ((n : ℤ) - 1074) - num / den|
      = |(q : ℚ) - num / den / 2 ^ ((n : ℤ) - 1074)| * 2 ^ ((n : ℤ) - 1074) := by
        rw [← abs_of_pos hplace, ← abs_mul, abs_of_pos hplace, sub_mul, div_mul_cancel₀ _ hplace.ne']
    _ ≤ 1 / 2 * 2 ^ ((n : ℤ) - 1074) := mul_le_mul_of_nonneg_right herror hplace.le
    _ ≤ num / den * 2 ^ (-53 : ℤ) + 2 ^ (-1075 : ℤ) := by
        have hrelative : (0 : ℚ) < 2 ^ (-53 : ℤ) := two_zpow_pos _
        have htiny : (0 : ℚ) < 2 ^ (-1075 : ℤ) := two_zpow_pos _
        rcases hbinade with rfl | ⟨-, hlow⟩
        · have hlowest : (2 : ℚ) ^ (((0 : ℕ) : ℤ) - 1074) = 2 ^ (-1075 : ℤ) * 2 := by
            rw [← zpow_add_one₀ (by norm_num)]; rfl
          rw [hlowest]
          linarith [mul_nonneg hquotient hrelative.le]
        · have hsplit : (2 : ℚ) ^ ((n : ℤ) - 1074) = 2 ^ ((n : ℤ) - 1022) * 2 ^ (-53 : ℤ) * 2 := by
            rw [← zpow_add₀ (by norm_num), ← zpow_add_one₀ (by norm_num)]; congr 1; ring
          rw [hsplit]
          linarith [mul_le_mul_of_nonneg_right hlow hrelative.le]

/-- Half a place above the largest finite double. -/
def limit : ℚ := (2 ^ 54 - 1) * 2 ^ 970

/-- Below the limit the nearest magnitude is that of a finite double. -/
theorem nearest_lt_bound {num den : ℕ} (hden : 0 < den) (h : (num : ℚ) / den < limit) : nearest num den < bound := by
  rcases Nat.eq_zero_or_pos num with rfl | hnum
  · rw [show nearest 0 den = 0 from rfl]
    decide
  obtain ⟨n, q, hnearest, hq, hbinade, herror⟩ := nearest_rounded hnum hden
  have hn : n < 2046 := by
    rcases hbinade with rfl | ⟨-, hlow⟩
    · norm_num
    · by_contra hge
      have htop : (2 : ℚ) ^ 54 * 2 ^ 970 ≤ 2 ^ ((n : ℤ) - 1022) := by
        rw [← pow_add, ← zpow_natCast]
        exact zpow_le_zpow_right₀ (by norm_num) (by push_cast; omega)
      have hpos : (0 : ℚ) < 2 ^ 970 := by positivity
      unfold limit at h
      generalize (2 : ℚ) ^ 970 = place at h htop hpos
      linarith
  have hbound : bound = 2047 * 2 ^ 52 := by rw [bound, Nat.shiftLeft_eq]
  rw [hnearest, hbound, Nat.shiftLeft_eq]
  -- in the highest binade the significand must not be rounded up to the next power of two
  rcases Nat.lt_or_ge n 2045 with hlow | hhigh
  · omega
  · obtain rfl : n = 2045 := by omega
    have hplace : (2 : ℚ) ^ (((2045 : ℕ) : ℤ) - 1074) = 2 ^ 971 := by
      rw [← zpow_natCast]; rfl
    have hscaled : (num : ℚ) / den / 2 ^ (((2045 : ℕ) : ℤ) - 1074) < 2 ^ 53 - 1 / 2 := by
      rw [hplace, div_lt_iff₀ (by positivity)]
      calc (num : ℚ) / den < limit := h
        _ = (2 ^ 53 - 1 / 2) * 2 ^ 971 := by
          rw [limit, pow_succ (2 : ℚ) 970]
          generalize (2 : ℚ) ^ 970 = place
          ring
    have hq : (q : ℚ) < 2 ^ 53 := by linarith [(abs_le.1 herror).2]
    have hlt : q < 2 ^ 53 := by exact_mod_cast hq
    omega

end Rollout.Magnitude
