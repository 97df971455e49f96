/-
Literals that write a finite double. Reading one scales its leading digits by a power of ten: a scale down never leaves
the doubles (`exists_scale?_of_nonpos`), and a scale up does not where the number written stays a little below the
largest of them (`exists_scale?_of_le`). Main statement: `exists_ofLiteral?`, such a literal is that of a double.
-/
import Rollout.Proofs.Number.Rounding

namespace Rollout

namespace Magnitude

variable {a b : ℕ}

/-! ## Products and quotients -/

theorem product_lt_bound (h : value a * value b < limit) : product a b < bound := by
  refine nearest_lt_bound (Nat.mul_pos (ratio_pos a) (ratio_pos b)) ?_
  push_cast
  rwa [mul_div_mul_comm, ratio_eq_value, ratio_eq_value]

theorem ratio_quotient (hb : 0 < value b) : 0 < (ratio a).2 * (ratio b).1 ∧
    (((ratio a).1 * (ratio b).2 : ℕ) : ℚ) / (((ratio a).2 * (ratio b).1 : ℕ) : ℚ) = value a / value b := by
  have hnum : 0 < (ratio b).1 := by
    rw [← ratio_eq_value] at hb
    by_contra hzero
    rw [Nat.eq_zero_of_not_pos hzero] at hb
    simp at hb
  refine ⟨Nat.mul_pos (ratio_pos a) hnum, ?_⟩
  have ha : ((ratio a).2 : ℚ) ≠ 0 := by exact_mod_cast (ratio_pos a).ne'
  have hb' : ((ratio b).2 : ℚ) ≠ 0 := by exact_mod_cast (ratio_pos b).ne'
  have hb'' : ((ratio b).1 : ℚ) ≠ 0 := by exact_mod_cast hnum.ne'
  rw [← ratio_eq_value, ← ratio_eq_value]
  push_cast
  field_simp

theorem quotient_lt_bound (hb : 0 < value b) (h : value a / value b < limit) : quotient a b < bound := by
  obtain ⟨hden, hquotient⟩ := ratio_quotient (a := a) hb
  exact nearest_lt_bound hden (by rwa [hquotient])

/-! ## Coarse bounds -/

/-- Rounding at most doubles, but for the lowest place. -/
theorem value_nearest_le (num : ℕ) {den : ℕ} (hden : 0 < den) : value (nearest num den) ≤ 2 * (num / den) + 1 := by
  have hquotient : (0 : ℚ) ≤ num / den := by positivity
  have hrelative : (num : ℚ) / den * 2 ^ (-53 : ℤ) ≤ num / den :=
    mul_le_of_le_one_right hquotient (zpow_le_one_of_nonpos₀ (by norm_num) (by norm_num))
  have htiny : (2 : ℚ) ^ (-1075 : ℤ) ≤ 1 := zpow_le_one_of_nonpos₀ (by norm_num) (by norm_num)
  linarith [(abs_le.1 (nearest_error num hden)).2]

theorem value_quotient_le (hb : 0 < value b) : value (quotient a b) ≤ 2 * (value a / value b) + 1 := by
  obtain ⟨hden, hquotient⟩ := ratio_quotient (a := a) hb
  rw [← hquotient]
  exact value_nearest_le _ hden

/-- A power of ten is rounded to no less than half. -/
theorem half_le_value_tenTo (k : ℕ) : 1 / 2 ≤ value (tenTo k) := by
  have herror := (abs_le.1 (nearest_error (Nat.pow 10 k) Nat.one_pos)).1
  have hone : (1 : ℚ) ≤ (Nat.pow 10 k : ℕ) := by exact_mod_cast Nat.one_le_pow _ _ (by norm_num)
  have hrelative : (2 : ℚ) ^ (-53 : ℤ) ≤ 1 / 4 := by norm_num
  have htiny : (2 : ℚ) ^ (-1075 : ℤ) ≤ 1 / 4 := by
    calc (2 : ℚ) ^ (-1075 : ℤ) ≤ 2 ^ (-2 : ℤ) := zpow_le_zpow_right₀ (by norm_num) (by norm_num)
      _ = 1 / 4 := by norm_num
  have hscaled := mul_le_mul_of_nonneg_left hrelative (by linarith : (0 : ℚ) ≤ (Nat.pow 10 k : ℕ))
  rw [Nat.cast_one, div_one] at herror
  unfold tenTo
  generalize (2 : ℚ) ^ (-1075 : ℤ) = tiny at herror htiny
  generalize ((Nat.pow 10 k : ℕ) : ℚ) = power at herror hone hscaled
  generalize (2 : ℚ) ^ (-53 : ℤ) = relative at herror hscaled
  linarith

theorem small_lt_limit : (2 : ℚ) ^ 80 < limit := by
  have hplace : (2 : ℚ) ^ 80 ≤ 2 ^ 970 := pow_le_pow_right₀ (by norm_num) (by norm_num)
  have hpos : (0 : ℚ) < 2 ^ 80 := by positivity
  unfold limit
  generalize (2 : ℚ) ^ 970 = place at hplace ⊢
  generalize (2 : ℚ) ^ 80 = small at hplace hpos ⊢
  nlinarith

end Magnitude

namespace Double

open Magnitude

variable {significand : ℕ} {exponent : ℤ}

/-! ## Scaling -/

/-- What is scaled down stays a double. -/
theorem exists_scale?_of_nonpos (hs : significand < 2 ^ 64) (he : exponent ≤ 0) :
    ∃ position, scale? significand exponent = some position ∧ position < bound := by
  have hstart : value (nearest significand 1) ≤ 2 ^ 66 := by
    have hle := value_nearest_le significand Nat.one_pos
    have hs' : (significand : ℚ) ≤ 2 ^ 64 := by exact_mod_cast hs.le
    rw [Nat.cast_one, div_one] at hle
    linarith
  -- no power of ten is rounded to less than half, so a quotient is at most twice what is divided
  have hdivided : ∀ {start : ℕ} {size : ℚ}, value start ≤ size → ∀ k, value start / value (tenTo k) ≤ 2 * size := by
    intro start size hsize k
    have hten := half_le_value_tenTo k
    rw [div_le_iff₀ (by linarith)]
    nlinarith [value_nonneg start]
  have hpositive : ∀ k, 0 < value (tenTo k) := fun k => by linarith [half_le_value_tenTo k]
  have hlimit := small_lt_limit
  unfold scale?
  dsimp only
  split_ifs with hup hshift hzero hshift hfar
  · refine ⟨_, rfl, product_lt_bound ?_⟩
    rw [show exponent.natAbs = 0 by omega]
    have hone : value (tenTo 0) ≤ 2 * ((Nat.pow 10 0 : ℕ) / ((1 : ℕ) : ℚ)) + 1 := value_nearest_le _ Nat.one_pos
    norm_num at hone
    nlinarith [value_nonneg (nearest significand 1), value_nonneg (tenTo 0)]
  · exact ⟨0, rfl, by decide⟩
  · omega
  · exact ⟨_, rfl, quotient_lt_bound (hpositive _) (by linarith [hdivided hstart exponent.natAbs])⟩
  · have hfirst := value_quotient_le (a := nearest significand 1) (hpositive 308)
    have hsecond := hdivided (hfirst.trans (by linarith [hdivided hstart 308] : _ ≤ (2 : ℚ) ^ 70))
      (exponent.natAbs - 308)
    exact ⟨_, rfl, quotient_lt_bound (hpositive _) (by linarith)⟩
  · exact ⟨0, rfl, by decide⟩

/-- Three places and a half below the largest power of two. -/
def safe : ℚ := (2 ^ 54 - 7) * 2 ^ 970

theorem safe_lt : safe < 10 ^ 309 := by
  have htop : (2 : ℚ) ^ 54 * 2 ^ 970 < 10 ^ 309 := by
    rw [← pow_add]
    exact_mod_cast (show 2 ^ (54 + 970) < 10 ^ 309 by decide +kernel)
  have hpos : (0 : ℚ) < 2 ^ 970 := by positivity
  unfold safe
  generalize (2 : ℚ) ^ 970 = place at htop hpos ⊢
  generalize (10 : ℚ) ^ 309 = top at htop ⊢
  linarith

/-- One rounding and one more, both up, do not lead from a safe number to the limit. -/
theorem safe_rounded : safe * (1 + 2 ^ (-53 : ℤ) + 2 ^ (-60 : ℤ)) ^ 2 < limit := by
  have hpos : (0 : ℚ) < 2 ^ 970 := by positivity
  unfold safe limit
  generalize (2 : ℚ) ^ 970 = place at hpos ⊢
  norm_num
  linarith

/-- What is at least one is rounded up by little. -/
theorem value_nearest_one_le {n : ℕ} (hn : 1 ≤ n) :
    value (nearest n 1) ≤ n * (1 + 2 ^ (-53 : ℤ) + 2 ^ (-60 : ℤ)) := by
  have hone : (1 : ℚ) ≤ n := by exact_mod_cast hn
  have htiny : (2 : ℚ) ^ (-1075 : ℤ) ≤ 2 ^ (-60 : ℤ) := zpow_le_zpow_right₀ (by norm_num) (by norm_num)
  have hpos : (0 : ℚ) < 2 ^ (-60 : ℤ) := two_zpow_pos _
  have herror := (abs_le.1 (nearest_error n Nat.one_pos)).2
  rw [Nat.cast_one, div_one] at herror
  generalize (2 : ℚ) ^ (-1075 : ℤ) = tiny at htiny herror
  nlinarith

/-- What is scaled up to a safe number stays a double. -/
theorem exists_scale?_of_le (he : 0 < exponent) (h : significand * (10 : ℚ) ^ exponent ≤ safe) :
    ∃ position, scale? significand exponent = some position ∧ position < bound := by
  obtain ⟨k, rfl⟩ := Int.eq_ofNat_of_zero_le he.le
  rw [zpow_natCast] at h
  unfold scale?
  dsimp only
  rw [if_pos he.le, Int.natAbs_natCast]
  rcases Nat.eq_zero_or_pos significand with rfl | hs
  · rw [if_pos rfl]
    split_ifs
    · refine ⟨_, rfl, product_lt_bound ?_⟩
      rw [show value (nearest 0 1) = 0 by simp [nearest, value, parts], zero_mul]
      exact (pow_pos (by norm_num) 80).trans small_lt_limit
    · exact ⟨0, rfl, by decide⟩
  · have hone : (1 : ℚ) ≤ significand := by exact_mod_cast hs
    have hten : (1 : ℚ) ≤ 10 ^ k := one_le_pow₀ (by norm_num)
    have hk : k ≤ 308 := by
      by_contra hk
      have hpow : (10 : ℚ) ^ 309 ≤ 10 ^ k := pow_le_pow_right₀ (by norm_num) (by omega)
      have hsafe := safe_lt
      generalize (10 : ℚ) ^ 309 = top at hpow hsafe
      nlinarith
    rw [if_pos hk]
    refine ⟨_, rfl, product_lt_bound ?_⟩
    have hstart := value_nearest_one_le hs
    have hscale := value_nearest_one_le (Nat.one_le_pow k 10 (by norm_num))
    push_cast at hscale
    calc value (nearest significand 1) * value (tenTo k)
        ≤ significand * (1 + 2 ^ (-53 : ℤ) + 2 ^ (-60 : ℤ)) * (10 ^ k * (1 + 2 ^ (-53 : ℤ) + 2 ^ (-60 : ℤ))) :=
          mul_le_mul hstart hscale (value_nonneg _) (by positivity)
      _ = significand * 10 ^ k * (1 + 2 ^ (-53 : ℤ) + 2 ^ (-60 : ℤ)) ^ 2 := by ring
      _ ≤ safe * (1 + 2 ^ (-53 : ℤ) + 2 ^ (-60 : ℤ)) ^ 2 := mul_le_mul_of_nonneg_right h (by positivity)
      _ < limit := safe_rounded

/-! ## Reading -/

variable {negative : Bool} {start : ℕ} {digits whole fraction : List ℕ}

/-- The number that digits write behind those read so far. -/
def written (start : ℕ) (digits : List ℕ) : ℕ := digits.foldl (fun n d => n * 10 + d) start

theorem written_append (start : ℕ) (digits more : List ℕ) :
    written start (digits ++ more) = written (written start digits) more := List.foldl_append

theorem le_written : ∀ (start : ℕ) (digits : List ℕ), start * 10 ^ digits.length ≤ written start digits
  | start, [] => by simp [written]
  | start, digit :: rest => by
    have hrest := le_written (start * 10 + digit) rest
    have hstart : start * 10 ^ (digit :: rest).length ≤ (start * 10 + digit) * 10 ^ rest.length := by
      rw [List.length_cons, pow_succ']
      nlinarith [Nat.zero_le (digit * 10 ^ rest.length)]
    exact hstart.trans hrest

theorem written_lt : ∀ (start : ℕ) {digits : List ℕ}, (∀ d ∈ digits, d < 10) →
    written start digits < (start + 1) * 10 ^ digits.length
  | start, [], _ => by simp [written]
  | start, digit :: rest, h => by
    have hdigit : digit < 10 := h digit (List.mem_cons_self ..)
    have hrest := written_lt (start * 10 + digit) fun d hd => h d (List.mem_cons_of_mem _ hd)
    calc written start (digit :: rest) < (start * 10 + digit + 1) * 10 ^ rest.length := hrest
      _ ≤ ((start + 1) * 10) * 10 ^ rest.length := Nat.mul_le_mul_right _ (by omega)
      _ = (start + 1) * 10 ^ (digit :: rest).length := by rw [List.length_cons, pow_succ', Nat.mul_assoc]

/-- Digits of a number that fits are all read. -/
theorem leadingDigits_of_lt : ∀ {start : ℕ} {digits : List ℕ}, written start digits < 2 ^ 64 →
    leadingDigits start digits = (written start digits, [])
  | start, [], _ => rfl
  | start, digit :: rest, h => by
    have hle : start * 10 + digit ≤ written (start * 10 + digit) rest :=
      (Nat.le_mul_of_pos_right _ (by positivity)).trans (le_written _ rest)
    have hlt : written (start * 10 + digit) rest < 2 ^ 64 := h
    rw [leadingDigits, if_pos (show start * 10 + digit < UInt64.size from hle.trans_lt hlt)]
    exact leadingDigits_of_lt hlt

/-- What is read of digits fits, and they write no less than it with zeros for those left over. -/
theorem leadingDigits_spec : ∀ {start : ℕ} (digits : List ℕ), start < 2 ^ 64 →
    (leadingDigits start digits).1 < 2 ^ 64 ∧ (leadingDigits start digits).2.length ≤ digits.length ∧
      (leadingDigits start digits).1 * 10 ^ (leadingDigits start digits).2.length ≤ written start digits
  | start, [], h => ⟨h, Nat.le_refl 0, by simp [leadingDigits, written]⟩
  | start, digit :: rest, h => by
    rw [leadingDigits]
    split_ifs with hfits
    · obtain ⟨hlt, hlength, hle⟩ := leadingDigits_spec rest hfits
      exact ⟨hlt, Nat.le_succ_of_le hlength, hle⟩
    · exact ⟨h, Nat.le_refl _, le_written start (digit :: rest)⟩

/-- A literal writes a double, if its places before the point fit, and it has no exponent that leads to the end of the
doubles. -/
theorem exists_ofLiteral? (hwhole : written 0 whole < 2 ^ 64)
    (h : exponent ≤ 0 ∨ (written 0 (whole ++ fraction) : ℚ) * 10 ^ (exponent - fraction.length) ≤ safe) :
    ∃ x, ofLiteral? negative whole fraction exponent = some x := by
  obtain ⟨hlt, hlength, hle⟩ := leadingDigits_spec fraction hwhole
  have hscaled : ∃ position, scale? (leadingDigits (written 0 whole) fraction).1
      ((0 : ℕ) - (fraction.length - (leadingDigits (written 0 whole) fraction).2.length : ℕ) + exponent) =
        some position ∧ position < bound := by
    generalize leadingDigits (written 0 whole) fraction = read at hlt hlength hle ⊢
    rcases le_or_gt ((0 : ℕ) - (fraction.length - read.2.length : ℕ) + exponent) 0 with hdown | hup
    · exact exists_scale?_of_nonpos hlt hdown
    · refine exists_scale?_of_le hup ?_
      have hexponent : ((0 : ℕ) : ℤ) - (fraction.length - read.2.length : ℕ) + exponent =
          read.2.length + (exponent - fraction.length) := by omega
      have hread : (read.1 : ℚ) * 10 ^ read.2.length ≤ written 0 (whole ++ fraction) := by
        rw [written_append]
        exact_mod_cast hle
      calc (read.1 : ℚ) * 10 ^ (((0 : ℕ) : ℤ) - (fraction.length - read.2.length : ℕ) + exponent)
          = read.1 * 10 ^ read.2.length * 10 ^ (exponent - fraction.length) := by
            rw [hexponent, zpow_add₀ (by norm_num), zpow_natCast, mul_assoc]
        _ ≤ written 0 (whole ++ fraction) * 10 ^ (exponent - fraction.length) :=
            mul_le_mul_of_nonneg_right hread (by positivity)
        _ ≤ safe := h.resolve_left (by omega)
  obtain ⟨position, hposition, hbound⟩ := hscaled
  refine ⟨⟨negative, position, hbound⟩, ?_⟩
  unfold ofLiteral?
  rw [leadingDigits_of_lt hwhole]
  dsimp only
  rw [List.length_nil, hposition]
  exact dif_pos hbound

end Double

end Rollout
