/-
Two splits next to each other. The canary's count is no smaller for a larger weight and a larger full size
(`ReplicaSplit.canaryCount_le_canaryCount`), and grows by no more than the full size does
(`ReplicaSplit.canaryCount_sub_le`), which leaves the baseline no fewer. Main statement:
`ReplicaSplit.ofWeight_monotone`, with more weight the canary has no fewer replicas and the baseline no more, and at a
larger full size neither has fewer.
-/
import Rollout.Proofs.Routing.Proportion

namespace Rollout.ReplicaSplit

/-! ## Weights and full sizes -/

theorem percent_le_percent {w₁ w₂ : Int32} (h : w₁ ≤ w₂) : percent w₁ ≤ percent w₂ := by
  rw [Int32.le_iff_toInt_le] at h
  unfold percent
  omega

theorem full_le_full {m₁ m₂ : Int32} (h : m₁ ≤ m₂) : max 0 m₁.toInt ≤ max 0 m₂.toInt := by
  rw [Int32.le_iff_toInt_le] at h
  omega

/-! ## Counts -/

section Counts

variable {w₁ w₂ f₁ f₂ : Int} (given : Int)

theorem asked_le_asked (hw : 0 ≤ w₁) (hww : w₁ ≤ w₂) (hf : 0 ≤ f₁) (hff : f₁ ≤ f₂) :
    asked w₁ f₁ given ≤ asked w₂ f₂ given := by
  have hproduct : w₁ * f₁ ≤ w₂ * f₂ := mul_le_mul hww hff hf (hw.trans hww)
  unfold asked
  split <;> omega

/-- The canary is given no fewer for a larger weight and a larger full size. -/
theorem canaryCount_le_canaryCount (hw : 0 ≤ w₁) (hww : w₁ ≤ w₂) (hw' : w₂ ≤ 100) (hf : 0 ≤ f₁) (hff : f₁ ≤ f₂) :
    canaryCount w₁ f₁ given ≤ canaryCount w₂ f₂ given := by
  rw [canaryCount_eq_max given ⟨hw, hww.trans hw'⟩ hf, canaryCount_eq_max given ⟨hw.trans hww, hw'⟩ (hf.trans hff)]
  have hasked := asked_le_asked given hw hww hf hff
  refine max_le_max hasked ?_
  split <;> split <;> omega

variable {w : Int} (hw : 0 ≤ w ∧ w ≤ 100)

include hw

/-- A share grows by no more than the full size: it is a hundredth of it at most a hundred times. -/
theorem asked_sub_le (hff : f₁ ≤ f₂) : asked w f₂ given - asked w f₁ given ≤ f₂ - f₁ := by
  have hgrowth : w * (f₂ - f₁) ≤ 100 * (f₂ - f₁) := mul_le_mul_of_nonneg_right hw.2 (sub_nonneg.2 hff)
  rw [mul_sub] at hgrowth
  unfold asked
  split <;> omega

/-- Raising the count to one where there is traffic only takes from its growth. -/
theorem canaryCount_sub_le (hf : 0 ≤ f₁) (hff : f₁ ≤ f₂) :
    canaryCount w f₂ given - canaryCount w f₁ given ≤ f₂ - f₁ := by
  rw [canaryCount_eq_max given hw hf, canaryCount_eq_max given hw (hf.trans hff)]
  have hasked := asked_sub_le given hw hff
  omega

end Counts

section Left

variable {w₁ w₂ f₁ f₂ c₁ c₂ : Int}

/-- The baseline is left no more at a larger weight with a larger count of the canary. -/
theorem primaryCount_le_of_weight (f : Int) (hww : w₁ ≤ w₂) (hw' : w₂ ≤ 100) (hcc : c₁ ≤ c₂) :
    primaryCount w₂ f c₂ ≤ primaryCount w₁ f c₁ := by
  rw [primaryCount_eq_max f c₁ (hww.trans hw'), primaryCount_eq_max f c₂ hw']
  refine max_le_max (max_le_max (by omega) le_rfl) ?_
  split <;> split <;> omega

/-- The baseline is left no fewer at a larger full size, where the canary's count grows by no more. -/
theorem primaryCount_le_of_full {w : Int} (hw : w ≤ 100) (hcc : c₂ - c₁ ≤ f₂ - f₁) :
    primaryCount w f₁ c₁ ≤ primaryCount w f₂ c₂ := by
  rw [primaryCount_eq_max f₁ c₁ hw, primaryCount_eq_max f₂ c₂ hw]
  exact max_le_max (max_le_max (by omega) le_rfl) le_rfl

end Left

/-! ## Splits -/

/-- Whatever the full size and the canary's own count: a larger weight leaves the canary no fewer replicas and the
baseline no more. Whatever the weight and the canary's own count: a larger full size leaves neither fewer. -/
theorem ofWeight_monotone :
    (∀ {w₁ w₂ : Int32}, w₁ ≤ w₂ → ∀ maxReplicas canaryReplicas : Int32,
      (ofWeight w₁ maxReplicas canaryReplicas).canary ≤ (ofWeight w₂ maxReplicas canaryReplicas).canary ∧
      (ofWeight w₂ maxReplicas canaryReplicas).primary ≤ (ofWeight w₁ maxReplicas canaryReplicas).primary) ∧
    (∀ {m₁ m₂ : Int32}, m₁ ≤ m₂ → ∀ canaryWeight canaryReplicas : Int32,
      (ofWeight canaryWeight m₁ canaryReplicas).canary ≤ (ofWeight canaryWeight m₂ canaryReplicas).canary ∧
      (ofWeight canaryWeight m₁ canaryReplicas).primary ≤ (ofWeight canaryWeight m₂ canaryReplicas).primary) := by
  constructor
  · intro w₁ w₂ h maxReplicas canaryReplicas
    simp only [Int32.le_iff_toInt_le, toInt_canary, toInt_primary]
    have hfull := (full_bounds maxReplicas).1
    have hweight := percent_le_percent h
    have hcanary := canaryCount_le_canaryCount canaryReplicas.toInt (percent_bounds w₁).1 hweight
      (percent_bounds w₂).2 hfull le_rfl
    exact ⟨hcanary, primaryCount_le_of_weight _ hweight (percent_bounds w₂).2 hcanary⟩
  · intro m₁ m₂ h canaryWeight canaryReplicas
    simp only [Int32.le_iff_toInt_le, toInt_canary, toInt_primary]
    have hpercent := percent_bounds canaryWeight
    have hsize := full_le_full h
    have hfull := (full_bounds m₁).1
    exact ⟨canaryCount_le_canaryCount _ hpercent.1 le_rfl hpercent.2 hfull hsize,
      primaryCount_le_of_full hpercent.2 (canaryCount_sub_le _ hpercent hfull hsize)⟩

/-- From 49 to 99 percent of one replica both counts stand still, each being needed; at 99 percent a second replica
goes to the canary, and the baseline keeps its one. -/
theorem ofWeight_monotone_small :
    (49 : Int32) ≤ 99 ∧ (ofWeight 49 1 0).canary ≤ (ofWeight 99 1 0).canary ∧
      (ofWeight 99 1 0).primary ≤ (ofWeight 49 1 0).primary ∧
    (1 : Int32) ≤ 2 ∧ (ofWeight 99 1 0).canary ≤ (ofWeight 99 2 0).canary ∧
      (ofWeight 99 1 0).primary ≤ (ofWeight 99 2 0).primary := by
  have hweight : (49 : Int32) ≤ 99 := by decide
  have hfull : (1 : Int32) ≤ 2 := by decide
  exact ⟨hweight, (ofWeight_monotone.1 hweight 1 0).1, (ofWeight_monotone.1 hweight 1 0).2, hfull,
    (ofWeight_monotone.2 hfull 99 0).1, (ofWeight_monotone.2 hfull 99 0).2⟩

end Rollout.ReplicaSplit
