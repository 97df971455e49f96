/-
The replica counts of a split. They fit their type (`ReplicaSplit.toInt_canary`,
`ReplicaSplit.toInt_primary`), are never negative, and are at least one wherever traffic goes: for
the canary from a weight of one on, for the baseline up to a weight of 99.
-/
import Rollout.Routing.Split
import Mathlib.Tactic

namespace Rollout.ReplicaSplit

theorem percent_bounds (weight : Int32) : 0 ≤ percent weight ∧ percent weight ≤ 100 := by
  unfold percent; omega

/-! ## Counts -/

section Counts

variable {weight full canaryReplicas canary : Int}

/-- The canary's count before it is seen to that traffic finds a replica. -/
def asked (weight full canaryReplicas : Int) : Int :=
  if 0 < canaryReplicas then canaryReplicas else (weight * full + 99) / 100

theorem canaryCount_eq : canaryCount weight full canaryReplicas =
    if asked weight full canaryReplicas = 0 ∧ 0 < weight then 1 else asked weight full canaryReplicas := rfl

/-- A share of the full size does not exceed it. -/
theorem share_bounds (hw : 0 ≤ weight ∧ weight ≤ 100) (hf : 0 ≤ full) :
    0 ≤ (weight * full + 99) / 100 ∧ (weight * full + 99) / 100 ≤ full := by
  -- the product is bounded first: the quotient is then linear in it
  have h₁ : 0 ≤ weight * full := mul_nonneg hw.1 hf
  have h₂ : weight * full ≤ 100 * full := mul_le_mul_of_nonneg_right hw.2 hf
  omega

theorem asked_nonneg (canaryReplicas : Int) (hw : 0 ≤ weight ∧ weight ≤ 100) (hf : 0 ≤ full) :
    0 ≤ asked weight full canaryReplicas := by
  have h := share_bounds hw hf
  unfold asked
  split <;> omega

theorem canaryCount_bounds (hw : 0 ≤ weight ∧ weight ≤ 100) (hf : 0 ≤ full) (hf' : full < 2 ^ 31)
    (hr : canaryReplicas < 2 ^ 31) :
    0 ≤ canaryCount weight full canaryReplicas ∧ canaryCount weight full canaryReplicas < 2 ^ 31 := by
  have h := asked_nonneg canaryReplicas hw hf
  have h' : asked weight full canaryReplicas < 2 ^ 31 := by
    have hshare := share_bounds hw hf
    unfold asked
    split <;> omega
  rw [canaryCount_eq]
  split <;> omega

theorem one_le_canaryCount (hw : 0 < weight) (hw' : weight ≤ 100) (hf : 0 ≤ full) :
    1 ≤ canaryCount weight full canaryReplicas := by
  have h := asked_nonneg canaryReplicas ⟨hw.le, hw'⟩ hf
  rw [canaryCount_eq]
  split <;> omega

theorem primaryCount_bounds (weight : Int) (hf' : full < 2 ^ 31) (hc : 0 ≤ canary) :
    0 ≤ primaryCount weight full canary ∧ primaryCount weight full canary < 2 ^ 31 := by
  unfold primaryCount
  simp only
  split <;> omega

theorem one_le_primaryCount (hw : weight ≠ 100) : 1 ≤ primaryCount weight full canary := by
  unfold primaryCount
  simp only
  split <;> omega

end Counts

/-! ## The split -/

section Split

variable (weight maxReplicas canaryReplicas : Int32)

theorem full_bounds : 0 ≤ max 0 maxReplicas.toInt ∧ max 0 maxReplicas.toInt < 2 ^ 31 := by
  have h := maxReplicas.toInt_lt
  omega

/-- What the canary is given fits its type. -/
theorem canaryCount_fits :
    0 ≤ canaryCount (percent weight) (max 0 maxReplicas.toInt) canaryReplicas.toInt ∧
      canaryCount (percent weight) (max 0 maxReplicas.toInt) canaryReplicas.toInt < 2 ^ 31 := by
  have hfull := full_bounds maxReplicas
  exact canaryCount_bounds (percent_bounds weight) hfull.1 hfull.2 canaryReplicas.toInt_lt

/-- So does what is left to the baseline. -/
theorem primaryCount_fits :
    0 ≤ primaryCount (percent weight) (max 0 maxReplicas.toInt)
        (canaryCount (percent weight) (max 0 maxReplicas.toInt) canaryReplicas.toInt) ∧
      primaryCount (percent weight) (max 0 maxReplicas.toInt)
        (canaryCount (percent weight) (max 0 maxReplicas.toInt) canaryReplicas.toInt) < 2 ^ 31 := by
  have hcanary := canaryCount_fits weight maxReplicas canaryReplicas
  exact primaryCount_bounds _ (full_bounds maxReplicas).2 hcanary.1

theorem toInt_canary : (ofWeight weight maxReplicas canaryReplicas).canary.toInt =
    canaryCount (percent weight) (max 0 maxReplicas.toInt) canaryReplicas.toInt := by
  have h := canaryCount_fits weight maxReplicas canaryReplicas
  exact Int32.toInt_ofInt_of_le (by omega) h.2

theorem toInt_primary : (ofWeight weight maxReplicas canaryReplicas).primary.toInt =
    primaryCount (percent weight) (max 0 maxReplicas.toInt)
      (canaryCount (percent weight) (max 0 maxReplicas.toInt) canaryReplicas.toInt) := by
  have h := primaryCount_fits weight maxReplicas canaryReplicas
  exact Int32.toInt_ofInt_of_le (by omega) h.2

theorem canary_nonneg : 0 ≤ (ofWeight weight maxReplicas canaryReplicas).canary := by
  rw [Int32.le_iff_toInt_le, toInt_canary]
  exact (canaryCount_fits weight maxReplicas canaryReplicas).1

theorem primary_nonneg : 0 ≤ (ofWeight weight maxReplicas canaryReplicas).primary := by
  rw [Int32.le_iff_toInt_le, toInt_primary]
  exact (primaryCount_fits weight maxReplicas canaryReplicas).1

variable {weight}

/-- A canary that receives traffic keeps a replica. -/
theorem one_le_canary (h : 0 < weight.toInt) : 1 ≤ (ofWeight weight maxReplicas canaryReplicas).canary := by
  rw [Int32.le_iff_toInt_le, toInt_canary]
  refine one_le_canaryCount ?_ (percent_bounds weight).2 (full_bounds maxReplicas).1
  unfold percent; omega

/-- The baseline keeps a replica until the canary takes all traffic. -/
theorem one_le_primary (h : weight.toInt < 100) : 1 ≤ (ofWeight weight maxReplicas canaryReplicas).primary := by
  rw [Int32.le_iff_toInt_le, toInt_primary]
  refine one_le_primaryCount ?_
  unfold percent; omega

/-- With all traffic on the canary, the baseline keeps replicas if the canary is given fewer than the
full size. -/
theorem one_le_primary_iff (hfull : 1 ≤ maxReplicas) : 1 ≤ (ofWeight weight maxReplicas canaryReplicas).primary ↔
    weight < 100 ∨ 0 < canaryReplicas ∧ canaryReplicas < maxReplicas := by
  by_cases hw : weight < 100
  · exact iff_of_true (one_le_primary maxReplicas canaryReplicas (Int32.lt_iff_toInt_lt.1 hw)) (.inl hw)
  · rw [Int32.le_iff_toInt_le] at hfull
    rw [Int32.lt_iff_toInt_lt] at hw
    have hpercent : percent weight = 100 := by
      unfold percent; simp only [show (100 : Int32).toInt = 100 from rfl] at hw; omega
    rw [Int32.le_iff_toInt_le, toInt_primary, hpercent, Int32.lt_iff_toInt_lt, Int32.lt_iff_toInt_lt,
      Int32.lt_iff_toInt_lt]
    simp only [show (1 : Int32).toInt = 1 from rfl, show (0 : Int32).toInt = 0 from rfl,
      show (100 : Int32).toInt = 100 from rfl] at hfull hw ⊢
    unfold primaryCount canaryCount
    simp only
    by_cases hcanary : 0 < canaryReplicas.toInt
    · rw [if_pos hcanary]
      split <;> split <;> omega
    · rw [if_neg hcanary]
      split <;> split <;> omega

end Split

end Rollout.ReplicaSplit
