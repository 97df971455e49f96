/-
The replica counts of a split, to the number. `ReplicaSplit.machine?` computes them in machine arithmetic and gives
nothing where a step leaves the range of its integers. Main statement: `ReplicaSplit.ofWeight_shares`, no step ever
does, and the counts are the canary's share of the full size, rounded up, and what this leaves to the baseline, each
raised to one where there is traffic.
-/
import Rollout.Proofs.Routing.Split

namespace Rollout.ReplicaSplit

/-! ## Machine arithmetic -/

/-- A number as an integer of 32 bits, if it is in their range. -/
def fit32? (n : Int) : Option Int32 :=
  if Int32.minValue.toInt ≤ n ∧ n ≤ Int32.maxValue.toInt then some (.ofInt n) else none

/-- A number as an integer of 64 bits, if it is in their range. -/
def fit64? (n : Int) : Option Int64 :=
  if Int64.minValue.toInt ≤ n ∧ n ≤ Int64.maxValue.toInt then some (.ofInt n) else none

/-- The canary's share of the full size, rounded up in 64 bits and cut to 32. -/
def machineShare? (weight full : Int32) : Option Int32 := do
  let product ← fit64? (weight.toInt * full.toInt)
  let raised ← fit64? (product.toInt + 99)
  fit32? (raised / 100).toInt

/-- The canary's count before it is seen to that traffic finds a replica. -/
def machineCount? (weight full canaryReplicas : Int32) : Option Int32 :=
  if 0 < canaryReplicas then some canaryReplicas else machineShare? weight full

/-- A count, or one instead of none where there is traffic. -/
def orOne (traffic : Prop) [Decidable traffic] (count : Int32) : Int32 := if count = 0 ∧ traffic then 1 else count

/-- The counts, each step in machine arithmetic. -/
def machine? (canaryWeight maxReplicas canaryReplicas : Int32) : Option ReplicaSplit := do
  let weight := max 0 (min 100 canaryWeight)
  let full := max 0 maxReplicas
  let count ← machineCount? weight full canaryReplicas
  let canary := orOne (0 < weight) count
  let left ← fit32? (full.toInt - canary.toInt)
  some ⟨orOne (weight ≠ 100) (max 0 left), canary⟩

theorem exists_fit32? {n : Int} (h : -2 ^ 31 ≤ n) (h' : n < 2 ^ 31) : ∃ i, fit32? n = some i ∧ i.toInt = n := by
  refine ⟨.ofInt n, if_pos ?_, Int32.toInt_ofInt_of_le h h'⟩
  rw [Int32.toInt_minValue, Int32.toInt_maxValue]
  omega

theorem exists_fit64? {n : Int} (h : -2 ^ 63 ≤ n) (h' : n < 2 ^ 63) : ∃ i, fit64? n = some i ∧ i.toInt = n := by
  refine ⟨.ofInt n, if_pos ?_, Int64.toInt_ofInt_of_le h h'⟩
  rw [Int64.toInt_minValue, Int64.toInt_maxValue]
  omega

theorem toInt_max (a b : Int32) : (max a b).toInt = max a.toInt b.toInt := by
  show (if a ≤ b then b else a).toInt = _
  simp only [Int.max_def, Int32.le_iff_toInt_le]
  split <;> rfl

theorem toInt_min (a b : Int32) : (min a b).toInt = min a.toInt b.toInt := by
  show (if a ≤ b then a else b).toInt = _
  simp only [Int.min_def, Int32.le_iff_toInt_le]
  split <;> rfl

theorem pos_iff (n : Int32) : 0 < n ↔ 0 < n.toInt := Int32.lt_iff_toInt_lt

theorem toInt_orOne {traffic : Prop} [Decidable traffic] (count : Int32) :
    (orOne traffic count).toInt = if count.toInt = 0 ∧ traffic then 1 else count.toInt := by
  have hzero : count = 0 ↔ count.toInt = 0 := Int32.toInt_inj.symm
  unfold orOne
  simp only [hzero]
  split <;> rfl

/-! ## No step leaves its range -/

section Machine

variable {weight full : Int32}

/-- Neither the product nor the rounding leaves 64 bits, and the share is no more than the full size. -/
theorem exists_machineShare? (hw : 0 ≤ weight.toInt ∧ weight.toInt ≤ 100) (hf : 0 ≤ full.toInt) :
    ∃ share, machineShare? weight full = some share ∧ share.toInt = (weight.toInt * full.toInt + 99) / 100 := by
  have hfull := full.toInt_lt
  have hshare := share_bounds hw hf
  have hproduct : 0 ≤ weight.toInt * full.toInt := mul_nonneg hw.1 hf
  obtain ⟨product, hp, hptoInt⟩ := exists_fit64? (n := weight.toInt * full.toInt) (by omega) (by omega)
  obtain ⟨raised, hr, hrtoInt⟩ := exists_fit64? (n := product.toInt + 99) (by omega) (by omega)
  have hdiv : (raised / 100).toInt = (weight.toInt * full.toInt + 99) / 100 := by
    have hne : raised ≠ Int64.minValue := by
      rintro rfl
      rw [Int64.toInt_minValue] at hrtoInt
      omega
    rw [Int64.toInt_div_of_ne_left _ _ hne, hrtoInt, hptoInt]
    -- division in machine arithmetic cuts towards zero, which is rounding down from zero on
    exact Int.tdiv_eq_ediv_of_nonneg (by omega)
  obtain ⟨share, hs, hstoInt⟩ := exists_fit32? (n := (raised / 100).toInt) (by omega) (by omega)
  refine ⟨share, ?_, hstoInt.trans hdiv⟩
  unfold machineShare?
  rw [hp, Option.bind_eq_bind, Option.bind_some, hr]
  exact hs

theorem exists_machineCount? (canaryReplicas : Int32) (hw : 0 ≤ weight.toInt ∧ weight.toInt ≤ 100)
    (hf : 0 ≤ full.toInt) : ∃ count, machineCount? weight full canaryReplicas = some count ∧
      count.toInt = asked weight.toInt full.toInt canaryReplicas.toInt := by
  unfold machineCount? asked
  by_cases hgiven : 0 < canaryReplicas
  · rw [if_pos hgiven, if_pos ((pos_iff _).1 hgiven)]
    exact ⟨canaryReplicas, rfl, rfl⟩
  · rw [if_neg hgiven, if_neg fun h => hgiven ((pos_iff _).2 h)]
    exact exists_machineShare? hw hf

end Machine

variable (canaryWeight maxReplicas canaryReplicas : Int32)

/-- In machine arithmetic the counts are the same, for no step leaves its range. -/
theorem machine?_eq : machine? canaryWeight maxReplicas canaryReplicas =
    some (ofWeight canaryWeight maxReplicas canaryReplicas) := by
  have hweight : (max 0 (min 100 canaryWeight)).toInt = percent canaryWeight := by rw [toInt_max, toInt_min]; rfl
  have hfull : (max 0 maxReplicas).toInt = max 0 maxReplicas.toInt := toInt_max 0 maxReplicas
  have hsize := (max 0 maxReplicas).toInt_lt
  have hcanary := canaryCount_fits canaryWeight maxReplicas canaryReplicas
  have hpercent : 0 ≤ (max 0 (min 100 canaryWeight)).toInt ∧ (max 0 (min 100 canaryWeight)).toInt ≤ 100 := by
    rw [hweight]
    exact percent_bounds canaryWeight
  have hsized : 0 ≤ (max 0 maxReplicas).toInt := by omega
  obtain ⟨count, hcount, hasked⟩ := exists_machineCount? canaryReplicas hpercent hsized
  have hcanaryEq : (orOne (0 < max 0 (min 100 canaryWeight)) count).toInt =
      (ofWeight canaryWeight maxReplicas canaryReplicas).canary.toInt := by
    rw [toInt_orOne, toInt_canary, canaryCount_eq, hasked, hweight, hfull]
    simp only [pos_iff, hweight]
  obtain ⟨left, hleft, hlefttoInt⟩ := exists_fit32?
    (n := (max 0 maxReplicas).toInt - (orOne (0 < max 0 (min 100 canaryWeight)) count).toInt)
    (by rw [hcanaryEq, toInt_canary]; omega) (by rw [hcanaryEq, toInt_canary]; omega)
  have hprimaryEq : (orOne (max 0 (min 100 canaryWeight) ≠ 100) (max 0 left)).toInt =
      (ofWeight canaryWeight maxReplicas canaryReplicas).primary.toInt := by
    rw [toInt_orOne, toInt_max, hlefttoInt, hcanaryEq, hfull, toInt_primary, toInt_canary]
    simp only [ne_eq, ← Int32.toInt_inj, hweight]
    rfl
  unfold machine?
  dsimp only
  rw [hcount, Option.bind_eq_bind, Option.bind_some, hleft, Option.bind_some, Int32.toInt_inj.1 hcanaryEq,
    Int32.toInt_inj.1 hprimaryEq]

/-! ## Shares -/

/-- Rounding up in whole numbers is that of the exact share. -/
theorem share_eq_ceil (weight full : Int) : (weight * full + 99) / 100 = ⌈(weight * full : ℚ) / 100⌉ := by
  have hexact : (weight * full : ℚ) / 100 = ((weight * full : Int) : ℚ) / (100 : Nat) := by push_cast; rfl
  rw [hexact, Rat.ceil_intCast_div_natCast]
  omega

/-- The counts of a split for a weight in percent and a full size, with the canary's count where a positive one is
given. -/
structure Shares (weight full given canary primary : Int) : Prop where
  canary_given : 0 < given → canary = given
  /-- Otherwise the canary has its share of the full size, rounded up. -/
  canary_share : given ≤ 0 → canary = max ⌈(weight * full : ℚ) / 100⌉ (if 0 < weight then 1 else 0)
  primary_eq : primary = max (max (full - canary) 0) (if weight < 100 then 1 else 0)
  canary_nonneg : 0 ≤ canary
  primary_nonneg : 0 ≤ primary
  canary_zero : canary = 0 → weight = 0
  primary_zero : primary = 0 → weight = 100
  canary_le : given ≤ 0 → 1 ≤ full → canary ≤ full
  /-- There is one replica too many exactly where the canary needs them all and the baseline still has traffic. -/
  total : given ≤ 0 → 1 ≤ full → primary + canary = if weight < 100 ∧ canary = full then full + 1 else full

/-- A count that is raised to one where there is traffic is the larger of the two. -/
theorem raised_eq_max {count : Int} (hcount : 0 ≤ count) (traffic : Prop) [Decidable traffic] :
    (if count = 0 ∧ traffic then 1 else count) = max count (if traffic then 1 else 0) := by
  by_cases h : traffic
  · simp only [h, and_true, if_true]
    split <;> omega
  · simp only [h, and_false, if_false]
    omega

section Counts

variable {weight full given : Int}

theorem asked_given (weight full : Int) (h : 0 < given) : asked weight full given = given := if_pos h

theorem asked_share (weight full : Int) (h : given ≤ 0) : asked weight full given = (weight * full + 99) / 100 :=
  if_neg (not_lt.2 h)

theorem canaryCount_eq_max (given : Int) (hw : 0 ≤ weight ∧ weight ≤ 100) (hf : 0 ≤ full) :
    canaryCount weight full given = max (asked weight full given) (if 0 < weight then 1 else 0) := by
  rw [canaryCount_eq, raised_eq_max (asked_nonneg given hw hf)]

theorem primaryCount_eq_max (full canary : Int) (hw : weight ≤ 100) :
    primaryCount weight full canary = max (max (full - canary) 0) (if weight < 100 then 1 else 0) := by
  have hne : weight ≠ 100 ↔ weight < 100 := by omega
  unfold primaryCount
  simp only [hne]
  rw [raised_eq_max (le_max_left 0 _), max_comm 0]

/-- Counts are shares that are raised to one where there is traffic, from a count that is given or the exact share. -/
theorem shares_of_raised {count canary primary : Int} (hw : 0 ≤ weight ∧ weight ≤ 100) (hcount : 0 ≤ count)
    (hgiven : 0 < given → count = given)
    (hshare : given ≤ 0 → count = ⌈(weight * full : ℚ) / 100⌉ ∧ count ≤ full)
    (hcanary : canary = max count (if 0 < weight then 1 else 0))
    (hprimary : primary = max (max (full - canary) 0) (if weight < 100 then 1 else 0)) :
    Shares weight full given canary primary where
  canary_given h := by
    have hcount := hgiven h
    split at hcanary <;> omega
  canary_share h := by rw [hcanary, (hshare h).1]
  primary_eq := hprimary
  canary_nonneg := by omega
  primary_nonneg := by omega
  canary_zero h := by split at hcanary <;> omega
  primary_zero h := by split at hprimary <;> omega
  canary_le h hfull := by
    have hle := (hshare h).2
    split at hcanary <;> omega
  total h hfull := by
    have hle := (hshare h).2
    split at hcanary <;> split at hprimary <;> split <;> omega

/-- The counts that are computed are shares. -/
theorem shares_counts (given : Int) (hw : 0 ≤ weight ∧ weight ≤ 100) (hf : 0 ≤ full) :
    Shares weight full given (canaryCount weight full given)
      (primaryCount weight full (canaryCount weight full given)) := by
  refine shares_of_raised hw (asked_nonneg given hw hf) (asked_given weight full) (fun h => ?_)
    (canaryCount_eq_max given hw hf) (primaryCount_eq_max full _ hw.2)
  rw [asked_share weight full h]
  exact ⟨share_eq_ceil weight full, (share_bounds hw hf).2⟩

end Counts

/-- The counts of a split, whatever weight, full size and count of the canary it is made for. Each step of machine
arithmetic stays in its range, and the counts are the shares of the weight, cut to a percentage, and of the full size,
which is none if it is negative. -/
theorem ofWeight_shares :
    machine? canaryWeight maxReplicas canaryReplicas = some (ofWeight canaryWeight maxReplicas canaryReplicas) ∧
      Shares (max 0 (min 100 canaryWeight.toInt)) (max 0 maxReplicas.toInt) canaryReplicas.toInt
        (ofWeight canaryWeight maxReplicas canaryReplicas).canary.toInt
        (ofWeight canaryWeight maxReplicas canaryReplicas).primary.toInt := by
  refine ⟨machine?_eq canaryWeight maxReplicas canaryReplicas, ?_⟩
  rw [toInt_primary, toInt_canary]
  exact shares_counts canaryReplicas.toInt (percent_bounds canaryWeight) (full_bounds maxReplicas).1

/-- At 99 percent of fifty replicas the canary needs them all, and the baseline has one more. -/
example : ofWeight 99 50 0 = ⟨1, 50⟩ := by decide

end Rollout.ReplicaSplit
