/-
Replica counts for a traffic split. A canary that receives traffic keeps at least one replica,
and the baseline keeps at least one until the canary takes all traffic.
-/
namespace Rollout

/-- Replica counts of baseline and canary. -/
structure ReplicaSplit where
  primary : Int32
  canary : Int32
deriving DecidableEq, Repr, Inhabited

namespace ReplicaSplit

/-- A weight in percent, cut to what makes sense. -/
def percent (weight : Int32) : Int := max 0 (min 100 weight.toInt)

/-- The canary's replicas: the explicit count if there is one, else its share of the full size,
rounded up. -/
def canaryCount (weight full canaryReplicas : Int) : Int :=
  let count := if 0 < canaryReplicas then canaryReplicas else (weight * full + 99) / 100
  if count = 0 ∧ 0 < weight then 1 else count

/-- The baseline's replicas: what the canary leaves of the full size. -/
def primaryCount (weight full canary : Int) : Int :=
  let count := max 0 (full - canary)
  if count = 0 ∧ weight ≠ 100 then 1 else count

/-- The replica counts for a canary weight. -/
def ofWeight (canaryWeight maxReplicas canaryReplicas : Int32) : ReplicaSplit :=
  let weight := percent canaryWeight
  let full := max 0 maxReplicas.toInt
  let canary := canaryCount weight full canaryReplicas.toInt
  ⟨Int32.ofInt (primaryCount weight full canary), Int32.ofInt canary⟩

end ReplicaSplit

end Rollout
