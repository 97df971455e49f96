/-
Whether the target of a canary is a new version, for the controllers that tell by the hash of its spec. Main
statements: `Canary.trace_targetChanged`, they compare the hash of the target as they read it, and
`Canary.differs_eq`, where a hash has been recorded, any other is a change, and nothing else is.
-/
import Rollout.Controller.Inspection
import Rollout.Proofs.Fingerprint
import Rollout.Proofs.Task

namespace Rollout

open Program

/-! ## Hashes -/

theorem Manifest.specHash?_ne_empty {m : Manifest} {hash : String} (h : m.specHash? = some hash) : hash ≠ "" := by
  obtain ⟨spec, -, rfl⟩ := Option.map_eq_some_iff.1 h
  exact Fingerprint.ofJson_ne_empty spec

/-! ## The hash of the target -/

/-- The hash of the target is that of the object that is read for it. -/
theorem Canary.run_targetHash {c : Canary} {target : WorkloadRef} (h : c.target? = some target) :
    c.targetHash.run = Program.ask (I := Cluster.interface) (.workload target) fun reply =>
      done ((reply.mapError .access).map (·.specHash?)) := by
  have htarget : c.target = pure target := by
    unfold Canary.target Canary.placed
    rw [h]
    rfl
  unfold Canary.targetHash
  rw [htarget]
  refine congrArg (Program.ask (I := Cluster.interface) (.workload target)) (funext fun reply => ?_)
  cases reply <;> rfl

/-- A target without a namespace is not asked for. -/
theorem Canary.run_targetHash_of_unplaced {c : Canary} (h : c.target? = none) :
    c.targetHash.run = done (.error (.configuration (.noTargetNamespace c.name))) := by
  unfold Canary.targetHash Canary.target Canary.placed
  rw [h]
  rfl

/-! ## Changes -/

/-- The controllers that see a change of the target in its hash. -/
def Controller.comparesHash : Controller → Bool
  | .deployment => true
  | .daemonSet => true
  | .service => true
  | _ => false

/-- Whether a hash is another than the one that was applied last. -/
def Canary.differs (c : Canary) (current : Option String) : Bool :=
  match c.appliedSpec? with
  | none => true
  | some applied => current ≠ some applied

/-- Such a controller compares the hash of the target with the one that was applied last. -/
theorem Operation.run_targetChanged {k : Controller} (hk : k.comparesHash = true) (c : Canary) :
    c.targetChanged.run.run k = c.targetHash.run.bind fun result => done (result.map c.differs, k) := by
  cases k with
  | deployment | daemonSet | service =>
    show (c.targetHash.run.bind _).bind _ = _
    rw [Program.bind_assoc]
    refine congrArg c.targetHash.run.bind (funext fun result => ?_)
    cases result <;> rfl
  | rolling | swap => cases hk

/-- Where a hash has been recorded, any other is a change, and nothing else is. -/
theorem Canary.differs_eq {c : Canary} {hash : String} (hhash : hash ≠ "")
    (hrecorded : (c.status.getD {}).lastAppliedSpec = some hash) (current : Option String) :
    c.differs current = decide (current ≠ some hash) := by
  have happlied : c.appliedSpec? = some hash := by
    unfold appliedSpec?
    cases hstatus : c.status with
    | none =>
      rw [hstatus] at hrecorded
      cases hrecorded
    | some status =>
      rw [hstatus] at hrecorded
      show Option.filter _ status.lastAppliedSpec = _
      rw [show status.lastAppliedSpec = some hash from hrecorded]
      simp [hhash]
  unfold differs
  rw [happlied]

/-- A target without a hash is always taken for changed. -/
theorem Canary.differs_none (c : Canary) : c.differs none = true := by
  unfold differs
  cases c.appliedSpec? <;> rfl

/-- All that is asked for a change is the target. -/
theorem Canary.trace_targetChanged {c : Canary} {k : Controller} (hk : k.comparesHash = true) {target : WorkloadRef}
    (htarget : c.target? = some target) (object : Manifest) :
    Trace (c.targetChanged.run.run k) [⟨.workload target, .ok object⟩] (.ok (c.differs object.specHash?), k) := by
  rw [Operation.run_targetChanged hk, run_targetHash htarget]
  exact trace_ask_iff.2 ⟨.ok object, [], rfl, trace_done_iff.2 ⟨rfl, rfl⟩⟩

end Rollout
