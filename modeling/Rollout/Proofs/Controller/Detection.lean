/-
Changes that no controller misses that looks at its target. Each run that looks compares the hash of what it has read
(`Canary.targetChanged_looked`). Main statement: `Canary.one_byte_detected`, a target whose text is one byte apart from
the one that has been recorded is told to have changed.
-/
import Rollout.Proofs.Controller.TargetHash

namespace Rollout

open Program Fingerprint

namespace Canary

variable {c : Canary} {k : Controller} {log : List (Exchange Cluster.interface)}
  {result : Except ControllerError Bool × Controller}

/-- A controller that reads an object on its way compares its hash with the one that was applied last. -/
theorem targetChanged_looked (h : Trace (c.targetChanged.run.run k) log result) {ref : WorkloadRef} {object : Manifest}
    (hread : ⟨.workload ref, .ok object⟩ ∈ log) : result = (.ok (c.differs object.specHash?), k) := by
  by_cases hk : k.comparesHash = true
  · rw [Operation.run_targetChanged hk] at h
    cases htarget : c.target? with
    | none =>
      -- without a namespace nothing is read
      rw [run_targetHash_of_unplaced htarget] at h
      obtain ⟨rfl, -⟩ := trace_done_iff.1 h
      cases hread
    | some target =>
      rw [run_targetHash htarget, ask_bind] at h
      obtain ⟨reply, rest, rfl, hdone⟩ := trace_ask_iff.1 h
      obtain ⟨rfl, rfl⟩ := trace_done_iff.1 hdone
      cases List.mem_singleton.1 hread
      rfl
  · have hblind : ∃ answer, c.targetChanged.run.run k = done (.ok answer, k) := by
      cases k with
      | rolling settled => exact ⟨false, rfl⟩
      | swap baseline target => exact ⟨c.isInitialized, rfl⟩
      | deployment | daemonSet | service => exact absurd rfl hk
    obtain ⟨answer, hrun⟩ := hblind
    rw [hrun] at h
    obtain ⟨rfl, -⟩ := trace_done_iff.1 h
    cases hread

/-- Where the hash of another value has been recorded, a target whose text is one byte apart from it differs. -/
theorem differs_of_oneByteApart {object : Manifest} {live recorded : Json} (hlive : object.versionedSpec? = some live)
    (hrecorded : (c.status.getD {}).lastAppliedSpec = some (ofJson recorded))
    (happart : OneByteApart (bytes live) (bytes recorded)) : c.differs object.specHash? = true := by
  have hhash : object.specHash? = some (ofJson live) := by
    unfold Manifest.specHash?
    rw [hlive, Option.map_some]
  rw [differs_eq (ofJson_ne_empty recorded) hrecorded, hhash, decide_eq_true_eq, Ne, Option.some.injEq]
  exact ofJson_ne happart

/-- Values whose texts have one length and differ in one byte have different fingerprints of sixteen digits. So where
the fingerprint of such a value has been recorded, each controller that compares hashes answers that the target has
changed once it has read it, and no run of any controller reads the target and answers anything else. What is compared
of an object is its pod template, or its spec where it has none. -/
theorem one_byte_detected :
    (∀ a b : Json, OneByteApart (bytes a) (bytes b) →
      IsHexText (ofJson a) ∧ IsHexText (ofJson b) ∧ ofJson a ≠ ofJson b) ∧
    ∀ (c : Canary) (object : Manifest) (live recorded : Json), object.versionedSpec? = some live →
      (c.status.getD {}).lastAppliedSpec = some (ofJson recorded) → OneByteApart (bytes live) (bytes recorded) →
        (∀ k target, k.comparesHash = true → c.target? = some target →
          Trace (c.targetChanged.run.run k) [⟨.workload target, .ok object⟩] (.ok true, k)) ∧
        (∀ k log result, Trace (c.targetChanged.run.run k) log result →
          ∀ ref, ⟨.workload ref, .ok object⟩ ∈ log → result = (.ok true, k)) := by
  refine ⟨fun a b h => ⟨isHexText_ofJson a, isHexText_ofJson b, ofJson_ne h⟩,
    fun c object live recorded hlive hrecorded happart => ?_⟩
  have hdiffers : c.differs object.specHash? = true := differs_of_oneByteApart hlive hrecorded happart
  constructor
  · intro k target hk htarget
    rw [← hdiffers]
    exact trace_targetChanged hk htarget object
  · intro k log result h ref hread
    rw [targetChanged_looked h hread, hdiffers]

/-- A service with one port. -/
def servicePort (port : Int) : Json := .obj [("ports", .arr [.obj [("port", .int port)]])]

/-- The service podinfo with one port. -/
def portedService (port : Int) : Manifest where
  types := some ⟨"v1", "Service"⟩
  metadata := { name := some "podinfo", ns := some "prod" }
  body := .obj [("spec", servicePort port)]

/-- A canary of this service for which port 9898 has been recorded. -/
def portedCanary : Canary where
  metadata := { name := some "podinfo", ns := some "prod" }
  spec := { targetRef := ⟨"v1", "Service", "podinfo", none⟩ }
  status := some { lastAppliedSpec := some (ofJson (servicePort 9898)) }

/-- With port 9899 the service has changed in one digit. -/
theorem one_byte_detected_port : OneByteApart (bytes (servicePort 9899)) (bytes (servicePort 9898)) ∧
    Trace (portedCanary.targetChanged.run.run .service)
      [⟨.workload ⟨"v1", "Service", "podinfo", "prod"⟩, .ok (portedService 9899)⟩] (.ok true, .service) := by
  have happart : OneByteApart (bytes (servicePort 9899)) (bytes (servicePort 9898)) := by
    -- the last digit of the port is byte 21
    have hlive : bytes (servicePort 9899) =
        (bytes (servicePort 9898)).take 21 ++ 57 :: (bytes (servicePort 9898)).drop 22 := by decide +kernel
    have hrecorded : bytes (servicePort 9898) =
        (bytes (servicePort 9898)).take 21 ++ 56 :: (bytes (servicePort 9898)).drop 22 := by decide +kernel
    have hsplit := oneByteApart_append ((bytes (servicePort 9898)).take 21) ((bytes (servicePort 9898)).drop 22)
      (show (57 : UInt8) ≠ 56 by decide)
    rwa [← hlive, ← hrecorded] at hsplit
  exact ⟨happart, (one_byte_detected.2 portedCanary (portedService 9899) _ _ rfl rfl happart).1 .service _ rfl rfl⟩

end Canary

end Rollout
