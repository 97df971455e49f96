/-
Canaries as they are written and read. What is written of a record are its members under keys of their own,
so each of them reads as it was written, and with them the record: the law is proved for each record in turn and
handed up to the one that holds it. Main statement: `Canary.decode_encode`.
-/
import Rollout.Proofs.Status.Desired
import Rollout.Proofs.World.Objects

namespace Rollout

open Json

/-! ## References -/

namespace ObjectReference

/-- The members of a written reference, those that are left out as none. -/
def members (r : ObjectReference) : List (String × Option Json) := [
  ("apiVersion", some (.str r.apiVersion)),
  ("kind", some (.str r.kind)),
  ("name", some (.str r.name)),
  ("namespace", r.ns.map .str)]

theorem lookup_members (r : ObjectReference) (key : String) :
    (membersOf r.members).lookup key = (r.members.lookup key).join := by
  refine lookup_membersOf ?_ key
  show ["apiVersion", "kind", "name", "namespace"].Nodup
  decide

/-- A written reference reads as it was written. -/
theorem ofJson?_toJson (r : ObjectReference) : ofJson? r.toJson = some r := by
  rw [show r.toJson = .obj (membersOf r.members) from rfl]
  unfold ofJson?
  simp only [record?, Option.bind_eq_bind, Option.bind_some, Option.bind_eq_some_iff, Option.pure_def,
    Option.some.injEq]
  have htext : ∀ v, text? (.str v) = some v := fun _ => rfl
  exact ⟨_, required_of_written htext (r.lookup_members _), _, required_of_written htext (r.lookup_members _),
    _, required_of_written htext (r.lookup_members _), _, optional_of_written rfl htext (r.lookup_members _), rfl⟩

end ObjectReference

/-! ## The parts of the spec -/

namespace ServiceSpec

/-- The members of a written service, those that are left out as none. -/
def members (s : ServiceSpec) : List (String × Option Json) := [
  ("port", some (ofInt32 s.port)),
  ("portDiscovery", some (.bool s.portDiscovery)),
  ("portName", s.portName.map .str),
  ("httpRoute", s.httpRoute.map .str)]

theorem lookup_members (s : ServiceSpec) (key : String) :
    (membersOf s.members).lookup key = (s.members.lookup key).join := by
  refine lookup_membersOf ?_ key
  show ["port", "portDiscovery", "portName", "httpRoute"].Nodup
  decide

/-- A written service reads as it was written. -/
theorem ofJson?_toJson (s : ServiceSpec) : ofJson? s.toJson = some s := by
  rw [show s.toJson = .obj (membersOf s.members) from rfl]
  unfold ofJson?
  simp only [record?, Option.bind_eq_bind, Option.bind_some, Option.bind_eq_some_iff, Option.pure_def,
    Option.some.injEq]
  have hflag : ∀ v, bool? (.bool v) = some v := fun _ => rfl
  have htext : ∀ v, text? (.str v) = some v := fun _ => rfl
  exact ⟨_, defaulted_of_written int32?_ofInt32 (s.lookup_members _),
    _, defaulted_of_written hflag (s.lookup_members _),
    _, optional_of_written rfl htext (s.lookup_members _), _, optional_of_written rfl htext (s.lookup_members _), rfl⟩

end ServiceSpec

namespace Analysis

/-- The members of written step parameters, those that are left out as none. -/
def members (a : Analysis) : List (String × Option Json) := [
  ("interval", a.interval.map .str),
  ("threshold", a.threshold.map ofInt32),
  ("stepWeight", some (ofInt32 a.stepWeight)),
  ("maxWeight", some (ofInt32 a.maxWeight)),
  ("stepReplicas", some (ofInt32 a.stepReplicas)),
  ("maxReplicas", some (ofInt32 a.maxReplicas)),
  ("canaryReplicas", some (ofInt32 a.canaryReplicas)),
  ("iterations", some (ofInt32 a.iterations))]

theorem lookup_members (a : Analysis) (key : String) :
    (membersOf a.members).lookup key = (a.members.lookup key).join := by
  refine lookup_membersOf ?_ key
  show ["interval", "threshold", "stepWeight", "maxWeight", "stepReplicas", "maxReplicas", "canaryReplicas",
    "iterations"].Nodup
  decide

/-- Written step parameters read as they were written. -/
theorem ofJson?_toJson (a : Analysis) : ofJson? a.toJson = some a := by
  rw [show a.toJson = .obj (membersOf a.members) from rfl]
  unfold ofJson?
  simp only [record?, Option.bind_eq_bind, Option.bind_some, Option.bind_eq_some_iff, Option.pure_def,
    Option.some.injEq]
  have hcount : ∀ {key : String} {n : Int32}, (a.members.lookup key).join = some (ofInt32 n) →
      defaulted int32? 0 key (membersOf a.members) = some n :=
    fun h => defaulted_of_written int32?_ofInt32 ((a.lookup_members _).trans h)
  exact ⟨_, optional_of_written rfl (fun _ => rfl) (a.lookup_members _),
    _, optional_of_written rfl int32?_ofInt32 (a.lookup_members _), _, hcount rfl, _, hcount rfl, _, hcount rfl,
    _, hcount rfl, _, hcount rfl, _, hcount rfl, rfl⟩

end Analysis

/-! ## The spec -/

namespace CanarySpec

/-- The members of a written spec, those that are left out as none. -/
def members (s : CanarySpec) : List (String × Option Json) := [
  ("targetRef", some s.targetRef.toJson),
  ("sourceRef", s.sourceRef.map (·.toJson)),
  ("strategy", s.strategy.map .str),
  ("progressDeadlineSeconds", s.progressDeadlineSeconds.map ofInt32),
  ("skipAnalysis", some (.bool s.skipAnalysis)),
  ("service", some s.service.toJson),
  ("analysis", some s.analysis.toJson)]

theorem lookup_members (s : CanarySpec) (key : String) :
    (membersOf s.members).lookup key = (s.members.lookup key).join := by
  refine lookup_membersOf ?_ key
  show ["targetRef", "sourceRef", "strategy", "progressDeadlineSeconds", "skipAnalysis", "service",
    "analysis"].Nodup
  decide

/-- A written spec reads as it was written. -/
theorem ofJson?_toJson (s : CanarySpec) : ofJson? s.toJson = some s := by
  rw [show s.toJson = .obj (membersOf s.members) from rfl]
  unfold ofJson?
  simp only [record?, Option.bind_eq_bind, Option.bind_some, Option.bind_eq_some_iff, Option.pure_def,
    Option.some.injEq]
  have hflag : ∀ v, bool? (.bool v) = some v := fun _ => rfl
  exact ⟨_, required_of_written ObjectReference.ofJson?_toJson (s.lookup_members _),
    _, optional_of_written rfl ObjectReference.ofJson?_toJson (s.lookup_members _),
    _, optional_of_written rfl (fun _ => rfl) (s.lookup_members _),
    _, optional_of_written rfl int32?_ofInt32 (s.lookup_members _),
    _, defaulted_of_written hflag (s.lookup_members _),
    _, defaulted_of_written ServiceSpec.ofJson?_toJson (s.lookup_members _),
    _, defaulted_of_written Analysis.ofJson?_toJson (s.lookup_members _), rfl⟩

end CanarySpec

/-! ## The canary -/

namespace Canary

/-- The members of a written canary, a missing status as none. -/
def members (c : Canary) : List (String × Option Json) := [
  ("apiVersion", some (.str apiVersion)),
  ("kind", some (.str kind)),
  ("metadata", some c.metadata.toJson),
  ("spec", some c.spec.toJson),
  ("status", c.status.map (·.toJson))]

theorem lookup_members (c : Canary) (key : String) :
    (membersOf c.members).lookup key = (c.members.lookup key).join := by
  refine lookup_membersOf ?_ key
  show ["apiVersion", "kind", "metadata", "spec", "status"].Nodup
  decide

/-- A written canary reads as it was written. -/
theorem ofJson?_toJson (c : Canary) : ofJson? c.toJson = some c := by
  rw [show c.toJson = .obj (membersOf c.members) from rfl]
  unfold ofJson?
  simp only [Option.bind_eq_bind, Option.bind_eq_some_iff, Option.pure_def, Option.some.injEq]
  exact ⟨_, required_of_written Metadata.ofJson?_toJson (c.lookup_members _),
    _, required_of_written CanarySpec.ofJson?_toJson (c.lookup_members _),
    _, optional_of_written rfl CanaryStatus.ofJson?_toJson (c.lookup_members _), rfl⟩

/-- A canary that is written reads as it was, whichever of its fields are absent, zero or empty. Whatever reads as
a canary, with members that are missing, null or unknown and records that are given as lists, is written in one
way from then on: what is written of it reads as that canary again, and is written the same again. -/
theorem decode_encode :
    (∀ c : Canary, ofJson? c.toJson = some c) ∧
      ∀ (j : Json) (c : Canary), ofJson? j = some c →
        ofJson? c.toJson = some c ∧ (ofJson? c.toJson).map toJson = some c.toJson := by
  refine ⟨ofJson?_toJson, fun j c _ => ?_⟩
  rw [c.ofJson?_toJson]
  exact ⟨rfl, rfl⟩

/-- A canary of another version that holds a null name, empty labels, a member that nobody knows, a spec and a
reference given as lists, and a status that lacks its counts and has its phase as an object. -/
theorem decode_encode_loose :
    let j := obj [("apiVersion", .str "kulta.io/v1"),
      ("metadata", obj [("labels", obj []), ("name", .null), ("note", .int 1)]),
      ("spec", arr [arr [.str "apps/v1", .str "Deployment", .str "podinfo", .null], .null, .str "", .int 0]),
      ("status", obj [("phase", obj [("Failed", .null)])])]
    ∃ c, ofJson? j = some c ∧ c.status = some { phase := some .failed } ∧ ofJson? c.toJson = some c ∧
      (ofJson? c.toJson).map toJson = some c.toJson := by
  intro j
  have hread : ofJson? j = some {
      metadata := { labels := some (.ofList []) }
      spec := { targetRef := { apiVersion := "apps/v1", kind := "Deployment", name := "podinfo" }
                strategy := some "", progressDeadlineSeconds := some 0 }
      status := some { phase := some .failed } } := by decide
  exact ⟨_, hread, rfl, decode_encode.2 j _ hread⟩

end Canary

end Rollout
