/-
What controllers ask when they scale. Finding a workload only reads (`resolveSource_asks`), and may
settle the baseline of a controller, once and for all (`Controller.Settles`). Main statement:
`Operation.Ok.scale`, a controller that has scaled a role has, after such reads, made one change to
the workload in that role, and that change went well.
-/
import Rollout.Proofs.Task

namespace Rollout

open Program

/-! ## Changes of workloads -/

namespace Cluster.Request

/-- The workload that a request changes. -/
def touched? : Cluster.Request → Option WorkloadRef
  | .change ref _ => some ref
  | .scale ref _ => some ref
  | _ => none

/-- Whether a change leaves its workload with pods to serve: with at least one replica or, where
there is one on every node, with pods that may be scheduled. -/
def serves : Cluster.Request → Bool
  | .scale _ count => 1 ≤ count
  | .change _ (.replicas count) => 1 ≤ count
  | .change _ (.nodeSelector key value) => key = WorkloadChange.parkingKey && value.isNone
  | _ => false

end Cluster.Request

/-- A change of a workload that went well. -/
def Exchange.succeeded : Exchange Cluster.interface → Bool
  | ⟨.change _ _, .ok _⟩ => true
  | ⟨.scale _ _, .ok _⟩ => true
  | _ => false

namespace Controller

/-- The change by which a controller gives a workload a replica count. -/
def sizing (ref : WorkloadRef) (replicas : Int32) : Controller → Cluster.Request
  | .daemonSet => .change ref (.parking replicas)
  | .rolling _ => .scale ref replicas
  | _ => .change ref (.replicas replicas)

@[simp] theorem touched?_sizing (k : Controller) (ref : WorkloadRef) (replicas : Int32) :
    (k.sizing ref replicas).touched? = some ref := by cases k <;> rfl

/-- Whether a controller scales by changing the workloads themselves. -/
def patches : Controller → Bool
  | .deployment | .daemonSet | .swap _ _ => true
  | _ => false

/-- The change by which such a controller gives a workload a replica count. -/
def resize (replicas : Int32) : Controller → WorkloadChange
  | .daemonSet => .parking replicas
  | _ => .replicas replicas

/-- A workload that is not a daemon set serves from one replica on, a daemon set unless it is
given none. -/
theorem serves_sizing_iff (k : Controller) (ref : WorkloadRef) (replicas : Int32) :
    (k.sizing ref replicas).serves = true ↔ if k = .daemonSet then replicas ≠ 0 else 1 ≤ replicas := by
  cases k with
  | daemonSet =>
    by_cases h : replicas = 0
    · subst h; simp [sizing, WorkloadChange.parking, Cluster.Request.serves]
    · simp [sizing, WorkloadChange.parking, Cluster.Request.serves, h]
  | deployment | service | rolling | swap => simp [sizing, Cluster.Request.serves]

/-! ## The workloads of a controller -/

/-- The workload in a role, so far as the controller knows it without asking. -/
def workload? (c : Canary) (role : Role) (k : Controller) : Option WorkloadRef :=
  match k, role with
  | .swap baseline _, .primary => some baseline
  | .swap _ target, .canary => some target
  | .rolling settled, .primary => settled
  | _, .primary => c.primary?
  | _, .canary => c.target?

/-- What an operation can make of its controller: nothing, or a baseline is settled that was not. -/
inductive Settles : Controller → Controller → Prop
  | same (k : Controller) : Settles k k
  | settled (baseline : WorkloadRef) : Settles (.rolling none) (.rolling (some baseline))

theorem Settles.trans {k₁ k₂ k₃ : Controller} (h₁ : Settles k₁ k₂) (h₂ : Settles k₂ k₃) : Settles k₁ k₃ := by
  cases h₁ with
  | same => exact h₂
  | settled baseline => cases h₂; exact .settled baseline

/-- What a controller knows it does not forget. -/
theorem Settles.workload? {k k' : Controller} (h : Settles k k') {c : Canary} {role : Role} {ref : WorkloadRef}
    (hk : k.workload? c role = some ref) : k'.workload? c role = some ref := by
  cases h with
  | same => exact hk
  | settled baseline =>
    cases role with
    | primary => cases hk
    | canary => exact hk

theorem Settles.sizing {k k' : Controller} (h : Settles k k') (ref : WorkloadRef) (replicas : Int32) :
    k'.sizing ref replicas = k.sizing ref replicas := by cases h <;> rfl

theorem Settles.ne_service {k k' : Controller} (h : Settles k k') (hk : k ≠ .service) : k' ≠ .service := by
  cases h with
  | same => exact hk
  | settled baseline => exact fun h => by cases h

end Controller

/-! ## Reading -/

namespace Cluster.Request

/-- A request that changes no workload. -/
def Reads (r : Cluster.Request) : Prop := r.touched? = none

/-- Whether a request changes something: a workload, a stored canary or a route. -/
def writes : Cluster.Request → Bool
  | .change _ _ | .scale _ _ | .writeStatus _ _ | .reconcileRoutes _ | .setRoutes _ _ | .finalizeRoutes _ => true
  | _ => false

/-- A request that changes nothing at all. -/
def Looks (r : Cluster.Request) : Prop := r.writes = false

theorem Looks.reads {r : Cluster.Request} (h : r.Looks) : r.Reads := by
  cases r with
  | change | scale => cases h
  | _ => rfl

end Cluster.Request

theorem Task.asks_bind {α β : Type} {allowed : Cluster.Request → Prop} {x : Task α} {f : α → Task β}
    (hx : x.run.Asks allowed) (hf : ∀ a, (f a).run.Asks allowed) : (x >>= f).run.Asks allowed := by
  refine Asks.bind hx fun r => ?_
  cases r with
  | ok a => exact hf a
  | error e => trivial

theorem Task.asks_ask {allowed : Cluster.Request → Prop} {r : Cluster.Request} (h : allowed r) :
    (Task.ask r).run.Asks allowed := ⟨h, fun _ => trivial⟩

theorem Task.asks_ofExcept {ε α : Type} {allowed : Cluster.Request → Prop} {wrap : ε → ControllerError}
    {x : Except ε α} : (Task.ofExcept wrap x).run.Asks allowed := by
  cases x <;> trivial

theorem firstLive_asks : ∀ refs : List WorkloadRef, (firstLive refs).run.Asks Cluster.Request.Looks
  | [] => trivial
  | ref :: rest => by
    refine Task.asks_bind (Task.asks_ask rfl) fun r => ?_
    cases r with
    | ok object => trivial
    | error e =>
      show Asks _ (ite _ _ _ : Task (Option Manifest)).run
      split
      · exact firstLive_asks rest
      · trivial

/-- Finding a baseline changes nothing. -/
theorem resolveSource_asks (c : Canary) : c.resolveSource.run.Asks Cluster.Request.Looks := by
  unfold Canary.resolveSource
  split
  · trivial
  · split
    · exact Task.asks_bind (Task.asks_ask rfl) fun _ => Task.asks_ofExcept
    · refine Task.asks_bind (Task.asks_bind (Task.asks_ask rfl) fun _ => Task.asks_ofExcept) fun object => ?_
      split
      · trivial
      · refine Task.asks_bind (Task.asks_ask rfl) fun _ => Task.asks_bind Task.asks_ofExcept fun listed => ?_
        refine Task.asks_bind (firstLive_asks _) fun found => ?_
        cases found <;> trivial

theorem ok_baselineRef_iff {object : Manifest} {ref : WorkloadRef} {log : List (Exchange Cluster.interface)} :
    Task.Ok (baselineRef object) log ref ↔ log = [] ∧ WorkloadRef.of? object = some ref := by
  unfold baselineRef
  cases WorkloadRef.of? object with
  | none => simp
  | some ref' => simp [eq_comm]

/-! ## Scaling -/

/-- Changes a workload. -/
def Task.change (ref : WorkloadRef) (change : WorkloadChange) : Task Unit := do
  ofExcept .access (← ask (.change ref change))

namespace Operation

variable {c : Canary} {role : Role} {k k' : Controller} {log : List (Exchange Cluster.interface)}

/-- A baseline is settled by reading. -/
theorem Ok.settledBaseline {settled : Option WorkloadRef} {ref : WorkloadRef}
    (h : Ok (c.settledBaseline settled) (.rolling settled) log ref k') :
    (∀ e ∈ log, e.request.Reads) ∧ (Controller.rolling settled).Settles k' ∧ k' = .rolling (some ref) := by
  cases settled with
  | some baseline =>
    obtain ⟨rfl, rfl, rfl⟩ := ok_pure_iff.1 h
    exact ⟨by simp, .same _, rfl⟩
  | none =>
    unfold Canary.settledBaseline at h
    obtain ⟨l₁, l₂, object, k₁, rfl, h₁, h⟩ := ok_bind_iff.1 h
    obtain ⟨l₃, l₄, baseline, k₂, rfl, h₂, h⟩ := ok_bind_iff.1 h
    obtain ⟨l₅, l₆, u, k₃, rfl, h₃, h⟩ := ok_bind_iff.1 h
    obtain ⟨hsource, rfl⟩ := ok_task_iff.1 h₁
    obtain ⟨hbase, rfl⟩ := ok_task_iff.1 h₂
    obtain ⟨rfl, rfl⟩ := ok_set_iff.1 h₃
    obtain ⟨rfl, rfl, rfl⟩ := ok_pure_iff.1 h
    obtain ⟨rfl, -⟩ := ok_baselineRef_iff.1 hbase
    rw [List.append_nil, List.append_nil, List.append_nil]
    exact ⟨fun e he => ((resolveSource_asks c).of_mem hsource e he).reads, .settled ref, rfl⟩

/-- The workload in a role is found by reading, and is what the controller then knows. -/
theorem Ok.workloadFor {ref : WorkloadRef} (h : Ok (c.workloadFor role) k log ref k') :
    (∀ e ∈ log, e.request.Reads) ∧ k.Settles k' ∧ k'.workload? c role = some ref := by
  obtain ⟨l₁, l₂, k₁, k₂, rfl, hget, h⟩ := ok_bind_iff.1 h
  obtain ⟨rfl, rfl, hk⟩ := ok_get_iff.1 hget
  subst hk
  rw [List.nil_append]
  -- where the canary says the place, nothing is asked
  have hplaced : ∀ {o : Option WorkloadRef}, Ok (monadLift (Task.ofExcept id (c.placed o)) : Operation WorkloadRef) k₂
      l₂ ref k' → l₂ = [] ∧ k' = k₂ ∧ o = some ref := by
    intro o hlift
    obtain ⟨htask, rfl⟩ := ok_task_iff.1 hlift
    obtain ⟨rfl, ho⟩ := Task.ok_ofExcept_iff.1 htask
    cases o with
    | none => cases ho
    | some ref' => cases ho; exact ⟨rfl, rfl, rfl⟩
  cases k₂ with
  | deployment | daemonSet | service =>
    cases role with
    | primary => obtain ⟨rfl, rfl, ho⟩ := hplaced h; exact ⟨by simp, .same _, ho⟩
    | canary => obtain ⟨rfl, rfl, ho⟩ := hplaced h; exact ⟨by simp, .same _, ho⟩
  | rolling settled =>
    cases role with
    | primary =>
      obtain ⟨hreads, hsettles, rfl⟩ := Ok.settledBaseline h
      exact ⟨hreads, hsettles, rfl⟩
    | canary => obtain ⟨rfl, rfl, ho⟩ := hplaced h; exact ⟨by simp, .same _, ho⟩
  | swap baseline target =>
    cases role with
    | primary => obtain ⟨rfl, rfl, rfl⟩ := ok_pure_iff.1 h; exact ⟨by simp, .same _, rfl⟩
    | canary => obtain ⟨rfl, rfl, rfl⟩ := ok_pure_iff.1 h; exact ⟨by simp, .same _, rfl⟩

/-- A change in a role is made to the workload in that role, once that has been found. -/
theorem Ok.change {change : WorkloadChange} (h : Ok (Canary.scale.change c role change) k log () k') :
    ∃ reads ref, log = reads ++ [⟨.change ref change, .ok ()⟩] ∧ (∀ e ∈ reads, e.request.Reads) ∧ k.Settles k' ∧
      k'.workload? c role = some ref := by
  obtain ⟨l₁, l₂, ref, k₁, rfl, hfound, hrest⟩ := ok_bind_iff.1 h
  obtain ⟨l₃, l₄, reply, k₂, rfl, hask, hlast⟩ := ok_bind_iff.1 hrest
  obtain ⟨htask, rfl⟩ := ok_task_iff.1 hask
  obtain ⟨hdone, rfl⟩ := ok_task_iff.1 hlast
  obtain ⟨rfl, rfl⟩ := Task.ok_ofExcept_iff.1 hdone
  obtain ⟨hreads, hsettles, href⟩ := hfound.workloadFor
  rw [Task.ok_ask_iff.1 htask, List.append_nil]
  exact ⟨l₁, ref, rfl, hreads, hsettles, href⟩

/-- A controller that owns workloads scales a role by one change that goes well, made to the workload
in that role. -/
theorem Ok.scale {replicas : Int32} (h : Ok (c.scale role replicas) k log () k') (hk : k ≠ .service) :
    ∃ reads e ref, log = reads ++ [e] ∧ (∀ e ∈ reads, e.request.Reads) ∧ k.Settles k' ∧
      k'.workload? c role = some ref ∧ e.request = k'.sizing ref replicas ∧ e.succeeded = true := by
  unfold Canary.scale at h
  obtain ⟨l₁, l₂, k₁, k₂, rfl, hget, hcase⟩ := ok_bind_iff.1 h
  obtain ⟨rfl, rfl, hsame⟩ := ok_get_iff.1 hget
  subst hsame
  rw [List.nil_append]
  cases k₂ with
  | service => exact absurd rfl hk
  | deployment | daemonSet | swap baseline target =>
    obtain ⟨reads, ref, rfl, hreads, hsettles, href⟩ := Ok.change hcase
    cases hsettles
    exact ⟨reads, _, ref, rfl, hreads, .same _, href, rfl, rfl⟩
  | rolling settled =>
    obtain ⟨l₁, l₂, ref, k₁, rfl, hfound, hrest⟩ := ok_bind_iff.1 hcase
    obtain ⟨l₃, l₄, reply, k₂, rfl, hask, hlast⟩ := ok_bind_iff.1 hrest
    obtain ⟨htask, rfl⟩ := ok_task_iff.1 hask
    obtain ⟨hdone, rfl⟩ := ok_task_iff.1 hlast
    obtain ⟨rfl, rfl⟩ := Task.ok_ofExcept_iff.1 hdone
    obtain ⟨hreads, hsettles, href⟩ := hfound.workloadFor
    rw [Task.ok_ask_iff.1 htask, List.append_nil]
    exact ⟨l₁, _, ref, rfl, hreads, hsettles, href, (hsettles.sizing ref replicas).symm, rfl⟩

/-- A workload that the controller knows is found without asking. -/
theorem ok_workloadFor {ref : WorkloadRef} (h : k.workload? c role = some ref) :
    Ok (c.workloadFor role) k [] ref k := by
  refine ok_bind_iff.2 ⟨[], [], k, k, rfl, ok_get_iff.2 ⟨rfl, rfl, rfl⟩, ?_⟩
  have hplaced : ∀ {o : Option WorkloadRef} {k : Controller}, o = some ref →
      Ok (monadLift (Task.ofExcept id (c.placed o)) : Operation WorkloadRef) k [] ref k := by
    rintro o k rfl
    exact ok_task_iff.2 ⟨Task.ok_ofExcept_iff.2 ⟨rfl, rfl⟩, rfl⟩
  cases k with
  | deployment | daemonSet | service =>
    cases role with
    | primary => exact hplaced (show c.primary? = some ref from h)
    | canary => exact hplaced (show c.target? = some ref from h)
  | rolling settled =>
    cases role with
    | primary =>
      obtain rfl : settled = some ref := h
      exact ok_pure_iff.2 ⟨rfl, rfl, rfl⟩
    | canary => exact hplaced (show c.target? = some ref from h)
  | swap baseline target =>
    cases role with
    | primary => obtain rfl : baseline = ref := Option.some.inj h; exact ok_pure_iff.2 ⟨rfl, rfl, rfl⟩
    | canary => obtain rfl : target = ref := Option.some.inj h; exact ok_pure_iff.2 ⟨rfl, rfl, rfl⟩

theorem run_workloadFor {ref : WorkloadRef} (h : k.workload? c role = some ref) :
    (c.workloadFor role).run.run k = done (.ok ref, k) := (after_nil_iff.1 (ok_workloadFor h)).symm

/-- A workload that the controller knows is at hand. -/
theorem Performs.workloadFor {ref : WorkloadRef} (h : k.workload? c role = some ref)
    {α : Type} {f : WorkloadRef → Operation α} {t : Task α} (hf : Performs k (f ref) t) :
    Performs k (c.workloadFor role >>= f) t := by
  show ((c.workloadFor role).run.run k).bind _ = _
  rw [run_workloadFor h]
  exact hf

/-- A controller that changes workloads scales a role whose workload it knows by changing it. -/
theorem performs_scale (hk : k.patches = true) {ref : WorkloadRef} (h : k.workload? c role = some ref)
    (replicas : Int32) : Performs k (c.scale role replicas) (Task.change ref (k.resize replicas)) := by
  have hchange : ∀ change, Performs k (Canary.scale.change c role change) (Task.change ref change) := fun change =>
    .workloadFor h (.bind (performs_task _) fun reply => performs_task _)
  cases k with
  | deployment | daemonSet | swap => exact hchange _
  | service | rolling => cases hk

/-- Where its change goes well, so does the scaling. -/
theorem ok_scale {ref : WorkloadRef} (hk : k.patches = true) (h : k.workload? c role = some ref) (replicas : Int32) :
    Ok (c.scale role replicas) k [⟨.change ref (k.resize replicas), .ok ()⟩] () k :=
  (performs_scale hk h replicas).trace_iff.2 ⟨.cons _ (.nil _), rfl⟩

end Operation

end Rollout
