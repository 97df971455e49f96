/-
Retiring after the decision. Once a canary is promoted or failed, all traffic goes to one role
(`Canary.servingRole`), and a run of the coordinator leaves its workload with the full size. What
`Canary.scaleToZero` then scales differs between controllers (`Canary.retirement`). Main statement:
`scaleToZero_spares_iff`, the workload that serves is spared, except by the two controllers that
scale the target of a promoted canary.
-/
import Rollout.Proofs.Controller.Operations

namespace Rollout

open Program

/-! ## Steps of a retirement -/

namespace Operation

variable {c : Canary} {k k' : Controller} {log : List (Exchange Cluster.interface)}

/-- The one step of a scaling. -/
theorem Ok.scale_done {role : Role} {replicas : Int32} (h : Ok (c.scale role replicas) k log () k')
    (hk : k ≠ .service) :
    k.Settles k' ∧ List.Forall₂ (Coordinated.Done c k') [(role, replicas)] (log.filter Coordinated.changes) := by
  obtain ⟨reads, e, ref, rfl, hreads, hsettles, href, he, hok⟩ := h.scale hk
  have hchange : Coordinated.changes e = true := by
    unfold Coordinated.changes; rw [he, Controller.touched?_sizing]; rfl
  rw [List.filter_append, Coordinated.filter_changes_eq_nil hreads, List.nil_append,
    List.filter_cons_of_pos hchange, List.filter_nil]
  exact ⟨hsettles, .cons ⟨ref, href, he, hok⟩ .nil⟩

/-- Retiring takes its steps. -/
theorem Ok.scaleToZero (h : Ok c.scaleToZero k log () k') (hk : k ≠ .service) :
    k.Settles k' ∧ List.Forall₂ (Coordinated.Done c k') (c.retirement k) (log.filter Coordinated.changes) := by
  unfold Canary.scaleToZero at h
  obtain ⟨l₁, l₂, k₁, k₂, rfl, hget, hcase⟩ := ok_bind_iff.1 h
  obtain ⟨rfl, rfl, hsame⟩ := ok_get_iff.1 hget
  subst hsame
  rw [List.nil_append]
  cases k₂ with
  | service => exact absurd rfl hk
  | rolling settled =>
    obtain ⟨rfl, -, rfl⟩ := ok_pure_iff.1 hcase
    exact ⟨.same _, .nil⟩
  | deployment => exact Ok.scale_done hcase hk
  | daemonSet => exact Ok.scale_done hcase hk
  | swap baseline target => exact Ok.scale_done hcase hk

end Operation

/-! ## The workload that serves -/

/-- The role that gets all traffic once the canary is promoted or failed. -/
def Canary.servingRole (c : Canary) : Role := if c.isPromoted then .canary else .primary

/-- The last change of the workload in a role went well and leaves it with pods to serve. -/
def LeftServing (c : Canary) (k : Controller) (role : Role) (log : List (Exchange Cluster.interface)) : Prop :=
  ∃ ref e, k.workload? c role = some ref ∧ lastChange log ref = some e ∧ e.request.serves = true ∧ e.succeeded = true

/-- A later change counts before an earlier one. -/
theorem lastChange_append (l₁ l₂ : List (Exchange Cluster.interface)) (ref : WorkloadRef) :
    lastChange (l₁ ++ l₂) ref = (lastChange l₂ ref).or (lastChange l₁ ref) := by
  unfold lastChange
  rw [List.filter_append, List.getLast?_append]

section Left

variable {c : Canary} {k : Controller} {steps : List (Role × Int32)} {role : Role}
  {before log : List (Exchange Cluster.interface)}

/-- With a step for a role, the workload is left with pods to serve as the step says. -/
theorem leftServing_iff_of_mem (hdiff : k.workload? c .primary ≠ k.workload? c .canary)
    (h : List.Forall₂ (Coordinated.Done c k) steps (log.filter Coordinated.changes))
    (hroles : (steps.map (·.1)).Nodup) {replicas : Int32} (hstep : (role, replicas) ∈ steps) :
    LeftServing c k role (before ++ log) ↔ if k = .daemonSet then replicas ≠ 0 else 1 ≤ replicas := by
  obtain ⟨ref, e, href, hlast, he, hok⟩ := lastChange_of_mem hdiff h hroles hstep
  have hlast' : lastChange (before ++ log) ref = some e := by
    rw [lastChange_append, lastChange_filter log, hlast, Option.some_or]
  rw [← Controller.serves_sizing_iff k ref, ← he]
  constructor
  · rintro ⟨ref', e', href', hlast'', hserves, -⟩
    obtain rfl : ref = ref' := Option.some.inj (href.symm.trans href')
    obtain rfl : e = e' := Option.some.inj (hlast'.symm.trans hlast'')
    exact hserves
  · intro hserves
    exact ⟨ref, e, href, hlast', hserves, hok⟩

/-- With no step for a role, its workload is left as it was before. -/
theorem leftServing_iff_of_not_mem (hdiff : k.workload? c .primary ≠ k.workload? c .canary)
    (h : List.Forall₂ (Coordinated.Done c k) steps (log.filter Coordinated.changes))
    (hrole : ∀ step ∈ steps, step.1 ≠ role) :
    LeftServing c k role (before ++ log) ↔ LeftServing c k role before := by
  have hlast : ∀ ref, k.workload? c role = some ref → lastChange (before ++ log) ref = lastChange before ref := by
    intro ref href
    rw [lastChange_append, lastChange_filter log, lastChange_of_not_mem hdiff h href hrole, Option.none_or]
  constructor
  · rintro ⟨ref, e, href, hserves⟩
    rw [hlast ref href] at hserves
    exact ⟨ref, e, href, hserves⟩
  · rintro ⟨ref, e, href, hserves⟩
    rw [← hlast ref href] at hserves
    exact ⟨ref, e, href, hserves⟩

end Left

/-! ## Whether it is spared -/

section Spared

variable {c : Canary} {w : RouteWeights} {k : Controller}

/-- The split for a promoted or failed canary gives all traffic to the serving role, and its step
for the workload there is the full size. -/
theorem plan_servingRole (hdecided : c.isPromoted = true ∨ c.isFailed = true) :
    (∀ role, (Coordinated.plan c w).1.of role = if role = c.servingRole then 100 else 0) ∧
      (c.servingRole, c.maxReplicas) ∈ (Coordinated.plan c w).2 := by
  unfold Coordinated.plan Canary.servingRole
  by_cases hp : c.isPromoted = true
  · rw [if_pos hp, if_pos hp]
    exact ⟨fun role => by cases role <;> rfl, List.mem_singleton_self _⟩
  · rw [if_neg hp, if_neg hp, if_pos (hdecided.resolve_left hp)]
    exact ⟨fun role => by cases role <;> rfl, List.mem_cons_self ..⟩

/-- The full size serves. -/
theorem serves_maxReplicas (k : Controller) (hmax : 1 ≤ c.maxReplicas) :
    if k = .daemonSet then c.maxReplicas ≠ 0 else 1 ≤ c.maxReplicas := by
  split
  · exact ((one_le_iff _).1 hmax).2
  · exact hmax

/-- Retiring has a step for the serving role with deployments and daemon sets once the canary is
promoted, which takes the workload down, and with a swap that is rolled back, which gives it the full
size. -/
theorem retirement_servingRole (c : Canary) (k : Controller) :
    (∀ step ∈ c.retirement k, step.1 ≠ c.servingRole) ∧ ¬ (c.isPromoted = true ∧ (k = .deployment ∨ k = .daemonSet)) ∨
      (c.servingRole, 0) ∈ c.retirement k ∧ c.isPromoted = true ∧ (k = .deployment ∨ k = .daemonSet) ∨
      (c.servingRole, c.maxReplicas) ∈ c.retirement k ∧ ¬ c.isPromoted = true := by
  unfold Canary.retirement Canary.servingRole
  by_cases hp : c.isPromoted = true <;> cases k <;> simp [hp]

theorem retirement_nodup (c : Canary) (k : Controller) : ((c.retirement k).map (·.1)).Nodup := by
  cases k <;> simp [Canary.retirement]

/-- With a controller that owns workloads, a promoted or failed canary and two different workloads in
the roles, splitting the traffic and then retiring leaves all traffic with one role, and its workload
with pods to serve, but for a promoted canary of the controllers that take the target down. -/
theorem scaleToZero_spares_iff {k₁ k₂ : Controller} {calls : List (Exchange Coordination.interface)}
    {log₁ log₂ : List (Exchange Cluster.interface)} (hk : k ≠ .service)
    (hdecided : c.isPromoted = true ∨ c.isFailed = true) (hmax : 1 ≤ c.maxReplicas)
    (hsplit : Coordinated.Ok c (Coordinated.setRoutes c w) k calls log₁ () k₁)
    (hretire : Operation.Ok c.scaleToZero k₁ log₂ () k₂)
    (hdiff : k₂.workload? c .primary ≠ k₂.workload? c .canary) :
    (∃ told, lastTold calls = some told ∧ ∀ role, told.of role = if role = c.servingRole then 100 else 0) ∧
    (LeftServing c k₂ c.servingRole (log₁ ++ log₂) ↔
      ¬ (c.isPromoted = true ∧ (k = .deployment ∨ k = .daemonSet))) := by
  obtain ⟨rfl, hsettles, hsteps⟩ := hsplit.setRoutes hk
  obtain ⟨hsettles', hretired⟩ := hretire.scaleToZero (hsettles.ne_service hk)
  obtain ⟨htold, hstep⟩ := plan_servingRole (w := w) hdecided
  refine ⟨⟨_, lastTold_plan _ _, htold⟩, ?_⟩
  -- after the split the full size has been given
  have hsteps' : List.Forall₂ (Coordinated.Done c k₂) (Coordinated.plan c w).2 (log₁.filter Coordinated.changes) :=
    hsteps.imp fun _ _ hdone => hdone.settles hsettles'
  have hfull : LeftServing c k₂ c.servingRole ([] ++ log₁) :=
    (leftServing_iff_of_mem hdiff hsteps' (plan_roles c w).1 hstep).2 (serves_maxReplicas k₂ hmax)
  have hkind : (k₁ = .deployment ∨ k₁ = .daemonSet) ↔ (k = .deployment ∨ k = .daemonSet) := by
    cases hsettles with
    | same => rfl
    | settled baseline => simp
  rw [← hkind]
  rcases retirement_servingRole c k₁ with ⟨hnone, hspared⟩ | ⟨hdown, htaken⟩ | ⟨hup, hrolled⟩
  · rw [leftServing_iff_of_not_mem hdiff hretired hnone]
    exact iff_of_true hfull hspared
  · rw [leftServing_iff_of_mem hdiff hretired (retirement_nodup c k₁) hdown]
    refine iff_of_false ?_ (not_not_intro htaken)
    split
    · exact fun hne => hne rfl
    · decide
  · rw [leftServing_iff_of_mem hdiff hretired (retirement_nodup c k₁) hup]
    exact iff_of_true (serves_maxReplicas k₂ hmax) fun htaken => hrolled htaken.1

/-- A rollback of a deployment, whose baseline goes on serving. -/
theorem scaleToZero_spares_iff_failed : ∃ calls log₁ log₂,
    Coordinated.Ok (sizedCanary .failed 4) (Coordinated.setRoutes (sizedCanary .failed 4) ⟨50, 50, false⟩)
      .deployment calls log₁ () .deployment ∧
    Operation.Ok (sizedCanary .failed 4).scaleToZero .deployment log₂ () .deployment ∧
    LeftServing (sizedCanary .failed 4) .deployment .primary (log₁ ++ log₂) := by
  have hsplit := Coordinated.ok_setRoutes_deployment (workload?_sizedCanary .failed 4) ⟨50, 50, false⟩
  have hretire : Operation.Ok (sizedCanary .failed 4).scaleToZero .deployment _ () .deployment :=
    Operation.ok_scale rfl (workload?_sizedCanary .failed 4 .canary) 0
  refine ⟨_, _, _, hsplit, hretire,
    (scaleToZero_spares_iff (by decide) (.inr (by decide)) (by decide) hsplit hretire ?_).2.2 ?_⟩
  · rw [workload?_sizedCanary, workload?_sizedCanary]; decide
  · rintro ⟨hpromoted, -⟩
    exact absurd hpromoted (by decide)

/-- A promoted canary of a deployment: the target has all the traffic, and is then scaled to none. -/
theorem scaleToZero_stops_target : ∃ calls log₁ log₂,
    Coordinated.Ok (sizedCanary .promoting 4) (Coordinated.setRoutes (sizedCanary .promoting 4) ⟨50, 50, false⟩)
      .deployment calls log₁ () .deployment ∧
    Operation.Ok (sizedCanary .promoting 4).scaleToZero .deployment log₂ () .deployment ∧
    lastTold calls = some ⟨0, 100, false⟩ ∧
    lastChange (log₁ ++ log₂) (sizedWorkload .canary) = some ⟨.change (sizedWorkload .canary) (.replicas 0), .ok ()⟩ ∧
    ¬ LeftServing (sizedCanary .promoting 4) .deployment .canary (log₁ ++ log₂) := by
  have hsplit := Coordinated.ok_setRoutes_deployment (workload?_sizedCanary .promoting 4) ⟨50, 50, false⟩
  have hretire : Operation.Ok (sizedCanary .promoting 4).scaleToZero .deployment _ () .deployment :=
    Operation.ok_scale rfl (workload?_sizedCanary .promoting 4 .canary) 0
  refine ⟨_, _, _, hsplit, hretire, rfl, rfl, ?_⟩
  rintro ⟨ref, e, href, hlast, hserves, -⟩
  rw [workload?_sizedCanary] at href
  cases href
  cases hlast
  exact absurd hserves (by decide)

end Spared

end Rollout
