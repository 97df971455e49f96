/-
Whether traffic finds replicas. What the coordinator does for a split is a plan: one split to tell
the router and a list of roles to scale (`Coordinated.setRoutes_eq`), and a successful run has
changed workloads by just these steps (`Coordinated.Ok.setRoutes`). Main statement:
`setRoutes_served_iff`, after a successful run traffic is served and no count is negative, except
where a single step hands on a full size of less than one.
-/
import Rollout.Proofs.Controller.Scaling
import Rollout.Proofs.Routing.Split

namespace Rollout

open Program

namespace Coordinated

/-! ## The plan -/

/-- What is done for a split: the split that the router is told, and the counts for roles in turn. -/
def plan (c : Canary) (weights : RouteWeights) : RouteWeights × List (Role × Int32) :=
  if c.isPromoted then (⟨0, 100, weights.mirrored⟩, [(.canary, c.maxReplicas)])
  else if c.isFailed then (⟨100, 0, weights.mirrored⟩, [(.primary, c.maxReplicas), (.canary, 0)])
  else
    let split := ReplicaSplit.ofWeight weights.canary c.maxReplicas c.spec.analysis.canaryReplicas
    (weights, [(.canary, split.canary), (.primary, split.primary)])

/-- Scales roles in turn. -/
def scaleAll (c : Canary) : List (Role × Int32) → Coordinated Unit
  | [] => pure ()
  | (role, replicas) :: rest => do
    scale c role replicas
    scaleAll c rest

theorem setRoutes_eq (c : Canary) (weights : RouteWeights) :
    setRoutes c weights = (do routes (plan c weights).1; scaleAll c (plan c weights).2) := by
  unfold setRoutes plan
  by_cases hp : c.isPromoted = true
  · simp only [hp, if_true, scaleAll, bind_pure_unit]
  · by_cases hf : c.isFailed = true
    · simp only [hp, hf, if_true, if_false, scaleAll, bind_pure_unit, Bool.false_eq_true]
    · simp only [hp, hf, if_false, scaleAll, bind_pure_unit, Bool.false_eq_true]

/-! ## Runs -/

/-- A request that changes a workload. -/
def changes (e : Exchange Cluster.interface) : Bool := e.request.touched?.isSome

theorem filter_changes_eq_nil {log : List (Exchange Cluster.interface)} (h : ∀ e ∈ log, e.request.Reads) :
    log.filter changes = [] := by
  rw [List.filter_eq_nil_iff]
  intro e he
  unfold changes
  rw [h e he]; simp

/-- One step of a plan, as the change of a workload by which a controller has carried it out. -/
def Done (c : Canary) (k : Controller) (step : Role × Int32) (e : Exchange Cluster.interface) : Prop :=
  ∃ ref, k.workload? c step.1 = some ref ∧ e.request = k.sizing ref step.2 ∧ e.succeeded = true

theorem Done.settles {c : Canary} {k k' : Controller} {step : Role × Int32} {e : Exchange Cluster.interface}
    (h : Done c k step e) (hk : k.Settles k') : Done c k' step e := by
  obtain ⟨ref, href, he, hok⟩ := h
  exact ⟨ref, hk.workload? href, by rw [hk.sizing]; exact he, hok⟩

variable {c : Canary} {k k' : Controller} {calls : List (Exchange Coordination.interface)}
  {log : List (Exchange Cluster.interface)}

/-- The roles are scaled in turn, and nothing else is changed. -/
theorem Ok.scaleAll : ∀ {steps : List (Role × Int32)} {k : Controller}
    {calls : List (Exchange Coordination.interface)} {log : List (Exchange Cluster.interface)},
    Ok c (scaleAll c steps) k calls log () k' → k ≠ .service →
      calls = steps.map (fun step => ⟨.scale step.1 step.2, .ok ()⟩) ∧ k.Settles k' ∧
        List.Forall₂ (Done c k') steps (log.filter changes)
  | [], k, calls, log, h, _ => by
    obtain ⟨rfl, rfl, -, rfl⟩ := ok_pure_iff.1 h
    exact ⟨rfl, .same _, .nil⟩
  | (role, replicas) :: rest, k, calls, log, h, hk => by
    obtain ⟨u₁, u₂, l₁, l₂, u, k₁, rfl, rfl, h₁, h₂⟩ := ok_bind_iff.1 h
    obtain ⟨rfl, hscale⟩ := ok_scale_iff.1 h₁
    obtain ⟨reads, e, ref, rfl, hreads, hsettles, href, he, hok⟩ := hscale.scale hk
    obtain ⟨rfl, hsettles', hrest⟩ := Ok.scaleAll h₂ (hsettles.ne_service hk)
    have hdone : Done c k₁ (role, replicas) e := ⟨ref, href, he, hok⟩
    have hchange : changes e = true := by unfold changes; rw [he, Controller.touched?_sizing]; rfl
    rw [List.filter_append, List.filter_append, filter_changes_eq_nil hreads, List.nil_append,
      List.filter_cons_of_pos hchange, List.filter_nil, List.singleton_append]
    exact ⟨rfl, hsettles.trans hsettles', .cons (hdone.settles hsettles') hrest⟩

/-- A successful run tells the router the split of the plan and then takes its steps. -/
theorem Ok.setRoutes {weights : RouteWeights} (h : Ok c (setRoutes c weights) k calls log () k')
    (hk : k ≠ .service) :
    calls = ⟨.setRoutes (plan c weights).1, .ok ()⟩ ::
        (plan c weights).2.map (fun step => ⟨.scale step.1 step.2, .ok ()⟩) ∧
      k.Settles k' ∧ List.Forall₂ (Done c k') (plan c weights).2 (log.filter changes) := by
  rw [setRoutes_eq] at h
  obtain ⟨u₁, u₂, l₁, l₂, u, k₁, rfl, rfl, h₁, h₂⟩ := ok_bind_iff.1 h
  obtain ⟨rfl, rfl, rfl⟩ := ok_routes_iff.1 h₁
  obtain ⟨rfl, hsettles, hsteps⟩ := Ok.scaleAll h₂ hk
  exact ⟨rfl, hsettles, hsteps⟩

section Granted

variable {refs : Role → WorkloadRef}

/-- Where the cluster does all that it is asked, a controller that changes workloads takes the steps
of a plan, each by one change. -/
theorem ok_scaleAll (hk : k.patches = true) (h : ∀ role, k.workload? c role = some (refs role)) :
    ∀ steps : List (Role × Int32),
      Ok c (Coordinated.scaleAll c steps) k (steps.map fun step => ⟨.scale step.1 step.2, .ok ()⟩)
        (steps.map fun step => ⟨.change (refs step.1) (k.resize step.2), .ok ()⟩) () k
  | [] => ok_pure_iff.2 ⟨rfl, rfl, rfl, rfl⟩
  | (role, replicas) :: rest => by
    refine ok_bind_iff.2 ⟨[_], _, [_], _, (), _, rfl, rfl, ok_scale_iff.2 ⟨rfl, ?_⟩, ok_scaleAll hk h rest⟩
    exact Operation.ok_scale hk (h role) replicas

theorem ok_setRoutes (hk : k.patches = true) (h : ∀ role, k.workload? c role = some (refs role)) (w : RouteWeights) :
    Ok c (Coordinated.setRoutes c w) k
      (⟨.setRoutes (plan c w).1, .ok ()⟩ :: (plan c w).2.map fun step => ⟨.scale step.1 step.2, .ok ()⟩)
      (⟨.setRoutes c (plan c w).1, .ok ()⟩ ::
        (plan c w).2.map fun step => ⟨.change (refs step.1) (k.resize step.2), .ok ()⟩) () k := by
  rw [setRoutes_eq]
  exact ok_bind_iff.2 ⟨[_], _, [_], _, (), k, rfl, rfl, ok_routes_iff.2 ⟨rfl, rfl, rfl⟩, ok_scaleAll hk h _⟩

theorem ok_setRoutes_deployment (h : ∀ role, Controller.deployment.workload? c role = some (refs role))
    (w : RouteWeights) :
    Ok c (Coordinated.setRoutes c w) .deployment
      (⟨.setRoutes (plan c w).1, .ok ()⟩ :: (plan c w).2.map fun step => ⟨.scale step.1 step.2, .ok ()⟩)
      (⟨.setRoutes c (plan c w).1, .ok ()⟩ ::
        (plan c w).2.map fun step => ⟨.change (refs step.1) (.replicas step.2), .ok ()⟩) () .deployment :=
  ok_setRoutes rfl h w

end Granted

end Coordinated

/-! ## Served traffic -/

/-- The weight of a role. -/
def RouteWeights.of (w : RouteWeights) : Role → Int32
  | .primary => w.primary
  | .canary => w.canary

/-- The split that the router was told last. -/
def lastTold (calls : List (Exchange Coordination.interface)) : Option RouteWeights :=
  (calls.filterMap fun e => match e.request with
    | .setRoutes weights => some weights
    | _ => none).getLast?

/-- The last change of a workload. -/
def lastChange (log : List (Exchange Cluster.interface)) (ref : WorkloadRef) : Option (Exchange Cluster.interface) :=
  (log.filter fun e => e.request.touched? = some ref).getLast?

/-- The workload behind each backend that was last told a weight has been left with pods to serve. -/
def TrafficServed (c : Canary) (k : Controller) (calls : List (Exchange Coordination.interface))
    (log : List (Exchange Cluster.interface)) : Prop :=
  ∀ weights role, lastTold calls = some weights → weights.of role ≠ 0 →
    ∃ ref e, k.workload? c role = some ref ∧ lastChange log ref = some e ∧ e.request.serves = true ∧
      e.succeeded = true

/-- No replica count is negative. -/
def CountsNonneg (calls : List (Exchange Coordination.interface)) : Prop :=
  ∀ e ∈ calls, ∀ role replicas, e.request = .scale role replicas → 0 ≤ replicas

/-! ### The last change -/

theorem lastChange_filter (log : List (Exchange Cluster.interface)) (ref : WorkloadRef) :
    lastChange log ref = lastChange (log.filter Coordinated.changes) ref := by
  unfold lastChange
  rw [List.filter_filter]
  congr 2
  funext e
  by_cases h : e.request.touched? = some ref
  · simp [Coordinated.changes, h]
  · simp [h]

theorem lastChange_cons (e : Exchange Cluster.interface) (log : List (Exchange Cluster.interface)) (ref : WorkloadRef) :
    lastChange (e :: log) ref =
      (lastChange log ref).or (if e.request.touched? = some ref then some e else none) := by
  unfold lastChange
  by_cases h : e.request.touched? = some ref
  · rw [List.filter_cons_of_pos (by simpa using h), List.getLast?_cons, if_pos h]
    cases (log.filter fun e => e.request.touched? = some ref).getLast? <;> rfl
  · rw [List.filter_cons_of_neg (by simpa using h), if_neg h, Option.or_none]

section Steps

variable {c : Canary} {k : Controller} {steps : List (Role × Int32)} {log : List (Exchange Cluster.interface)}

/-- A workload whose role is not among the steps is not changed. -/
theorem lastChange_of_not_mem (hdiff : k.workload? c .primary ≠ k.workload? c .canary)
    (h : List.Forall₂ (Coordinated.Done c k) steps log) {role : Role} {ref : WorkloadRef}
    (href : k.workload? c role = some ref) (hrole : ∀ step ∈ steps, step.1 ≠ role) : lastChange log ref = none := by
  induction h with
  | nil => rfl
  | @cons step e rest es hdone _ ih =>
    obtain ⟨ref', href', he, -⟩ := hdone
    have hne : step.1 ≠ role := hrole step (List.mem_cons_self ..)
    have hrefs : ref' ≠ ref := by
      rintro rfl
      -- two roles with one workload would be the two that are told apart
      cases hs : step.1 <;> cases hr : role <;> simp_all
    rw [lastChange_cons, ih fun step hs => hrole step (List.mem_cons_of_mem _ hs), he, Controller.touched?_sizing,
      if_neg (by simpa using hrefs)]
    rfl

/-- Where each role comes once, the last change of its workload is the one of its step. -/
theorem lastChange_of_mem (hdiff : k.workload? c .primary ≠ k.workload? c .canary)
    (h : List.Forall₂ (Coordinated.Done c k) steps log) (hroles : (steps.map (·.1)).Nodup) {step : Role × Int32}
    (hstep : step ∈ steps) :
    ∃ ref e, k.workload? c step.1 = some ref ∧ lastChange log ref = some e ∧ e.request = k.sizing ref step.2 ∧
      e.succeeded = true := by
  induction h with
  | nil => cases hstep
  | @cons first e rest es hdone hrest ih =>
    rw [List.map_cons, List.nodup_cons] at hroles
    rcases List.mem_cons.1 hstep with rfl | hstep
    · -- the role comes nowhere behind, so its workload is not changed again
      obtain ⟨ref, href, he, hok⟩ := hdone
      have hnone : lastChange es ref = none :=
        lastChange_of_not_mem hdiff hrest href fun s hs heq => hroles.1 (heq ▸ List.mem_map_of_mem hs)
      refine ⟨ref, e, href, ?_, he, hok⟩
      rw [lastChange_cons, hnone, he, Controller.touched?_sizing, if_pos rfl]; rfl
    · obtain ⟨ref, e', href, hlast, he, hok⟩ := ih hroles.2 hstep
      refine ⟨ref, e', href, ?_, he, hok⟩
      rw [lastChange_cons, hlast]; rfl

/-- Traffic is served when each step serves whose role was told a weight. -/
theorem trafficServed_iff (hdiff : k.workload? c .primary ≠ k.workload? c .canary)
    (h : List.Forall₂ (Coordinated.Done c k) steps (log.filter Coordinated.changes))
    (hroles : (steps.map (·.1)).Nodup) {calls : List (Exchange Coordination.interface)} {told : RouteWeights}
    (htold : lastTold calls = some told) (hall : ∀ role, told.of role ≠ 0 → ∃ step ∈ steps, step.1 = role) :
    TrafficServed c k calls log ↔
      ∀ step ∈ steps, told.of step.1 ≠ 0 → if k = .daemonSet then step.2 ≠ 0 else 1 ≤ step.2 := by
  constructor
  · intro hserved step hstep hweight
    obtain ⟨ref, e, href, hlast, he, -⟩ := lastChange_of_mem hdiff h hroles hstep
    obtain ⟨ref', e', href', hlast', hserves, -⟩ := hserved told step.1 htold hweight
    rw [href] at href'
    cases href'
    rw [lastChange_filter, hlast] at hlast'
    cases hlast'
    rw [he, Controller.serves_sizing_iff] at hserves
    exact hserves
  · intro hsteps weights role hw hweight
    rw [htold] at hw
    cases hw
    obtain ⟨step, hstep, rfl⟩ := hall role hweight
    obtain ⟨ref, e, href, hlast, he, hok⟩ := lastChange_of_mem hdiff h hroles hstep
    refine ⟨ref, e, href, by rw [lastChange_filter, hlast], ?_, hok⟩
    rw [he, Controller.serves_sizing_iff]
    exact hsteps step hstep hweight

end Steps

/-! ### The calls -/

theorem lastTold_plan (told : RouteWeights) (steps : List (Role × Int32)) :
    lastTold (⟨.setRoutes told, .ok ()⟩ :: steps.map fun step => ⟨.scale step.1 step.2, .ok ()⟩) = some told := by
  have hnone : (steps.map fun step => (⟨.scale step.1 step.2, .ok ()⟩ : Exchange Coordination.interface)).filterMap
      (fun e => match e.request with
        | .setRoutes weights => some weights
        | _ => none) = [] := by
    rw [List.filterMap_eq_nil_iff]
    intro e he
    obtain ⟨step, -, rfl⟩ := List.mem_map.1 he
    rfl
  unfold lastTold
  rw [List.filterMap_cons]
  dsimp only
  rw [hnone]; rfl

theorem countsNonneg_plan (told : RouteWeights) (steps : List (Role × Int32)) :
    CountsNonneg (⟨.setRoutes told, .ok ()⟩ :: steps.map fun step => ⟨.scale step.1 step.2, .ok ()⟩) ↔
      ∀ step ∈ steps, 0 ≤ step.2 := by
  constructor
  · intro h step hstep
    exact h ⟨.scale step.1 step.2, .ok ()⟩ (List.mem_cons_of_mem _ (List.mem_map.2 ⟨step, hstep, rfl⟩)) _ _ rfl
  · intro h e he role replicas hr
    rcases List.mem_cons.1 he with rfl | he
    · cases hr
    · obtain ⟨step, hstep, rfl⟩ := List.mem_map.1 he
      cases hr
      exact h step hstep

/-! ### The counts of a plan -/

theorem one_le_iff (n : Int32) : 1 ≤ n ↔ 0 ≤ n ∧ n ≠ 0 := by
  rw [Int32.le_iff_toInt_le, Int32.le_iff_toInt_le, ne_eq, ← Int32.toInt_inj]
  simp only [show (1 : Int32).toInt = 1 from rfl, show (0 : Int32).toInt = 0 from rfl]
  omega

/-- The counts of a plan suit its split, except for those of a single step with a full size of less
than one. -/
theorem plan_counts_iff {c : Canary} {w : RouteWeights} (hp : 0 ≤ w.primary.toInt) (hc : 0 ≤ w.canary.toInt)
    (hsum : w.primary.toInt + w.canary.toInt = 100) :
    (∀ step ∈ (Coordinated.plan c w).2, 0 ≤ step.2 ∧ ((Coordinated.plan c w).1.of step.1 ≠ 0 → 1 ≤ step.2)) ↔
      (c.isPromoted = true ∨ c.isFailed = true → 1 ≤ c.maxReplicas) := by
  have hfull : ∀ n : Int32, 0 ≤ n ∧ ((100 : Int32) ≠ 0 → 1 ≤ n) ↔ 1 ≤ n := fun n =>
    ⟨fun h => h.2 (by decide), fun h => ⟨((one_le_iff n).1 h).1, fun _ => h⟩⟩
  unfold Coordinated.plan
  by_cases hpromoted : c.isPromoted = true
  · rw [if_pos hpromoted]
    simp only [List.mem_singleton, forall_eq, RouteWeights.of, hpromoted, true_or, true_imp_iff]
    exact hfull c.maxReplicas
  rw [if_neg hpromoted]
  by_cases hfailed : c.isFailed = true
  · rw [if_pos hfailed]
    simp only [List.mem_cons, List.not_mem_nil, or_false, forall_eq_or_imp, forall_eq, RouteWeights.of, hfailed,
      or_true, true_imp_iff]
    rw [hfull]
    exact and_iff_left ⟨Int32.le_refl _, fun h => absurd rfl h⟩
  · rw [if_neg hfailed]
    simp only [List.mem_cons, List.not_mem_nil, or_false, forall_eq_or_imp, forall_eq, RouteWeights.of, hpromoted,
      hfailed, or_self, false_imp_iff, iff_true, Bool.false_eq_true]
    refine ⟨⟨ReplicaSplit.canary_nonneg _ _ _, fun hw => ReplicaSplit.one_le_canary _ _ ?_⟩,
      ReplicaSplit.primary_nonneg _ _ _, fun hw => ReplicaSplit.one_le_primary _ _ ?_⟩
    · rw [ne_eq, ← Int32.toInt_inj, show (0 : Int32).toInt = 0 from rfl] at hw
      omega
    · rw [ne_eq, ← Int32.toInt_inj, show (0 : Int32).toInt = 0 from rfl] at hw
      omega

/-! ## After a run -/

theorem exists_of_forall₂_mem {α β : Type} {R : α → β → Prop} {as : List α} {bs : List β} (h : List.Forall₂ R as bs)
    {b : β} (hb : b ∈ bs) : ∃ a ∈ as, R a b := by
  induction h with
  | nil => cases hb
  | @cons a b' _ _ hr _ ih =>
    rcases List.mem_cons.1 hb with rfl | hb
    · exact ⟨a, List.mem_cons_self .., hr⟩
    · obtain ⟨a', ha', hr'⟩ := ih hb
      exact ⟨a', List.mem_cons_of_mem _ ha', hr'⟩

/-- Each role has its step in a plan once, if it is told a weight. -/
theorem plan_roles (c : Canary) (w : RouteWeights) :
    ((Coordinated.plan c w).2.map (·.1)).Nodup ∧
      ∀ role, (Coordinated.plan c w).1.of role ≠ 0 → ∃ step ∈ (Coordinated.plan c w).2, step.1 = role := by
  unfold Coordinated.plan
  split
  · refine ⟨by simp, fun role h => ?_⟩
    cases role with
    | primary => exact absurd rfl h
    | canary => exact ⟨_, List.mem_singleton_self _, rfl⟩
  · split
    · refine ⟨by simp, fun role _ => ?_⟩
      cases role with
      | primary => exact ⟨_, List.mem_cons_self .., rfl⟩
      | canary => exact ⟨_, List.mem_cons_of_mem _ (List.mem_singleton_self _), rfl⟩
    · refine ⟨by simp, fun role _ => ?_⟩
      cases role with
      | primary => exact ⟨_, List.mem_cons_of_mem _ (List.mem_singleton_self _), rfl⟩
      | canary => exact ⟨_, List.mem_cons_self .., rfl⟩

/-- After a split has been set, with a controller that owns workloads and two different ones in the
roles, traffic is served and no count is negative, except where a promoted or failed canary is given
a full size of less than one; and of a promoted canary nothing but the target is changed. -/
theorem setRoutes_served_iff {c : Canary} {w : RouteWeights} {k k' : Controller}
    {calls : List (Exchange Coordination.interface)} {log : List (Exchange Cluster.interface)} (hk : k ≠ .service)
    (hp : 0 ≤ w.primary.toInt) (hc : 0 ≤ w.canary.toInt) (hsum : w.primary.toInt + w.canary.toInt = 100)
    (hrun : Coordinated.Ok c (Coordinated.setRoutes c w) k calls log () k')
    (hdiff : k'.workload? c .primary ≠ k'.workload? c .canary) :
    (TrafficServed c k' calls log ∧ CountsNonneg calls ↔
      (c.isPromoted = true ∨ c.isFailed = true → 1 ≤ c.maxReplicas)) ∧
    (c.isPromoted = true → ∀ e ∈ log, ∀ ref, e.request.touched? = some ref → k'.workload? c .canary = some ref) := by
  obtain ⟨rfl, -, hsteps⟩ := hrun.setRoutes hk
  constructor
  · obtain ⟨hroles, hall⟩ := plan_roles c w
    rw [trafficServed_iff hdiff hsteps hroles (lastTold_plan _ _) hall, countsNonneg_plan, ← plan_counts_iff hp hc hsum]
    -- a daemon set serves with any count but none; that it is not negative makes it at least one
    constructor
    · rintro ⟨hserves, hnonneg⟩ step hstep
      refine ⟨hnonneg step hstep, fun hweight => ?_⟩
      have h := hserves step hstep hweight
      split at h
      · exact (one_le_iff _).2 ⟨hnonneg step hstep, h⟩
      · exact h
    · intro h
      refine ⟨fun step hstep hweight => ?_, fun step hstep => (h step hstep).1⟩
      have hone := (h step hstep).2 hweight
      split
      · exact ((one_le_iff _).1 hone).2
      · exact hone
  · intro hpromoted e he ref htouched
    unfold Coordinated.plan at hsteps
    rw [if_pos hpromoted] at hsteps
    have hmem : e ∈ log.filter Coordinated.changes :=
      List.mem_filter.2 ⟨he, by unfold Coordinated.changes; rw [htouched]; rfl⟩
    obtain ⟨step, hstep, ref', href, hsizing, -⟩ := exists_of_forall₂_mem hsteps hmem
    obtain rfl := List.mem_singleton.1 hstep
    rw [hsizing, Controller.touched?_sizing] at htouched
    rw [← htouched]; exact href

/-- A canary of a deployment, in a phase, with a full size. -/
def sizedCanary (phase : Phase) (maxReplicas : Int32) : Canary :=
  { metadata := { name := some "podinfo", ns := some "prod" }
    spec := { targetRef := ⟨"apps/v1", "Deployment", "podinfo", none⟩, analysis := { maxReplicas } }
    status := some { phase := some phase } }

/-- The workloads of such a canary. -/
def sizedWorkload : Role → WorkloadRef
  | .primary => ⟨"apps/v1", "Deployment", "podinfo-primary", "prod"⟩
  | .canary => ⟨"apps/v1", "Deployment", "podinfo", "prod"⟩

theorem workload?_sizedCanary (phase : Phase) (maxReplicas : Int32) (role : Role) :
    Controller.deployment.workload? (sizedCanary phase maxReplicas) role = some (sizedWorkload role) := by
  cases role <;> rfl

/-- Half of the traffic each, for a full size of four. -/
theorem setRoutes_served_iff_half : ∃ calls log,
    Coordinated.Ok (sizedCanary .progressing 4) (Coordinated.setRoutes (sizedCanary .progressing 4) ⟨50, 50, false⟩)
      .deployment calls log () .deployment ∧
    TrafficServed (sizedCanary .progressing 4) .deployment calls log ∧ CountsNonneg calls := by
  have hrun := Coordinated.ok_setRoutes_deployment (workload?_sizedCanary .progressing 4) ⟨50, 50, false⟩
  refine ⟨_, _, hrun, (setRoutes_served_iff (by decide) (by decide) (by decide) (by decide) hrun ?_).1.2 ?_⟩
  · rw [workload?_sizedCanary, workload?_sizedCanary]; decide
  · rintro (h | h)
    · exact absurd h (by decide)
    · exact absurd h (by decide)

/-- A promoted canary that does not say its full size: all traffic goes to a target that is scaled to
none. -/
theorem setRoutes_unserved : ∃ calls log,
    Coordinated.Ok (sizedCanary .promoting 0) (Coordinated.setRoutes (sizedCanary .promoting 0) ⟨0, 100, false⟩)
      .deployment calls log () .deployment ∧
    Controller.deployment.workload? (sizedCanary .promoting 0) .primary ≠
      Controller.deployment.workload? (sizedCanary .promoting 0) .canary ∧
    ¬ TrafficServed (sizedCanary .promoting 0) .deployment calls log := by
  have hrun := Coordinated.ok_setRoutes_deployment (workload?_sizedCanary .promoting 0) ⟨0, 100, false⟩
  refine ⟨_, _, hrun, ?_, fun hserved => ?_⟩
  · rw [workload?_sizedCanary, workload?_sizedCanary]; decide
  · obtain ⟨ref, e, href, hlast, hserves, -⟩ := hserved ⟨0, 100, false⟩ .canary rfl (by decide)
    rw [workload?_sizedCanary] at href
    cases href
    cases hlast
    exact absurd hserves (by decide)

end Rollout
