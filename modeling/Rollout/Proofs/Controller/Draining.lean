/-
When a baseline may be drained. Steps are taken on canaries one after another, answered in any way
(`Steps`). Main statement: `Steps.baseline_drained`, in any such run the baseline is left without pods
by two steps only: retiring in a promoted swap, and a split that gives the target all traffic and the
full size.
-/
import Rollout.Proofs.Controller.Operations

namespace Rollout

open Program

/-! ## Runs of steps -/

/-- A step that was taken: the canary it was taken on, and what was asked for it. -/
structure TakenStep where
  canary : Canary
  step : ControllerStep
  log : List (Exchange Cluster.interface)

/-- Steps taken one after another with a controller, on canaries and with answers of any kind. -/
inductive Steps (settings : Settings) : Controller → List TakenStep → Controller → Prop
  | nil (k : Controller) : Steps settings k [] k
  | cons {k k₁ k' : Controller} {taken : TakenStep} {rest : List TakenStep} :
      Trace (taken.step.work settings taken.canary k) taken.log k₁ → Steps settings k₁ rest k' →
        Steps settings k (taken :: rest) k'

variable {settings : Settings} {k k' : Controller} {steps : List TakenStep}

theorem Steps.settles (h : Steps settings k steps k') : k.Settles k' := by
  induction h with
  | nil k => exact .same k
  | @cons k _ _ taken _ ht _ ih =>
    obtain ⟨-, hsettles⟩ := (ControllerStep.work_takes settings taken.canary k taken.step).of_trace ht
    exact hsettles.trans ih

/-- What a run has asked for a step are reads and the scalings of that step. -/
theorem Steps.takes (h : Steps settings k steps k') {taken : TakenStep} (hmem : taken ∈ steps) :
    ∃ k₁, k.Settles k₁ ∧ k₁.Settles k' ∧
      ∀ e ∈ taken.log, e.request.Takes taken.canary k₁ (taken.step.scalings taken.canary k₁) := by
  induction h with
  | nil => cases hmem
  | @cons k _ _ taken' _ ht hrest ih =>
    obtain ⟨hlog, hsettles⟩ := (ControllerStep.work_takes settings taken'.canary k taken'.step).of_trace ht
    rcases List.mem_cons.1 hmem with rfl | hmem
    · exact ⟨k, .same k, hsettles.trans hrest.settles, hlog⟩
    · obtain ⟨k₁, hbefore, hafter, hlog⟩ := ih hmem
      exact ⟨k₁, hsettles.trans hbefore, hafter, hlog⟩

/-! ## Draining -/

namespace Controller

/-- The target does not change. -/
theorem Settles.target (h : k.Settles k') (c : Canary) : k'.workload? c .canary = k.workload? c .canary := by
  cases h <;> rfl

/-- A swap stays one. -/
theorem Settles.swap {baseline target : WorkloadRef} (h : k.Settles k') (hk : k' = .swap baseline target) :
    k = .swap baseline target := by
  cases h with
  | same => exact hk
  | settled baseline => cases hk

end Controller

/-- A step drains the baseline of a canary: it retires the baseline of a promoted swap, or it splits
the traffic of a rollout under way so that the target takes all of it and no fewer replicas than the
full size. -/
def ControllerStep.Drains (c : Canary) (k : Controller) : ControllerStep → Prop
  | .scaleToZero => (∃ baseline target, k = .swap baseline target) ∧ c.isPromoted = true
  | .setRoutes w => ¬ c.isPromoted = true ∧ ¬ c.isFailed = true ∧ 100 ≤ w.canary ∧
      ¬ (0 < c.spec.analysis.canaryReplicas ∧ c.spec.analysis.canaryReplicas < c.maxReplicas)
  | _ => False

section Counts

variable {c : Canary} {replicas : Int32}

theorem one_le_fullSize (hmax : 1 ≤ c.maxReplicas) (k : Controller) : 1 ≤ c.fullSize k := by
  cases k with
  | daemonSet => exact Int32.le_refl 1
  | deployment | service | rolling | swap => exact hmax

theorem one_le_of_preparation (hmax : 1 ≤ c.maxReplicas) (h : (Role.primary, replicas) ∈ c.preparation k) :
    1 ≤ replicas := by
  unfold Canary.preparation at h
  split at h
  · cases h
  · cases h
  · split at h
    · obtain rfl : replicas = c.fullSize k := by simpa using h
      exact one_le_fullSize hmax k
    · cases h

theorem one_le_of_retirement (hmax : 1 ≤ c.maxReplicas) (h : (Role.primary, replicas) ∈ c.retirement k)
    (hdrains : ¬ ControllerStep.Drains c k .scaleToZero) : 1 ≤ replicas := by
  cases k with
  | service | rolling => cases h
  | deployment | daemonSet => simp [Canary.retirement] at h
  | swap baseline target =>
    have hp : ¬ c.isPromoted = true := fun hp => hdrains ⟨⟨_, _, rfl⟩, hp⟩
    obtain rfl : replicas = c.maxReplicas := by simpa [Canary.retirement, hp] using h
    exact hmax

theorem one_le_of_plan (hmax : 1 ≤ c.maxReplicas) {w : RouteWeights}
    (h : (Role.primary, replicas) ∈ (Coordinated.plan c w).2)
    (hdrains : ¬ ControllerStep.Drains c k (.setRoutes w)) : 1 ≤ replicas := by
  unfold Coordinated.plan at h
  by_cases hp : c.isPromoted = true
  · rw [if_pos hp] at h
    simp at h
  · rw [if_neg hp] at h
    by_cases hf : c.isFailed = true
    · rw [if_pos hf] at h
      obtain rfl : replicas = c.maxReplicas := by simpa using h
      exact hmax
    · rw [if_neg hf] at h
      obtain rfl : replicas =
        (ReplicaSplit.ofWeight w.canary c.maxReplicas c.spec.analysis.canaryReplicas).primary := by simpa using h
      rw [ReplicaSplit.one_le_primary_iff _ _ hmax]
      by_contra hnone
      rw [not_or] at hnone
      exact hdrains ⟨hp, hf, Int32.not_lt.1 hnone.1, hnone.2⟩

/-- A step that does not drain the baseline gives it one replica at least. -/
theorem ControllerStep.one_le_of_scalings (hmax : 1 ≤ c.maxReplicas) {step : ControllerStep}
    (hstep : ∀ role n, step ≠ .scale role n) (h : (Role.primary, replicas) ∈ step.scalings c k)
    (hdrains : ¬ step.Drains c k) : 1 ≤ replicas := by
  cases step with
  | prepare => exact one_le_of_preparation hmax h
  | scaleToZero => exact one_le_of_retirement hmax h hdrains
  | scaleFromZero => cases k <;> simp [scalings, Canary.firstSize] at h
  | finalize =>
    obtain rfl : replicas = c.fullSize k := by simpa [scalings] using h
    exact one_le_fullSize hmax k
  | scale role n => exact absurd rfl (hstep role n)
  | setRoutes w => exact one_le_of_plan hmax h hdrains
  | name | requirePrimaryReady | targetVerdict | metadata | targetChanged | dependenciesChanged | targetHash
    | promote | syncStatus | writeStatus | locate | reconcile | getRoutes | finalizeRoutes => cases h

end Counts

/-- In a run of steps, whatever they are answered, take one that is not a bare scaling, on a canary with
a full size of one at least. If it asks that a workload other than the target, be it the baseline, is
left without pods, then it retires the baseline of a promoted swap, or it splits the traffic of a
rollout under way so that the target takes all of it and no fewer replicas than the full size. -/
theorem Steps.baseline_drained (hrun : Steps settings k steps k') {taken : TakenStep} (hmem : taken ∈ steps)
    (hstep : ∀ role replicas, taken.step ≠ .scale role replicas) (hmax : 1 ≤ taken.canary.maxReplicas)
    {baseline : WorkloadRef} (hdiff : k'.workload? taken.canary .canary ≠ some baseline)
    {e : Exchange Cluster.interface} (he : e ∈ taken.log) (htouched : e.request.touched? = some baseline)
    (hdrained : e.request.serves = false) :
    (taken.step = .scaleToZero ∧ (∃ baseline target, k = .swap baseline target) ∧ taken.canary.isPromoted = true) ∨
    ∃ w, taken.step = .setRoutes w ∧ ¬ taken.canary.isPromoted = true ∧ ¬ taken.canary.isFailed = true ∧
      100 ≤ w.canary ∧ ¬ (0 < taken.canary.spec.analysis.canaryReplicas ∧
        taken.canary.spec.analysis.canaryReplicas < taken.canary.maxReplicas) := by
  obtain ⟨k₁, hbefore, hafter, hlog⟩ := hrun.takes hmem
  have hdrains : taken.step.Drains taken.canary k₁ := by
    rcases hlog e he with hreads | ⟨⟨role, replicas⟩, hscaling, k₂, ref, hsettles, href, hrequest⟩
    · rw [hreads] at htouched
      cases htouched
    · rw [hrequest, Controller.touched?_sizing] at htouched
      cases htouched
      cases role with
      | canary =>
        -- the target is the same all along
        rw [hsettles.target, ← hafter.target] at href
        exact absurd href hdiff
      | primary =>
        by_contra hdrains
        have hone := ControllerStep.one_le_of_scalings hmax hstep hscaling hdrains
        rw [hrequest, Bool.eq_false_iff] at hdrained
        refine hdrained ((k₁.serves_sizing_iff baseline replicas).2 ?_)
        split
        · exact ((one_le_iff _).1 hone).2
        · exact hone
  match hs : taken.step, hdrains with
  | .scaleToZero, ⟨⟨baseline, target, hswap⟩, hp⟩ => exact .inl ⟨rfl, ⟨baseline, target, hbefore.swap hswap⟩, hp⟩
  | .setRoutes w, h => exact .inr ⟨w, rfl, h⟩

/-- A split that gives the target all traffic: the baseline is scaled to none. -/
theorem Steps.baseline_drained_full : ∃ log e,
    Steps default .deployment [⟨sizedCanary .progressing 4, .setRoutes ⟨0, 100, false⟩, log⟩] .deployment ∧
    e ∈ log ∧ e.request = .change (sizedWorkload .primary) (.replicas 0) ∧
    ∃ w, ControllerStep.setRoutes ⟨0, 100, false⟩ = .setRoutes w ∧ 100 ≤ w.canary := by
  have hsplit := Coordinated.ok_setRoutes_deployment (workload?_sizedCanary .progressing 4) ⟨0, 100, false⟩
  have htrace := trace_run_iff.2 ⟨_, hsplit⟩
  have hrun : Steps default .deployment [⟨sizedCanary .progressing 4, .setRoutes ⟨0, 100, false⟩, _⟩] .deployment :=
    .cons (trace_bind_iff.2 ⟨_, [], _, (List.append_nil _).symm, htrace, trace_done_iff.2 ⟨rfl, rfl⟩⟩) (.nil _)
  have hlast : ∀ {log}, log = [⟨.setRoutes (sizedCanary .progressing 4) ⟨0, 100, false⟩, .ok ()⟩,
      ⟨.change (sizedWorkload .canary) (.replicas 4), .ok ()⟩,
      (⟨.change (sizedWorkload .primary) (.replicas 0), .ok ()⟩ : Exchange Cluster.interface)] →
      ⟨.change (sizedWorkload .primary) (.replicas 0), .ok ()⟩ ∈ log := by
    rintro log rfl
    simp
  have hdiff : Controller.deployment.workload? (sizedCanary .progressing 4) .canary ≠
      some (sizedWorkload .primary) := by decide
  refine ⟨_, _, hrun, hlast rfl, rfl, ?_⟩
  rcases hrun.baseline_drained (List.mem_cons_self ..) (fun _ _ h => by cases h) (by decide) hdiff (hlast rfl) rfl
    (by decide) with ⟨hstep, -⟩ | ⟨w, hw, -, -, hfull, -⟩
  · cases hstep
  · exact ⟨w, hw, hfull⟩

end Rollout
