/-
The baseline of a controller is found once. A swap knows its baseline from the beginning; a rolling controller finds
it when it is first needed, and as long as that fails each operation that needs it looks for it anew
(`Operation.Resolves`). Main statement: `baseline_kept`, what has been found is the baseline of every later step,
whatever its canary says, and no history is listed again.
-/
import Rollout.Proofs.Controller.Errands

namespace Rollout

open Program

/-! ## Operations that need the baseline -/

namespace Operation

variable {α β : Type} {c : Canary}

/-- With no baseline to keep, the operation resolves that from the beginning. It fails as that does, and keeps nothing
then; else it goes on as with the baseline that has been found. -/
def Resolves (c : Canary) (x : Operation α) : Prop :=
  x.run.run (.rolling none) = c.resolution.run.bind fun
    | .error e => done (.error e, .rolling none)
    | .ok baseline => x.run.run (.rolling (some baseline))

theorem Resolves.bind {x : Operation α} (hx : Resolves c x) (f : α → Operation β) : Resolves c (x >>= f) := by
  show ((x.run.run _).bind _ : Program Cluster.interface _) = _
  rw [show x.run.run _ = _ from hx, Program.bind_assoc]
  refine congrArg c.resolution.run.bind (funext fun r => ?_)
  cases r <;> rfl

theorem Resolves.congr {x y : Operation α} (hy : Resolves c y)
    (h : ∀ settled, x.run.run (.rolling settled) = y.run.run (.rolling settled)) : Resolves c x := by
  unfold Resolves
  rw [h, show y.run.run _ = _ from hy]
  refine congrArg c.resolution.run.bind (funext fun r => ?_)
  cases r with
  | error e => rfl
  | ok baseline => exact (h (some baseline)).symm

theorem resolves_workloadFor (c : Canary) : Resolves c (c.workloadFor .primary) :=
  run_settledBaseline_none c

theorem resolves_requirePrimaryReady (c : Canary) : Resolves c c.requirePrimaryReady :=
  ((resolves_workloadFor c).bind fun ref => do
    let object ← Task.workload ref
    Task.ofExcept id ((← c.verdict object).require object)).congr fun _ => rfl

theorem resolves_scale (c : Canary) (replicas : Int32) : Resolves c (c.scale .primary replicas) :=
  ((resolves_workloadFor c).bind fun ref => do
    Canary.scale.done (← Task.ask (.scale ref replicas))).congr fun _ => rfl

theorem resolves_finalize (c : Canary) : Resolves c c.finalize :=
  (resolves_scale c c.maxReplicas).congr fun _ => rfl

theorem resolves_prepare (c : Canary) (settings : Settings) : Resolves c (c.prepare settings) :=
  ((resolves_workloadFor c).bind fun _ => do
    if c.isInitializing && !c.spec.skipAnalysis then c.requirePrimaryReady
    if c.isInitialized then c.syncStatus settings { phase := some .progressing } else return c).congr fun _ => rfl

end Operation

/-! ## Runs of steps -/

section Runs

variable {settings : Settings} {k k' : Controller} {steps : List TakenStep} {baseline : WorkloadRef}

/-- A step goes on errands with one controller, without listing a history. -/
structure TakenStep.Keeps (k : Controller) (taken : TakenStep) : Prop where
  errands : Errands taken.canary taken.step k taken.log k
  unlisted : ∀ e ∈ taken.log, e.request.lists = false

/-- A baseline that is kept is kept by every step. -/
theorem Steps.keeps (h : Steps settings k steps k') (hk : k.baseline? = some baseline) :
    k' = k ∧ ∀ taken ∈ steps, taken.Keeps k := by
  induction h with
  | nil => exact ⟨rfl, by simp⟩
  | @cons k k₁ _ taken rest htrace _ ih =>
    have herrands := taken.step.work_goesOn settings taken.canary k htrace
    obtain rfl := herrands.eq_of_baseline? hk
    obtain ⟨rfl, hrest⟩ := ih hk
    exact ⟨rfl, List.forall_mem_cons.2 ⟨⟨herrands, herrands.unlisted hk⟩, hrest⟩⟩

/-- A rolling run in which no baseline is found: every resolution fails, and leaves nothing. -/
def Unresolved (taken : TakenStep) : Prop :=
  Errands taken.canary taken.step (.rolling none) taken.log (.rolling none)

/-- A rolling run comes by one success of the resolution at most. -/
theorem Steps.resolved_once (h : Steps settings (.rolling none) steps k') :
    (k' = .rolling none ∧ ∀ taken ∈ steps, Unresolved taken) ∨
      ∃ baseline earlier taken later before found after, k' = .rolling (some baseline) ∧
        steps = earlier ++ taken :: later ∧ (∀ t ∈ earlier, Unresolved t) ∧ taken.log = before ++ found ++ after ∧
        Errands taken.canary taken.step (.rolling none) before (.rolling none) ∧
        Task.Ok taken.canary.resolution found baseline ∧
        TakenStep.Keeps (.rolling (some baseline)) ⟨taken.canary, taken.step, after⟩ ∧
        ∀ t ∈ later, t.Keeps (.rolling (some baseline)) := by
  obtain ⟨k, hk⟩ : ∃ k, k = Controller.rolling none := ⟨_, rfl⟩
  rw [← hk] at h
  induction h with
  | nil => exact .inl ⟨hk, by simp⟩
  | @cons k k₁ k' taken rest htrace hrest ih =>
    subst hk
    have herrands := taken.step.work_goesOn settings taken.canary _ htrace
    rcases herrands.resolved_once with rfl | ⟨baseline, before, found, after, rfl, hlog, hbefore, hfound, hafter⟩
    · -- nothing has been found yet
      rcases ih rfl with
        ⟨hnone, hall⟩ | ⟨baseline, earlier, first, later, before, found, after, hkept, rfl, hearlier, hfirst⟩
      · exact .inl ⟨hnone, List.forall_mem_cons.2 ⟨herrands, hall⟩⟩
      · exact .inr ⟨baseline, taken :: earlier, first, later, before, found, after, hkept, rfl,
          List.forall_mem_cons.2 ⟨herrands, hearlier⟩, hfirst⟩
    · obtain ⟨rfl, hlater⟩ := hrest.keeps rfl
      exact .inr ⟨baseline, [], taken, rest, before, found, after, rfl, rfl, by simp, hlog, hbefore, hfound,
        ⟨hafter, hafter.unlisted rfl⟩, hlater⟩

/-- A swap is made once its baseline has been found. -/
theorem Task.Ok.swapFor {c : Canary} {log : List (Exchange Cluster.interface)}
    (h : Task.Ok (Controller.swapFor c) log k) : ∃ baseline target found rest, k = .swap baseline target ∧
      log = found ++ rest ∧ Task.Ok c.resolution found baseline := by
  obtain ⟨l₁, l₂, object, rfl, hsource, hmade⟩ := Task.ok_bind_iff.1 h
  obtain ⟨l₃, l₄, baseline, rfl, hbase, hmade⟩ := Task.ok_bind_iff.1 hmade
  obtain ⟨l₅, l₆, target, rfl, -, hmade⟩ := Task.ok_bind_iff.1 hmade
  obtain ⟨l₇, l₈, _, rfl, -, hmade⟩ := Task.ok_bind_iff.1 hmade
  obtain ⟨rfl, rfl⟩ := Task.ok_pure_iff.1 hmade
  exact ⟨baseline, target, l₁ ++ l₃, l₅ ++ (l₇ ++ []), rfl, by simp only [List.append_assoc],
    Task.ok_bind_iff.2 ⟨l₁, l₃, object, rfl, hsource, hbase⟩⟩

end Runs

/-- The baseline of a controller is found once and kept. A swap has found it when it is made. Steps that are taken with
a baseline to keep, on canaries of any kind and whatever is answered, keep it to the last, with no history listed: all
that they ask about workloads are errands with it, and it is the baseline for every canary. Steps of a rolling
controller without a baseline come by one success of its resolution at most; all before that have found nothing and
left nothing, all after it keep what was found. As long as there is none, whatever needs the baseline begins by
resolving it, from the beginning. -/
theorem baseline_kept (settings : Settings) :
    (∀ c log k, Task.Ok (Controller.swapFor c) log k → ∃ baseline target found rest, k = .swap baseline target ∧
      log = found ++ rest ∧ Task.Ok c.resolution found baseline) ∧
    (∀ k steps k' baseline, Steps settings k steps k' → k.baseline? = some baseline →
      k' = k ∧ (∀ c, k.workload? c .primary = some baseline) ∧ ∀ taken ∈ steps, taken.Keeps k) ∧
    (∀ steps k', Steps settings (.rolling none) steps k' →
      (k' = .rolling none ∧ ∀ taken ∈ steps, Unresolved taken) ∨
      ∃ baseline earlier taken later before found after, k' = .rolling (some baseline) ∧
        steps = earlier ++ taken :: later ∧ (∀ t ∈ earlier, Unresolved t) ∧ taken.log = before ++ found ++ after ∧
        Errands taken.canary taken.step (.rolling none) before (.rolling none) ∧
        Task.Ok taken.canary.resolution found baseline ∧
        TakenStep.Keeps (.rolling (some baseline)) ⟨taken.canary, taken.step, after⟩ ∧
        ∀ t ∈ later, t.Keeps (.rolling (some baseline))) ∧
    ∀ c : Canary, Operation.Resolves c (c.workloadFor .primary) ∧ Operation.Resolves c c.requirePrimaryReady ∧
      (∀ replicas, Operation.Resolves c (c.scale .primary replicas)) ∧ Operation.Resolves c c.finalize ∧
      Operation.Resolves c (c.prepare settings) := by
  refine ⟨fun c log k h => h.swapFor, fun k steps k' baseline h hk => ?_, fun steps k' h => h.resolved_once,
    fun c => ?_⟩
  · obtain ⟨hsame, hkeeps⟩ := h.keeps hk
    exact ⟨hsame, Controller.workload?_of_baseline? hk, hkeeps⟩
  · exact ⟨Operation.resolves_workloadFor c, Operation.resolves_requirePrimaryReady c, Operation.resolves_scale c,
      Operation.resolves_finalize c, Operation.resolves_prepare c settings⟩

/-! ### A baseline that is there late, and a canary that names another -/

/-- A canary that names its baseline. -/
def sourcedCanary (source : String) : Canary where
  metadata := { name := some "podinfo", ns := some "prod" }
  spec := {
    targetRef := ⟨"apps/v1", "Deployment", "podinfo", none⟩
    sourceRef := some ⟨"apps/v1", "Deployment", source, none⟩
    analysis := { maxReplicas := 4 } }

/-- A workload and its live object. -/
def namedDeployment (name : String) : WorkloadRef := ⟨"apps/v1", "Deployment", name, "prod"⟩

def namedObject (name : String) : Manifest where
  types := some ⟨"apps/v1", "Deployment"⟩
  metadata := { name := some name, ns := some "prod" }
  body := .obj []

/-- Restoring the baseline fails at first, then finds and scales it, and goes on with it for a canary that names
another. -/
def restorings : List TakenStep := [
  ⟨sourcedCanary "podinfo-v1", .finalize,
    [⟨.workload (namedDeployment "podinfo-v1"), .error (.notFound "Deployment" "podinfo-v1" "prod")⟩]⟩,
  ⟨sourcedCanary "podinfo-v1", .finalize,
    [⟨.workload (namedDeployment "podinfo-v1"), .ok (namedObject "podinfo-v1")⟩,
     ⟨.scale (namedDeployment "podinfo-v1") 4, .ok ()⟩]⟩,
  ⟨sourcedCanary "podinfo-v2", .finalize, [⟨.scale (namedDeployment "podinfo-v1") 4, .ok ()⟩]⟩]

theorem restorings_run :
    Steps .default (.rolling none) restorings (.rolling (some (namedDeployment "podinfo-v1"))) :=
  .cons (.cons _ (.nil _)) (.cons (.cons _ (.cons _ (.nil _))) (.cons (.cons _ (.nil _)) (.nil _)))

/-- A swap is made with the baseline that its canary names and keeps it for one that names another; a rolling controller
finds it on the second attempt. -/
theorem baseline_kept_restored :
    (∃ log target found, Task.Ok (Controller.swapFor (sourcedCanary "podinfo-v1")) log
        (.swap (namedDeployment "podinfo-v1") target) ∧
      Task.Ok (sourcedCanary "podinfo-v1").resolution found (namedDeployment "podinfo-v1") ∧
      ∃ steps k', Steps .default (.swap (namedDeployment "podinfo-v1") target) steps k' ∧ steps ≠ [] ∧
        k' = .swap (namedDeployment "podinfo-v1") target ∧ ∀ taken ∈ steps, taken.Keeps k') ∧
    Steps .default (.rolling none) restorings (.rolling (some (namedDeployment "podinfo-v1"))) ∧
      ∃ taken ∈ restorings, ∃ found, Task.Ok taken.canary.resolution found (namedDeployment "podinfo-v1") := by
  obtain ⟨hswap, hkept, hrolling, -⟩ := baseline_kept .default
  refine ⟨?_, restorings_run, ?_⟩
  · have hmade : Task.Ok (Controller.swapFor (sourcedCanary "podinfo-v1"))
        [⟨.workload (namedDeployment "podinfo-v1"), .ok (namedObject "podinfo-v1")⟩,
          ⟨.workload (namedDeployment "podinfo"), .ok (namedObject "podinfo")⟩]
        (.swap (namedDeployment "podinfo-v1") (namedDeployment "podinfo")) := .cons _ (.cons _ (.nil _))
    obtain ⟨baseline, target, found, rest, hk, -, hfound⟩ := hswap _ _ _ hmade
    cases hk
    have hsteps : Steps .default (.swap (namedDeployment "podinfo-v1") (namedDeployment "podinfo"))
        [⟨sourcedCanary "podinfo-v2", .scaleToZero, [⟨.change (namedDeployment "podinfo-v1") (.replicas 4), .ok ()⟩]⟩]
        (.swap (namedDeployment "podinfo-v1") (namedDeployment "podinfo")) := .cons (.cons _ (.nil _)) (.nil _)
    obtain ⟨-, -, hkeeps⟩ := hkept _ _ _ _ hsteps rfl
    exact ⟨_, _, found, hmade, hfound, _, _, hsteps, by simp, rfl, hkeeps⟩
  · rcases hrolling _ _ restorings_run with ⟨hnone, -⟩ | ⟨baseline, earlier, taken, later, _, found, _, hk, hsteps, -,
      -, -, hfound, -⟩
    · cases hnone
    · cases hk
      exact ⟨taken, by rw [hsteps]; simp, found, hfound⟩

end Rollout
