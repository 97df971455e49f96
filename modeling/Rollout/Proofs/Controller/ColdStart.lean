/-
How a rollout is started. A controller that changes workloads is, once it knows them, a task (`Operation.Performs`):
a gate that judges the baseline, and behind it the sizes of target and baseline, in this order. Main statement:
`prepare_gated`, whatever is answered and whatever fails, such a start judges the baseline first, is held back with
exactly the verdict on it, or makes its changes up to the first failure; a rolling start changes no workload and moves
on a canary that is initialized, once. That a canary has a place for its workloads is needed
(`prepare_gated_unplaced`), and that there is a verdict on its baseline (`Canary.Unjudged`).
-/
import Rollout.Proofs.Controller.FailFast
import Rollout.Proofs.Controller.Operations
import Rollout.Proofs.Status.Sharing

namespace Rollout

open Program

/-! ## The start as a task -/

namespace Canary

/-- A workload and the verdict on it. -/
def judged (c : Canary) (ref : WorkloadRef) : Task (Manifest × Verdict) := do
  let object ← Task.workload ref
  return (object, ← c.verdict object)

/-- Fails, unless the analysis is skipped, if the baseline is not ready. -/
def gate (c : Canary) (baseline : WorkloadRef) : Task Unit :=
  if c.spec.skipAnalysis then pure ()
  else do
    let (object, verdict) ← c.judged baseline
    Task.ofExcept id (verdict.require object)

/-- Gives the target no replicas and then the baseline its full size. -/
def sized (c : Canary) (k : Controller) (target baseline : WorkloadRef) : Task Canary := do
  changeAll [(target, k.resize 0), (baseline, k.resize (c.fullSize k))]
  return c

end Canary

namespace Operation

variable {c : Canary} {k : Controller} {target baseline : WorkloadRef}

/-! ### Canaries without a place -/

section Unplaced

variable (hk : k.patches = true) (h : k.workload? c .canary = none)

include hk h

theorem performs_workloadFor_unplaced (role : Role) :
    Performs k (c.workloadFor role) (throw (.configuration (.noTargetNamespace c.name))) := by
  have hplaced : ∀ {o : Option WorkloadRef}, o = none →
      Performs k (monadLift (Task.ofExcept id (c.placed o)) : Operation WorkloadRef)
        (throw (.configuration (.noTargetNamespace c.name))) := by
    rintro o rfl
    exact performs_task _
  cases k with
  | deployment | daemonSet =>
    have htarget : c.target? = none := h
    have hprimary : c.primary? = none := congrArg (Option.map _) htarget
    cases role with
    | canary => exact hplaced htarget
    | primary => exact hplaced hprimary
  | swap baseline target => cases h
  | service | rolling => cases hk

theorem performs_scale_unplaced (role : Role) (replicas : Int32) :
    Performs k (c.scale role replicas) (throw (.configuration (.noTargetNamespace c.name))) := by
  have hfound := performs_workloadFor_unplaced hk h role
  have hchange : ∀ change, Performs k (Canary.scale.change c role change)
      (throw (.configuration (.noTargetNamespace c.name))) := fun change => hfound.bind_throw _
  cases k with
  | deployment | daemonSet | swap => exact hchange _
  | service | rolling => cases hk

theorem performs_requirePrimaryReady_unplaced :
    Performs k c.requirePrimaryReady (throw (.configuration (.noTargetNamespace c.name))) := by
  have hfound := performs_workloadFor_unplaced hk h .primary
  cases k with
  | deployment | daemonSet => exact hfound.bind_throw _
  | swap baseline target => cases h
  | service | rolling => cases hk

end Unplaced

/-! ### Canaries whose workloads are known -/

theorem performs_requirePrimaryReady (hk : k ≠ .service) (h : k.workload? c .primary = some baseline) :
    Performs k c.requirePrimaryReady (do
      let (object, verdict) ← c.judged baseline
      Task.ofExcept id (verdict.require object)) := by
  have hfound : Performs k (do
      let object ← Task.workload (← c.workloadFor .primary)
      Task.ofExcept id ((← c.verdict object).require object)) (do
      let (object, verdict) ← c.judged baseline
      Task.ofExcept id (verdict.require object)) := by
    unfold Canary.judged
    rw [LawfulMonad.bind_assoc]
    refine .workloadFor h (.bind (performs_task _) fun object => ?_)
    rw [LawfulMonad.bind_assoc]
    exact .bind (performs_task _) fun verdict => performs_task _
  cases k with
  | service => exact absurd rfl hk
  | deployment | daemonSet | rolling | swap => exact hfound

/-- A start that changes workloads: the gate, and the sizes behind it. -/
theorem performs_prepare (hk : k.patches = true) (hinitial : c.isInitializing = true)
    (htarget : k.workload? c .canary = some target) (hbaseline : k.workload? c .primary = some baseline)
    (settings : Settings) : Performs k (c.prepare settings) (do
      c.gate baseline
      c.sized k target baseline) := by
  have hsizes : Performs k (do
      c.scale .canary 0
      let _ ← c.scale .primary (c.fullSize k)
      pure c) (c.sized k target baseline) := by
    simp only [Canary.sized, changeAll, LawfulMonad.bind_assoc, LawfulMonad.pure_bind]
    exact .bind (performs_scale hk htarget 0) fun _ =>
      .bind (performs_scale hk hbaseline _) fun _ => performs_pure c
  have hprepare : Performs k (if !c.spec.skipAnalysis then (do
      c.requirePrimaryReady
      c.scale .canary 0
      let _ ← c.scale .primary (c.fullSize k)
      pure c) else do
      c.scale .canary 0
      let _ ← c.scale .primary (c.fullSize k)
      pure c) (do
      c.gate baseline
      c.sized k target baseline) := by
    have hready := performs_requirePrimaryReady (fun hservice => by rw [hservice] at hk; cases hk) hbaseline
    unfold Canary.gate
    cases c.spec.skipAnalysis with
    | true => exact hsizes
    | false => exact hready.bind fun _ => hsizes
  cases k with
  | deployment | daemonSet | swap =>
    show Performs _ (ite _ _ _ : Operation Canary) _
    rw [if_pos hinitial]
    exact hprepare
  | service | rolling => cases hk

end Operation

/-! ## Starts that change workloads -/

namespace Canary

variable {c : Canary} {k : Controller} {target baseline : WorkloadRef} {log : List (Exchange Cluster.interface)}
  {result : Except ControllerError Canary}

theorem failsOrCrashes_judged (c : Canary) (ref : WorkloadRef) : Task.FailsOrCrashes (c.judged ref) := by
  have hnow : ∀ object, Task.FailsOrCrashes (c.verdictNow object) := fun object =>
    Task.failsOnly_now.failsOrCrashes.bind fun _ => Task.failsOrCrashes_ofExcept _
  have hverdict : ∀ object, Task.FailsOrCrashes (c.verdict object) := by
    intro object
    unfold verdict
    split
    · split
      · exact Task.failsOrCrashes_pure _
      · exact (Task.failsOnly_workload _).failsOrCrashes.bind fun deployment => hnow deployment
    · exact hnow object
  exact (Task.failsOnly_workload ref).failsOrCrashes.bind fun object =>
    (hverdict object).bind fun _ => Task.failsOrCrashes_pure _

theorem judged_judges (c : Canary) (ref : WorkloadRef) : (c.judged ref).run.Asks Cluster.Request.Judges :=
  Task.asks_bind (workload_judges ref) fun object => Task.asks_bind (verdict_judges c object) fun _ => trivial

theorem judged_asks (c : Canary) (ref : WorkloadRef) : (c.judged ref).run.Asks Cluster.Request.Looks :=
  (judged_judges c ref).mono fun _ h => h.looks

/-- A judgement asks for no change. -/
theorem writesIn_judged {r : Except ControllerError (Manifest × Verdict)} (h : Trace (c.judged baseline).run log r) :
    writesIn log = [] := writesIn_of_looks ((judged_asks c baseline).of_mem h)

/-- What the sizes are given by, in order. -/
def sizings (c : Canary) (k : Controller) (target baseline : WorkloadRef) : List Cluster.Request :=
  [k.sizing target 0, k.sizing baseline (c.fullSize k)]

/-- The log begins with the judgement that the baseline is not ready, and the canary is not to skip it. -/
def HeldBack (c : Canary) (baseline : WorkloadRef) (log : List (Exchange Cluster.interface)) (object : Manifest)
    (retriable : Bool) (reason : UnreadyReason) : Prop :=
  c.spec.skipAnalysis = false ∧ ∃ judgement, judgement <+: log ∧
    Task.Ok (c.judged baseline) judgement (object, .notReady retriable reason)

/-- The log begins with a judgement of the baseline at which the program stops, and the canary is not to skip it. -/
def Unjudged (c : Canary) (baseline : WorkloadRef) (log : List (Exchange Cluster.interface)) : Prop :=
  c.spec.skipAnalysis = false ∧ ∃ judgement cause, judgement <+: log ∧
    Trace (c.judged baseline).run judgement (.error (.crashed cause))

/-- How a rollout is started by changes of its workloads. -/
structure Started (c : Canary) (k : Controller) (target baseline : WorkloadRef)
    (log : List (Exchange Cluster.interface)) (result : Except ControllerError Canary) : Prop where
  /-- Unless the canary skips it, the baseline is judged before anything else is asked. Where it is not ready, or there
  is no verdict, nothing is asked behind that, and the start fails. -/
  gated : c.spec.skipAnalysis = false → ∃ judgement rest verdict, log = judgement ++ rest ∧
    Trace (c.judged baseline).run judgement verdict ∧
      ((∃ object, verdict = .ok (object, .ready)) ∨ rest = [] ∧ result.isOk = false)
  /-- A baseline that is not ready holds it back, and the error says what the verdict says. -/
  held : ∀ object retriable reason, c.HeldBack baseline log object retriable reason →
    result = .error (.notReady object.kind object.name object.ns retriable reason) ∧ writesIn log = []
  /-- Otherwise the sizes are given in order, all of them if nothing fails and the program does not stop. -/
  sized : (∀ object retriable reason, ¬ c.HeldBack baseline log object retriable reason) →
    writesIn log <+: c.sizings k target baseline ∧
      (¬ c.Unjudged baseline log → (∀ e ∈ log, e.failed = false) →
        writesIn log = c.sizings k target baseline ∧ result = .ok c)
  /-- A request that fails is the last. -/
  stops : ∀ before e after, log = before ++ e :: after → e.failed = true → after = [] ∧ result.isOk = false

theorem failsOnly_sized (c : Canary) (k : Controller) (target baseline : WorkloadRef) :
    Task.FailsOnly (c.sized k target baseline) := (failsOnly_changeAll _).bind fun _ => ⟨c, rfl⟩

theorem writesIn_sized (hk : k.patches = true) (h : Trace (c.sized k target baseline).run log result) :
    writesIn log <+: c.sizings k target baseline ∧
      ((∀ e ∈ log, e.failed = false) → writesIn log = c.sizings k target baseline ∧ result = .ok c) := by
  have hsizings : c.sizings k target baseline = [(target, k.resize 0), (baseline, k.resize (c.fullSize k))].map
      fun x => Cluster.Request.change x.1 x.2 := by
    cases k with
    | deployment | daemonSet | swap => rfl
    | service | rolling => cases hk
  obtain ⟨hends, -⟩ := (failsOnly_sized c k target baseline).of_trace h
  rw [hsizings]
  rcases Task.trace_bind_iff.1 h with ⟨e, herror, rfl⟩ | ⟨l₁, l₂, u, rfl, hall, hdone⟩
  · refine ⟨(trace_changeAll herror).1, fun hlog => ?_⟩
    obtain ⟨a, ha⟩ := hends hlog
    cases ha
  · obtain ⟨rfl, rfl⟩ := trace_done_iff.1 hdone
    rw [List.append_nil]
    obtain ⟨hbegin, hwhole⟩ := trace_changeAll hall
    exact ⟨hbegin, fun _ => ⟨hwhole rfl, rfl⟩⟩

/-- There is one judgement at most at the beginning of a log. -/
theorem HeldBack.unique {judgement : List (Exchange Cluster.interface)}
    {r : Except ControllerError (Manifest × Verdict)} {object : Manifest} {retriable : Bool} {reason : UnreadyReason}
    (h : c.HeldBack baseline log object retriable reason) (hlog : judgement <+: log)
    (hjudged : Trace (c.judged baseline).run judgement r) : r = .ok (object, .notReady retriable reason) := by
  obtain ⟨-, judgement', hlog', hjudged'⟩ := h
  exact (Trace.eq_of_prefix hjudged hjudged' hlog hlog').2

/-- A start that is judged goes on with the sizes where the baseline is ready, and ends else. -/
theorem started_of_judged (hk : k.patches = true) (hskip : c.spec.skipAnalysis = false)
    (h : Trace (do
      let (object, verdict) ← c.judged baseline
      Task.ofExcept id (verdict.require object)
      c.sized k target baseline : Task Canary).run log result)
    (hstops : ∀ before e after, log = before ++ e :: after → e.failed = true → after = [] ∧ result.isOk = false) :
    c.Started k target baseline log result := by
  rcases Task.trace_bind_iff.1 h with ⟨e, herror, rfl⟩ | ⟨l₁, l₂, ⟨object, verdict⟩, rfl, hjudged, hrest⟩
  · -- no judgement has been come to
    have hnot : ∀ object retriable reason, ¬ c.HeldBack baseline log object retriable reason := fun _ _ _ hheld => by
      cases hheld.unique (List.prefix_refl _) herror
    obtain ⟨hends, -⟩ := (failsOrCrashes_judged c baseline).of_trace herror
    refine ⟨fun _ => ⟨log, [], _, (List.append_nil _).symm, herror, .inr ⟨rfl, rfl⟩⟩,
      fun _ _ _ hheld => absurd hheld (hnot _ _ _), fun _ => ⟨?_, fun hjudgeable hlog => ?_⟩, hstops⟩
    · rw [writesIn_judged herror]
      exact List.nil_prefix
    · obtain ⟨cause, rfl⟩ := hends hlog e rfl
      exact absurd ⟨hskip, log, cause, List.prefix_refl _, herror⟩ hjudgeable
  · cases verdict with
    | ready =>
      have hnot : ∀ object retriable reason, ¬ c.HeldBack baseline (l₁ ++ l₂) object retriable reason :=
        fun _ _ _ hheld => by cases hheld.unique (List.prefix_append ..) hjudged
      obtain ⟨hbegin, hwhole⟩ := writesIn_sized hk (show Trace (c.sized k target baseline).run l₂ result from hrest)
      refine ⟨fun _ => ⟨l₁, l₂, _, rfl, hjudged, .inl ⟨object, rfl⟩⟩,
        fun _ _ _ hheld => absurd hheld (hnot _ _ _), fun _ => ?_, hstops⟩
      rw [writesIn_append, writesIn_judged hjudged, List.nil_append]
      exact ⟨hbegin, fun _ hlog => hwhole fun e he => hlog e (List.mem_append_right _ he)⟩
    | notReady retriable reason =>
      obtain ⟨rfl, rfl⟩ := trace_done_iff.1 hrest
      rw [List.append_nil] at hstops ⊢
      have hheld : c.HeldBack baseline l₁ object retriable reason := ⟨hskip, l₁, List.prefix_refl _, hjudged⟩
      refine ⟨fun _ => ⟨l₁, [], _, (List.append_nil _).symm, hjudged, .inr ⟨rfl, rfl⟩⟩,
        fun object' retriable' reason' hheld' => ?_, fun hnot => absurd hheld (hnot _ _ _), hstops⟩
      cases hheld'.unique (List.prefix_refl _) hjudged
      exact ⟨rfl, writesIn_judged hjudged⟩

theorem failsFast_gate (c : Canary) (baseline : WorkloadRef) :
    Task.FailsFast (fun _ => True) (c.gate baseline).run := by
  unfold gate
  split
  · trivial
  · refine Task.FailsFast.bind (failsOrCrashes_judged c baseline) (fun judged _ => ?_) fun _ _ => trivial
    obtain ⟨object, verdict⟩ := judged
    cases verdict <;> trivial

theorem started_of_trace (hk : k.patches = true) (h : Trace (do
      c.gate baseline
      c.sized k target baseline : Task Canary).run log result) : c.Started k target baseline log result := by
  have hfast : Task.FailsFast (fun _ => True) (do
      c.gate baseline
      c.sized k target baseline : Task Canary).run :=
    (failsFast_gate c baseline).bind (fun _ _ => (failsOnly_sized c k target baseline).mono fun _ _ => trivial)
      fun _ _ => trivial
  obtain ⟨-, hstops⟩ := hfast.of_trace h
  unfold gate at h
  cases hskip : c.spec.skipAnalysis with
  | true =>
    rw [hskip, if_pos rfl, LawfulMonad.pure_bind] at h
    have hnot : c.spec.skipAnalysis ≠ false := by rw [hskip]; exact Bool.true_eq_false.mp
    obtain ⟨hbegin, hwhole⟩ := writesIn_sized hk h
    exact ⟨fun hgated => absurd hgated hnot, fun _ _ _ hheld => absurd hheld.1 hnot, fun _ => ⟨hbegin, fun _ => hwhole⟩,
      hstops⟩
  | false =>
    rw [hskip, if_neg Bool.false_ne_true, LawfulMonad.bind_assoc] at h
    exact started_of_judged hk hskip h hstops

end Canary

/-! ### Whole starts -/

section Prepare

variable {c : Canary} {k : Controller}

/-- A controller that changes workloads knows both or neither. -/
theorem Controller.exists_baseline (hk : k.patches = true) {target : WorkloadRef}
    (h : k.workload? c .canary = some target) : ∃ baseline, k.workload? c .primary = some baseline := by
  cases k with
  | deployment | daemonSet =>
    have htarget : c.target? = some target := h
    exact ⟨_, congrArg (Option.map _) htarget⟩
  | swap baseline target => exact ⟨baseline, rfl⟩
  | service | rolling => cases hk

/-- A canary that is past its start is left alone. -/
theorem run_prepare_of_started (hk : k.patches = true) (h : c.isInitializing = false) (settings : Settings) :
    (c.prepare settings).run.run k = done (.ok c, k) := by
  cases k with
  | deployment | daemonSet | swap =>
    show (ite _ _ _ : Operation Canary).run.run _ = _
    rw [h, if_neg Bool.false_ne_true]
    rfl
  | service | rolling => cases hk

/-- Without a place for its workloads nothing is asked. -/
theorem run_prepare_unplaced (hk : k.patches = true) (hinitial : c.isInitializing = true)
    (h : k.workload? c .canary = none) (settings : Settings) :
    (c.prepare settings).run.run k = done (.error (.configuration (.noTargetNamespace c.name)), k) := by
  have hsized := Operation.performs_scale_unplaced hk h .canary 0
  have hready := Operation.performs_requirePrimaryReady_unplaced hk h
  cases k with
  | deployment | daemonSet =>
    show (ite _ _ _ : Operation Canary).run.run _ = _
    rw [if_pos hinitial]
    cases c.spec.skipAnalysis with
    | true => exact hsized.bind_throw _
    | false => exact hready.bind_throw _
  | swap baseline target => cases h
  | service | rolling => cases hk

/-- Whatever it is answered, a start that knows its workloads goes as it should. -/
theorem started_of_prepare (hk : k.patches = true) (hinitial : c.isInitializing = true) {target baseline : WorkloadRef}
    (htarget : k.workload? c .canary = some target) (hbaseline : k.workload? c .primary = some baseline)
    {settings : Settings} {log : List (Exchange Cluster.interface)} {result : Except ControllerError Canary}
    {k' : Controller} (h : Trace ((c.prepare settings).run.run k) log (result, k')) :
    k' = k ∧ c.Started k target baseline log result := by
  obtain ⟨htrace, rfl⟩ := (Operation.performs_prepare hk hinitial htarget hbaseline settings).trace_iff.1 h
  exact ⟨rfl, Canary.started_of_trace hk htrace⟩

end Prepare

/-! ## Starts of rolling canaries -/

section Rolling

variable {c c' : Canary} {settings : Settings} {settled : Option WorkloadRef} {k' : Controller}
  {log : List (Exchange Cluster.interface)}

/-- Completing a delta leaves its phase. -/
theorem Task.Ok.phase_completeDelta {delta completed : StatusDelta}
    (h : Task.Ok (c.completeDelta delta) log completed) : completed.phase = delta.phase := by
  obtain ⟨l₁, l₂, reply, rfl, -, hcompleted⟩ := Task.ok_bind_iff.1 h
  extract_lets withConfigs at hcompleted
  -- with either answer the hash is asked for next
  have hrest : ∀ {configs log}, Task.Ok (withConfigs configs) log completed → completed.phase = delta.phase := by
    intro configs log hconfigs
    dsimp only [withConfigs] at hconfigs
    cases hhash : delta.lastAppliedSpec with
    | some hash =>
      rw [hhash] at hconfigs
      obtain ⟨-, rfl⟩ := Task.ok_pure_iff.1 hconfigs
      rfl
    | none =>
      rw [hhash] at hconfigs
      obtain ⟨_, _, _, rfl, -, hdone⟩ := Task.ok_bind_iff.1 hconfigs
      obtain ⟨-, rfl⟩ := Task.ok_pure_iff.1 hdone
      rfl
  cases reply with
  | ok refs => exact hrest hcompleted
  | error e =>
    have hcase : Task.Ok (if e.isKindInvalid then withConfigs Dict.empty else throw (.tracker e)) l₂ completed :=
      hcompleted
    split at hcase
    · exact hrest hcase
    · exact (Task.ok_throw_iff.1 hcase).elim

/-- An initialized rolling canary is prepared by moving its status on, once the baseline has been settled. -/
theorem Operation.Ok.prepare_rolling (h : Operation.Ok (c.prepare settings) (.rolling settled) log c' k')
    (hinitialized : c.isInitialized = true) : ∃ before delta update, log = before ++ update ∧
      delta.phase = some .progressing ∧ Trace (c.updateStatus settings delta).run update (.ok c') := by
  obtain ⟨l₁, l₂, k₁, k₂, rfl, hget, hprepare⟩ := ok_bind_iff.1 h
  obtain ⟨rfl, rfl, rfl⟩ := ok_get_iff.1 hget
  obtain ⟨l₃, l₄, baseline, k₃, rfl, -, hmoved⟩ := ok_bind_iff.1 (show Ok (do
      let _ ← c.settledBaseline settled
      if c.isInitializing && !c.spec.skipAnalysis then c.requirePrimaryReady
      if c.isInitialized then c.syncStatus settings { phase := some .progressing } else return c) _ l₂ c' k'
    from hprepare)
  have hinitial : (c.isInitializing && !c.spec.skipAnalysis) = false := by
    unfold Canary.isInitialized at hinitialized
    unfold Canary.isInitializing
    rw [of_decide_eq_true hinitialized]
    rfl
  dsimp only at hmoved
  rw [hinitial, if_neg Bool.false_ne_true, if_pos hinitialized] at hmoved
  obtain ⟨hsynced, -⟩ := ok_task_iff.1 hmoved
  obtain ⟨l₅, l₆, delta, rfl, hdelta, hupdate⟩ := Task.ok_bind_iff.1 hsynced
  exact ⟨l₃ ++ l₅, delta, l₆, by rw [List.nil_append, List.append_assoc], hdelta.phase_completeDelta, hupdate⟩

/-- A rolling canary is not scaled when it is prepared. -/
theorem rolling_reads (c : Canary) (settings : Settings) (settled : Option WorkloadRef) :
    Operation.Asks Cluster.Request.Reads (.rolling settled) (c.prepare settings) :=
  Operation.asks_prepare_rolling (fun _ h => h.reads) (fun _ => syncStatus_asks ..) settled

/-- Unless it is initialized, nothing of it is changed. -/
theorem rolling_looks (h : c.isInitialized = false) (settings : Settings) (settled : Option WorkloadRef) :
    Operation.Asks Cluster.Request.Looks (.rolling settled) (c.prepare settings) :=
  Operation.asks_prepare_rolling (fun _ h => h) (fun hinitialized => absurd (h.symm.trans hinitialized) (by decide))
    settled

theorem Canary.phase_of_status {phase : Phase} (h : (c.status.getD {}).phase = some phase) : c.phase = phase := by
  unfold Canary.phase
  cases hstatus : c.status with
  | none => rw [hstatus] at h; cases h
  | some status =>
    rw [hstatus] at h
    show status.phase.getD .initializing = phase
    rw [show status.phase = some phase from h]
    rfl

/-- A delta that names a phase leads to it. -/
theorem StatusDelta.phase_apply {delta : StatusDelta} {phase : Phase} (h : delta.phase = some phase) (s : CanaryStatus)
    (now : Instant) : (delta.apply s now).phase = some phase := by
  unfold apply
  rw [h]
  rfl

/-- What an update with a phase ends well with is in this phase, if the client's writes are answered with the status
that they write. -/
theorem Trace.phase_updateStatus {delta : StatusDelta} {phase : Phase} (hphase : delta.phase = some phase)
    (h : Trace (c.updateStatus settings delta).run log (.ok c'))
    (hanswers : ∀ before fresh status, log = before ++ [⟨.writeStatus fresh status, .ok c'⟩] →
      ⟨.canary c.ns c.name, .ok fresh⟩ ∈ before → c'.status = some status) : c'.phase = phase := by
  rcases Trace.updateStatus_ok h with ⟨before, now, rfl, hsame⟩ | ⟨before, fresh, status, rfl⟩
  · exact Canary.phase_of_status (hsame ▸ StatusDelta.phase_apply hphase _ now)
  · obtain ⟨left, hleft, hlast⟩ := after_append_iff.1 h
    cases hlast with
    | cons _ hlast =>
      obtain ⟨earlier, now, rfl, rfl⟩ := After.updateStatus_write hleft
      have hstatus := hanswers _ fresh _ rfl (by simp)
      refine Canary.phase_of_status ?_
      rw [hstatus]
      exact StatusDelta.phase_apply hphase _ now

/-- In a store that it shares with others, an initialized rolling canary is prepared by moving it on. -/
theorem Shared.Run.progressing {objects : CanaryObjects} {ι : Type} [DecidableEq ι]
    {start now : Shared objects ι (Except ControllerError Canary × Controller)} {events : List (SharedEvent ι)} {i : ι}
    (h : Shared.Run start events now) (hversions : start.store.Versioned) (hinitialized : c.isInitialized = true)
    (hstart : start.running i = (c.prepare settings).run.run (.rolling settled))
    (hdone : now.running i = .done (.ok c', k')) : c'.phase = .progressing := by
  have htrace := h.after i
  rw [hstart, hdone] at htrace
  obtain ⟨before, delta, update, hlog, hphase, hupdate⟩ := Operation.Ok.prepare_rolling htrace hinitialized
  refine Trace.phase_updateStatus hphase hupdate fun earlier fresh status hwrite hread => ?_
  rw [hwrite, ← List.append_assoc] at hlog
  exact h.status_written hversions hlog (List.mem_append_right _ hread)

end Rolling

/-! ## All starts -/

/-- Whatever it is answered, a start goes as it should. A controller that changes workloads leaves a canary that is
past its start alone, fails at once where the canary has no place for its workloads, and else starts by the sizes,
behind the gate. A rolling controller changes no workload, and nothing at all unless the canary is initialized; then a
start that ends well leaves the canary progressing, and another one changes nothing. -/
theorem prepare_gated (c : Canary) (settings : Settings) :
    (∀ k : Controller, k.patches = true →
      (c.isInitializing = false → (c.prepare settings).run.run k = done (.ok c, k)) ∧
      (c.isInitializing = true → k.workload? c .canary = none →
        (c.prepare settings).run.run k = done (.error (.configuration (.noTargetNamespace c.name)), k)) ∧
      (c.isInitializing = true → ∀ target, k.workload? c .canary = some target →
        ∃ baseline, k.workload? c .primary = some baseline ∧
          ∀ log result k', Trace ((c.prepare settings).run.run k) log (result, k') →
            k' = k ∧ c.Started k target baseline log result)) ∧
    (∀ settled log result k', Trace ((c.prepare settings).run.run (.rolling settled)) log (result, k') →
      (∀ e ∈ log, e.request.Reads) ∧ (c.isInitialized = false → ∀ e ∈ log, e.request.Looks)) ∧
    ∀ {objects : CanaryObjects} {ι : Type} [DecidableEq ι]
      {start now : Shared objects ι (Except ControllerError Canary × Controller)} {events : List (SharedEvent ι)}
      {i : ι} {settled : Option WorkloadRef} {c' : Canary} {k' : Controller},
      Shared.Run start events now → start.store.Versioned → c.isInitialized = true →
      start.running i = (c.prepare settings).run.run (.rolling settled) → now.running i = .done (.ok c', k') →
        c'.phase = .progressing ∧
          ∀ log result, Trace ((c'.prepare settings).run.run k') log result → ∀ e ∈ log, e.request.Looks := by
  refine ⟨fun k hk => ⟨?_, ?_, fun hinitial target htarget => ?_⟩, fun settled log result k' h => ⟨?_, ?_⟩, ?_⟩
  · exact fun h => run_prepare_of_started hk h settings
  · exact fun hinitial h => run_prepare_unplaced hk hinitial h settings
  · obtain ⟨baseline, hbaseline⟩ := Controller.exists_baseline hk htarget
    exact ⟨baseline, hbaseline, fun log result k' h => started_of_prepare hk hinitial htarget hbaseline h⟩
  · exact (Within.of_trace (rolling_reads c settings settled) h).1
  · exact fun hinitialized => (Within.of_trace (rolling_looks hinitialized settings settled) h).1
  · intro objects ι _ start now events i settled c' k' hrun hversions hinitialized hstart hdone
    have hphase := hrun.progressing hversions hinitialized hstart hdone
    refine ⟨hphase, fun log result h => ?_⟩
    have htrace := hrun.after i
    rw [hstart, hdone] at htrace
    obtain ⟨-, hsettles, -⟩ := Within.of_trace (rolling_reads c settings settled) htrace
    obtain ⟨settled', rfl⟩ : ∃ settled', k' = .rolling settled' := by
      cases hsettles with
      | same => exact ⟨settled, rfl⟩
      | settled baseline => exact ⟨some baseline, rfl⟩
    have hnot : c'.isInitialized = false := by
      unfold Canary.isInitialized
      rw [hphase]
      rfl
    exact (Within.of_trace (rolling_looks hnot settings settled') h).1

/-! ### A baseline that is not ready, and a rolling canary -/

/-- A wrapper that lists no deployment yet. -/
def unlisted : Manifest where
  types := some ⟨"core.oam.dev/v1alpha1", "PodSpecWorkload"⟩
  metadata := { name := some "podinfo-primary", ns := some "prod" }
  body := .obj []

/-- A rolling canary that is initialized, as it is stored. -/
def settledCanary : Canary :=
  { sizedCanary .initialized 4 with
    metadata := { name := some "podinfo", ns := some "prod", resourceVersion := some "1" } }

/-- It is alone with its store. -/
def settledStart : Shared .replaced Unit (Except ControllerError Canary × Controller) where
  store := {
    objects := fun ns name => if ns = "prod" ∧ name = "podinfo" then some settledCanary else none
    issued := {"1"} }
  running _ := (settledCanary.prepare .default).run.run (.rolling (some (sizedWorkload .primary)))

theorem settledStart_run : ∃ events now c' k',
    Shared.Run settledStart events now ∧ now.running () = .done (.ok c', k') := by
  have h₁ := (Shared.Run.nil settledStart).snoc (.asked (i := ()) (r := .configRefs settledCanary) rfl
    (.aside (Except.ok []) (by simp) (by simp)))
  have h₂ := h₁.snoc (.asked (i := ()) (r := .workload (sizedWorkload .canary)) rfl
    (.aside (Except.ok unlisted) (by simp) (by simp)))
  have h₃ := h₂.snoc (.asked (i := ()) rfl (.read (c := settledCanary) rfl))
  have h₄ := h₃.snoc (.asked (i := ()) rfl (.aside default (by simp) (by simp)))
  have h₅ := h₄.snoc (.asked (i := ()) rfl
    (.written (o := settledCanary) rfl rfl (show "2" ∉ ({"1"} : Set String) by simp) rfl rfl))
  exact ⟨_, _, _, _, h₅, rfl⟩

theorem versioned_settledStart : settledStart.store.Versioned := by
  have hobject : ∀ {ns name o}, settledStart.store.objects ns name = some o →
      (ns = "prod" ∧ name = "podinfo") ∧ o = settledCanary := by
    intro ns name o ho
    unfold settledStart at ho
    obtain ⟨hplace, ho⟩ := Option.ite_none_right_eq_some.1 ho
    cases ho
    exact ⟨hplace, rfl⟩
  constructor
  · intro ns name o ho
    obtain ⟨-, rfl⟩ := hobject ho
    exact ⟨"1", rfl, rfl⟩
  · intro ns name ns' name' o o' ho ho' _
    obtain ⟨⟨rfl, rfl⟩, -⟩ := hobject ho
    obtain ⟨⟨rfl, rfl⟩, -⟩ := hobject ho'
    exact ⟨rfl, rfl⟩

/-- The wrapper holds a start back, with a verdict that may change; a canary that is underway is left alone, and the
rolling one moves on. -/
theorem prepare_gated_unlisted :
    (∃ log result, Trace (((sizedCanary .initializing 4).prepare .default).run.run .deployment) log
        (result, .deployment) ∧ writesIn log = [] ∧
      result = .error
        (.notReady "PodSpecWorkload" "podinfo-primary" "prod" true (.deploymentUnlisted "podinfo-primary"))) ∧
    ((sizedCanary .progressing 4).prepare .default).run.run .deployment =
      done (.ok (sizedCanary .progressing 4), .deployment) ∧
    ∃ events now c' k', Shared.Run settledStart events now ∧ now.running () = .done (.ok c', k') ∧
      c'.phase = .progressing := by
  refine ⟨?_, ((prepare_gated (sizedCanary .progressing 4) .default).1 .deployment rfl).1 rfl, ?_⟩
  · have htrace : Trace (((sizedCanary .initializing 4).prepare .default).run.run .deployment)
        [⟨.workload (sizedWorkload .primary), .ok unlisted⟩] (_, .deployment) := .cons _ (.nil _)
    obtain ⟨-, -, hplaced⟩ := (prepare_gated (sizedCanary .initializing 4) .default).1 .deployment rfl
    obtain ⟨baseline, hbaseline, hstarted⟩ := hplaced rfl _ (workload?_sizedCanary .initializing 4 .canary)
    rw [workload?_sizedCanary] at hbaseline
    obtain rfl := Option.some.inj hbaseline
    have hjudged : Task.Ok ((sizedCanary .initializing 4).judged (sizedWorkload .primary))
        [⟨.workload (sizedWorkload .primary), .ok unlisted⟩]
        (unlisted, .notReady true (.deploymentUnlisted "podinfo-primary")) := .cons _ (.nil _)
    obtain ⟨hresult, hwrites⟩ := (hstarted _ _ _ htrace).2.held _ _ _ ⟨rfl, _, List.prefix_refl _, hjudged⟩
    exact ⟨_, _, htrace, hwrites, hresult⟩
  · obtain ⟨events, now, c', k', hrun, hdone⟩ := settledStart_run
    obtain ⟨hphase, -⟩ := (prepare_gated settledCanary .default).2.2 hrun versioned_settledStart rfl rfl hdone
    exact ⟨events, now, c', k', hrun, hdone, hphase⟩

/-! ### A canary without a place -/

/-- A canary that says no namespace. -/
def unplacedCanary : Canary where
  metadata := { name := some "podinfo" }
  spec := { targetRef := ⟨"apps/v1", "Deployment", "podinfo", none⟩, skipAnalysis := true }

/-- No request of its start fails, and yet its workloads are not given their sizes. -/
theorem prepare_gated_unplaced : unplacedCanary.isInitializing = true ∧ ∃ log result,
    Trace ((unplacedCanary.prepare .default).run.run .deployment) log (result, .deployment) ∧
    (∀ e ∈ log, e.failed = false) ∧ result.isOk = false ∧ writesIn log = [] :=
  ⟨rfl, [], _, trace_done_iff.2 ⟨rfl, rfl⟩, by simp, rfl, rfl⟩

end Rollout
