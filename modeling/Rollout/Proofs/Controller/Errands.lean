/-
What a step does about workloads, in the order in which it does it. Whatever it is answered, a step goes on errands
(`Errand`): it reads, judges, hashes or scales the workload in a role as the controller knows it at that moment, asks
for something that is not about workloads, or looks for a baseline that is not known yet. Main statement:
`ControllerStep.work_goesOn`.
-/
import Rollout.Proofs.Controller.ColdStart
import Rollout.Proofs.Controller.Draining
import Rollout.Proofs.Status.Sync

namespace Rollout

open Program

/-! ## The baseline of a controller -/

/-- The baseline that a controller keeps. -/
def Controller.baseline? : Controller → Option WorkloadRef
  | .swap baseline _ => some baseline
  | .rolling settled => settled
  | _ => none

/-- A baseline that is kept is that of every canary. -/
theorem Controller.workload?_of_baseline? {k : Controller} {baseline : WorkloadRef} (h : k.baseline? = some baseline)
    (c : Canary) : k.workload? c .primary = some baseline := by
  cases k with
  | deployment | daemonSet | service => cases h
  | rolling | swap => exact h

/-- The scalings of a step do not depend on the baseline. -/
theorem Controller.Settles.scalings {k k' : Controller} (h : k.Settles k') (c : Canary) (step : ControllerStep) :
    step.scalings c k' = step.scalings c k := by
  cases h with
  | same => rfl
  | settled => cases step <;> rfl

/-- The baseline of a canary, found from the beginning. -/
def Canary.resolution (c : Canary) : Task WorkloadRef := do
  baselineRef (← c.resolveSource)

/-! ## What a step does with workloads -/

namespace ControllerStep

/-- The roles whose workloads a step looks at. -/
def looksAt : ControllerStep → List Role
  | .prepare | .requirePrimaryReady => [.primary]
  | .targetVerdict | .metadata => [.canary]
  | _ => []

/-- Whether a step reads the target for its hash. -/
def hashesTarget (k : Controller) : ControllerStep → Bool
  | .prepare => k.isRolling
  | .targetChanged => k.comparesHash
  | .targetHash | .syncStatus _ => true
  | _ => false

end ControllerStep

/-- Whether a request is about workloads or their history. -/
def Cluster.Request.concernsWorkloads : Cluster.Request → Bool
  | .workload _ | .revisions _ _ | .change _ _ | .scale _ _ => true
  | _ => false

/-- Whether a request lists a history. -/
def Cluster.Request.lists : Cluster.Request → Bool
  | .revisions _ _ => true
  | _ => false

/-- Something that a step on a canary does, with the controller before and after. -/
inductive Errand (c : Canary) (step : ControllerStep) :
    Controller → List (Exchange Cluster.interface) → Controller → Prop
  /-- The workload in a role is read. -/
  | read {k : Controller} {role : Role} {ref : WorkloadRef} (reply : Except AccessError Manifest) :
      role ∈ step.looksAt → k.workload? c role = some ref → Errand c step k [⟨.workload ref, reply⟩] k
  /-- The workload in a role is read and judged. -/
  | judged {k : Controller} {role : Role} {ref : WorkloadRef} {log : List (Exchange Cluster.interface)}
      {result : Except ControllerError (Manifest × Verdict)} :
      role ∈ step.looksAt → k.workload? c role = some ref → Trace (c.judged ref).run log result →
      Errand c step k log k
  /-- The target is read for its hash. -/
  | hashed {k : Controller} {ref : WorkloadRef} (reply : Except AccessError Manifest) :
      step.hashesTarget k = true → c.target? = some ref → Errand c step k [⟨.workload ref, reply⟩] k
  /-- The workload in a role is scaled. -/
  | sized {k : Controller} {role : Role} {replicas : Int32} {ref : WorkloadRef}
      (reply : Cluster.Reply (k.sizing ref replicas)) :
      (role, replicas) ∈ step.scalings c k → k.workload? c role = some ref →
      Errand c step k [⟨k.sizing ref replicas, reply⟩] k
  /-- Something else is asked than for workloads. -/
  | aside {k : Controller} {e : Exchange Cluster.interface} :
      e.request.concernsWorkloads = false → Errand c step k [e] k
  /-- The baseline is not found. Nothing comes of that. -/
  | unresolved {log : List (Exchange Cluster.interface)} {e : ControllerError} :
      Trace c.resolution.run log (.error e) → Errand c step (.rolling none) log (.rolling none)
  /-- The baseline is found, and kept. -/
  | resolved {log : List (Exchange Cluster.interface)} {baseline : WorkloadRef} :
      Task.Ok c.resolution log baseline → Errand c step (.rolling none) log (.rolling (some baseline))

/-- Errands one after another. -/
inductive Errands (c : Canary) (step : ControllerStep) :
    Controller → List (Exchange Cluster.interface) → Controller → Prop
  | nil (k : Controller) : Errands c step k [] k
  | cons {k k₁ k' : Controller} {log rest : List (Exchange Cluster.interface)} :
      Errand c step k log k₁ → Errands c step k₁ rest k' → Errands c step k (log ++ rest) k'

section Errands

variable {c : Canary} {step : ControllerStep} {k k₁ k' : Controller}
  {log log₁ log₂ : List (Exchange Cluster.interface)} {baseline : WorkloadRef}

theorem Errand.settles (h : Errand c step k log k') : k.Settles k' := by
  cases h with
  | read | judged | hashed | sized | aside | unresolved => exact .same _
  | resolved => exact .settled _

theorem Errands.settles (h : Errands c step k log k') : k.Settles k' := by
  induction h with
  | nil => exact .same _
  | cons herrand _ ih => exact herrand.settles.trans ih

theorem Errand.errands (h : Errand c step k log k') : Errands c step k log k' := by
  rw [← List.append_nil log]
  exact .cons h (.nil k')

theorem Errands.append (h₁ : Errands c step k log₁ k₁) (h₂ : Errands c step k₁ log₂ k') :
    Errands c step k (log₁ ++ log₂) k' := by
  induction h₁ with
  | nil => exact h₂
  | cons herrand _ ih =>
    rw [List.append_assoc]
    exact .cons herrand (ih h₂)

/-- What is not about workloads is an errand. -/
theorem errands_aside (h : ∀ e ∈ log, e.request.concernsWorkloads = false) : Errands c step k log k := by
  induction log with
  | nil => exact .nil k
  | cons e rest ih =>
    obtain ⟨he, hrest⟩ := List.forall_mem_cons.1 h
    exact .cons (.aside he) (ih hrest)

/-- With a baseline that is kept nothing is resolved. -/
theorem Errand.eq_of_baseline? (h : Errand c step k log k') (hk : k.baseline? = some baseline) : k' = k := by
  cases h with
  | read | judged | hashed | sized | aside => rfl
  | unresolved | resolved => cases hk

/-- With a baseline that is kept no history is listed. -/
theorem Errands.unlisted (h : Errands c step k log k') (hk : k.baseline? = some baseline) :
    ∀ e ∈ log, e.request.lists = false := by
  induction h with
  | nil => simp
  | @cons k k₁ _ log rest herrand _ ih =>
    have hkept := herrand.eq_of_baseline? hk
    refine List.forall_mem_append.2 ⟨?_, ih (hkept ▸ hk)⟩
    cases herrand with
    | read | hashed => simp [Cluster.Request.lists]
    | judged _ _ hjudged =>
      intro e he
      have hjudges := (Canary.judged_judges c _).of_mem hjudged e he
      cases hrequest : e.request <;> rw [hrequest] at hjudges <;> first | rfl | exact hjudges.elim
    | sized reply =>
      rw [List.forall_mem_singleton]
      cases k <;> rfl
    | aside haside =>
      rw [List.forall_mem_singleton]
      cases hrequest : Exchange.request _ <;> rw [hrequest] at haside <;> first | rfl | cases haside
    | unresolved | resolved => cases hk

theorem Errands.eq_of_baseline? (h : Errands c step k log k') (hk : k.baseline? = some baseline) : k' = k := by
  induction h with
  | nil => rfl
  | cons herrand _ ih =>
    obtain rfl := herrand.eq_of_baseline? hk
    exact ih hk

/-- Errands without a baseline leave none, or come by one success of its resolution, and keep it from then on. -/
theorem Errands.resolved_once (h : Errands c step (.rolling none) log k') :
    k' = .rolling none ∨ ∃ baseline before found after, k' = .rolling (some baseline) ∧
      log = before ++ found ++ after ∧ Errands c step (.rolling none) before (.rolling none) ∧
      Task.Ok c.resolution found baseline ∧
        Errands c step (.rolling (some baseline)) after (.rolling (some baseline)) := by
  obtain ⟨k, hk⟩ : ∃ k, k = Controller.rolling none := ⟨_, rfl⟩
  rw [← hk] at h
  induction h with
  | nil => exact .inl hk
  | @cons k k₁ k' first rest herrand hrest ih =>
    subst hk
    -- an errand that leaves no baseline goes before
    have hstays : ∀ {log rest}, Errand c step (.rolling none) log (.rolling none) → (k' = .rolling none ∨
        ∃ baseline before found after, k' = .rolling (some baseline) ∧ rest = before ++ found ++ after ∧
          Errands c step (.rolling none) before (.rolling none) ∧ Task.Ok c.resolution found baseline ∧
          Errands c step (.rolling (some baseline)) after (.rolling (some baseline))) →
        (k' = .rolling none ∨ ∃ baseline before found after, k' = .rolling (some baseline) ∧
          log ++ rest = before ++ found ++ after ∧ Errands c step (.rolling none) before (.rolling none) ∧
          Task.Ok c.resolution found baseline ∧
          Errands c step (.rolling (some baseline)) after (.rolling (some baseline))) := by
      rintro log rest hfirst (hnone | ⟨baseline, before, found, after, hkept, rfl, hbefore, hfound, hafter⟩)
      · exact .inl hnone
      · exact .inr ⟨baseline, log ++ before, found, after, hkept, by simp only [List.append_assoc],
          hfirst.errands.append hbefore, hfound, hafter⟩
    cases herrand with
    | read reply hrole href => exact hstays (.read reply hrole href) (ih rfl)
    | judged hrole href htrace => exact hstays (.judged hrole href htrace) (ih rfl)
    | hashed reply hhashes htarget => exact hstays (.hashed reply hhashes htarget) (ih rfl)
    | sized reply hscaling href => exact hstays (.sized reply hscaling href) (ih rfl)
    | aside haside => exact hstays (.aside haside) (ih rfl)
    | unresolved htrace => exact hstays (.unresolved htrace) (ih rfl)
    | @resolved _ baseline hfound =>
      obtain rfl := hrest.eq_of_baseline? rfl
      exact .inr ⟨baseline, [], first, rest, rfl, rfl, .nil _, hfound, hrest⟩

end Errands

/-! ## Tasks that go on errands -/

section Tasks

variable {α β : Type} {c : Canary} {step : ControllerStep} {k : Controller}

/-- Whatever it is answered, the task goes on errands. -/
def Task.GoesOn (c : Canary) (step : ControllerStep) (k : Controller) (t : Task α) : Prop :=
  ∀ log r, Trace t.run log r → Errands c step k log k

theorem Task.GoesOn.bind {t : Task α} {f : α → Task β} (ht : Task.GoesOn c step k t)
    (hf : ∀ a, Task.GoesOn c step k (f a)) : Task.GoesOn c step k (t >>= f) := by
  intro log r h
  rcases Task.trace_bind_iff.1 h with ⟨e, herror, -⟩ | ⟨l₁, l₂, a, rfl, hfirst, hsecond⟩
  · exact ht log _ herror
  · exact (ht l₁ _ hfirst).append (hf a l₂ r hsecond)

/-- A task that asks nothing about workloads. -/
theorem Task.goesOn_aside {t : Task α} (h : t.run.Asks fun r : Cluster.Request => r.concernsWorkloads = false) :
    Task.GoesOn c step k t :=
  fun _ _ htrace => errands_aside (h.of_mem htrace)

theorem Cluster.Request.Updates.aside {r : Cluster.Request} (h : r.Updates) : r.concernsWorkloads = false := by
  cases r <;> first | rfl | exact h.elim

theorem Task.goesOn_updateStatus (settings : Settings) (delta : StatusDelta) :
    Task.GoesOn c step k (c.updateStatus settings delta) :=
  Task.goesOn_aside ((updateAttempts_updates settings c.ns c.name delta _ _).mono fun _ h => h.aside)

/-- A task that reads a workload that is looked at, and judges it. -/
theorem Task.goesOn_judged {role : Role} {ref : WorkloadRef} (hrole : role ∈ step.looksAt)
    (href : k.workload? c role = some ref) : Task.GoesOn c step k (c.judged ref) :=
  fun _ _ htrace => (Errand.judged hrole href htrace).errands

theorem Task.goesOn_verdict {role : Role} {ref : WorkloadRef} (hrole : role ∈ step.looksAt)
    (href : k.workload? c role = some ref) : Task.GoesOn c step k (do c.verdict (← Task.workload ref)) := by
  intro log r h
  -- with its object the verdict is a judgement
  have hjudged : ∃ r', Trace (c.judged ref).run log r' := by
    rcases Task.trace_bind_iff.1 h with ⟨e, herror, -⟩ | ⟨l₁, l₂, object, rfl, hread, hverdict⟩
    · exact ⟨.error e, Task.trace_bind_iff.2 (.inl ⟨e, herror, rfl⟩)⟩
    · cases r with
      | error e =>
        exact ⟨.error e, Task.trace_bind_iff.2 (.inr ⟨l₁, l₂, object, rfl, hread,
          Task.trace_bind_iff.2 (.inl ⟨e, hverdict, rfl⟩)⟩)⟩
      | ok verdict =>
        exact ⟨.ok (object, verdict), Task.trace_bind_iff.2 (.inr ⟨l₁, l₂, object, rfl, hread,
          Task.trace_bind_iff.2 (.inr ⟨l₂, [], verdict, by rw [List.append_nil], hverdict,
            Task.trace_pure_iff.2 ⟨rfl, rfl⟩⟩)⟩)⟩
  obtain ⟨r', htrace⟩ := hjudged
  exact Task.goesOn_judged hrole href log r' htrace

/-- Where the target may be read for its hash. -/
theorem Task.goesOn_targetHash (hhashes : step.hashesTarget k = true) : Task.GoesOn c step k c.targetHash := by
  intro log r h
  cases htarget : c.target? with
  | none =>
    rw [Canary.run_targetHash_of_unplaced htarget] at h
    obtain ⟨rfl, -⟩ := trace_done_iff.1 h
    exact .nil k
  | some target =>
    rw [Canary.run_targetHash htarget] at h
    obtain ⟨reply, rest, rfl, hdone⟩ := trace_ask_iff.1 h
    cases reply with
    | error e =>
      obtain ⟨rfl, -⟩ := trace_done_iff.1 hdone
      exact (Errand.hashed _ hhashes htarget).errands
    | ok object =>
      obtain ⟨rfl, -⟩ := trace_done_iff.1 hdone
      exact (Errand.hashed _ hhashes htarget).errands

theorem Task.goesOn_completeDelta (hhashes : step.hashesTarget k = true) (d : StatusDelta) :
    Task.GoesOn c step k (c.completeDelta d) := by
  intro log r h
  have htracker : ∀ answer, Errand c step k [⟨.configRefs c, answer⟩] k := fun _ => .aside rfl
  rcases Canary.completeDelta_settles h with ⟨e, hstops, -⟩ | ⟨refs, hash, hprepares, -⟩
  · cases hstops with
    | tracker | unplaced => exact (htracker _).errands
    | target _ _ htarget => exact .cons (htracker _) (Errand.hashed _ hhashes htarget).errands
  · cases hprepares with
    | given => exact (htracker _).errands
    | read _ _ htarget => exact .cons (htracker _) (Errand.hashed _ hhashes htarget).errands

theorem Task.goesOn_syncStatus (hhashes : step.hashesTarget k = true) (settings : Settings) (d : StatusDelta) :
    Task.GoesOn c step k (c.syncStatus settings d) :=
  (Task.goesOn_completeDelta hhashes d).bind fun _ => Task.goesOn_updateStatus settings _

end Tasks

/-! ## Operations that go on errands -/

namespace Operation

variable {α β : Type} {c : Canary} {step : ControllerStep} {k : Controller}
  {post : α → Controller → Prop} {post' : β → Controller → Prop}

/-- Whatever it is answered, the operation goes on errands, and what a success gives is as it should be. -/
def GoesOn (c : Canary) (step : ControllerStep) (k : Controller) (x : Operation α) (post : α → Controller → Prop) :
    Prop :=
  ∀ log r k', Trace (x.run.run k) log (r, k') → Errands c step k log k' ∧ ∀ a, r = .ok a → post a k'

theorem GoesOn.mono {post₁ : α → Controller → Prop} {x : Operation α} (hx : GoesOn c step k x post)
    (h : ∀ a k', post a k' → post₁ a k') : GoesOn c step k x post₁ := fun log r k' htrace =>
  (hx log r k' htrace).imp id fun hpost a ha => h a k' (hpost a ha)

/-- On errands a baseline is settled at most. -/
theorem GoesOn.settling {x : Operation α} (hx : GoesOn c step k x post) :
    GoesOn c step k x fun a k' => k.Settles k' ∧ post a k' := fun log r k' htrace => by
  obtain ⟨herrands, hpost⟩ := hx log r k' htrace
  exact ⟨herrands, fun a ha => ⟨herrands.settles, hpost a ha⟩⟩

theorem GoesOn.bind {x : Operation α} {f : α → Operation β} (hx : GoesOn c step k x post)
    (hf : ∀ a k₁, post a k₁ → GoesOn c step k₁ (f a) post') : GoesOn c step k (x >>= f) post' := by
  intro log r k' h
  obtain ⟨l₁, l₂, ⟨e | a, k₁⟩, rfl, hfirst, hsecond⟩ :=
    trace_bind_iff.1 (show Trace ((x.run.run k).bind _) log (r, k') from h)
  · obtain ⟨rfl, heq⟩ := trace_done_iff.1 hsecond
    cases heq
    rw [List.append_nil]
    exact ⟨(hx l₁ _ k' hfirst).1, fun _ h => by cases h⟩
  · obtain ⟨herrands, hpost⟩ := hx l₁ _ k₁ hfirst
    obtain ⟨hrest, hpost'⟩ := hf a k₁ (hpost a rfl) l₂ r k' hsecond
    exact ⟨herrands.append hrest, hpost'⟩

/-- A task leaves the controller as it is. -/
theorem goesOn_task {t : Task α} (ht : Task.GoesOn c step k t) :
    GoesOn c step k (monadLift t) fun _ k' => k' = k := by
  intro log r k' h
  obtain ⟨htrace, rfl⟩ := (performs_task t).trace_iff.1 h
  exact ⟨ht log r htrace, fun _ _ => rfl⟩

/-- An operation that is a task. -/
theorem goesOn_of_performs {x : Operation α} {t : Task α} (hx : Performs k x t) (ht : Task.GoesOn c step k t) :
    GoesOn c step k x fun _ k' => k' = k := by
  intro log r k' h
  obtain ⟨htrace, rfl⟩ := hx.trace_iff.1 h
  exact ⟨ht log r htrace, fun _ _ => rfl⟩

theorem goesOn_pure (a : α) : GoesOn c step k (pure a) fun b k' => b = a ∧ k' = k := by
  intro log r k' h
  obtain ⟨rfl, heq⟩ := trace_done_iff.1 (show Trace (done (Except.ok a, k)) log (r, k') from h)
  cases heq
  exact ⟨.nil k, fun b hb => by cases hb; exact ⟨rfl, rfl⟩⟩

theorem goesOn_throw (e : ControllerError) : GoesOn c step k (throw e : Operation α) post := by
  intro log r k' h
  obtain ⟨rfl, heq⟩ := trace_done_iff.1 (show Trace (done (Except.error e, k)) log (r, k') from h)
  cases heq
  exact ⟨.nil k, fun _ h => by cases h⟩

theorem goesOn_get : GoesOn c step k get fun k₁ k' => k₁ = k ∧ k' = k := by
  intro log r k' h
  obtain ⟨rfl, heq⟩ := trace_done_iff.1 (show Trace (done (Except.ok k, k)) log (r, k') from h)
  cases heq
  exact ⟨.nil k, fun b hb => by cases hb; exact ⟨rfl, rfl⟩⟩

theorem goesOn_done {t : Task α} (h : t.run.Asks fun _ => False) : GoesOn c step k (monadLift t) fun _ k' => k' = k :=
  goesOn_task (Task.goesOn_aside (h.mono fun _ hfalse => hfalse.elim))

/-! ### The baseline -/

/-- With no baseline to keep, that is resolved from the beginning, and kept if that succeeds. -/
theorem run_settledBaseline_none (c : Canary) : (c.settledBaseline none).run.run (.rolling none) =
    c.resolution.run.bind fun
      | .error e => done (.error e, .rolling none)
      | .ok baseline => done (.ok baseline, .rolling (some baseline)) := by
  show ((c.resolveSource.run.bind _).bind _ : Program Cluster.interface _) = (c.resolveSource.run.bind _).bind _
  rw [Program.bind_assoc, Program.bind_assoc]
  refine congrArg c.resolveSource.run.bind (funext fun r => ?_)
  cases r with
  | error e => rfl
  | ok object =>
    show (((baselineRef object).run.bind _).bind _ : Program Cluster.interface _) = (baselineRef object).run.bind _
    rw [Program.bind_assoc]
    refine congrArg (baselineRef object).run.bind (funext fun r => ?_)
    cases r <;> rfl

theorem goesOn_settledBaseline (c : Canary) (step : ControllerStep) (settled : Option WorkloadRef) :
    GoesOn c step (.rolling settled) (c.settledBaseline settled) fun ref k' => k' = .rolling (some ref) := by
  cases settled with
  | some baseline => exact (goesOn_pure baseline).mono fun _ _ ⟨hb, hk⟩ => by rw [hb, hk]
  | none =>
    intro log r k' h
    rw [run_settledBaseline_none] at h
    obtain ⟨l₁, l₂, r', rfl, hresolved, hkept⟩ := trace_bind_iff.1 h
    cases r' with
    | error e =>
      obtain ⟨rfl, heq⟩ := trace_done_iff.1 hkept
      cases heq
      rw [List.append_nil]
      exact ⟨(Errand.unresolved hresolved).errands, fun _ h => by cases h⟩
    | ok baseline =>
      obtain ⟨rfl, heq⟩ := trace_done_iff.1 hkept
      cases heq
      rw [List.append_nil]
      exact ⟨(Errand.resolved hresolved).errands, fun _ h => by cases h; rfl⟩

/-- What is found for a role is the workload that the controller then knows for it. -/
theorem goesOn_workloadFor (c : Canary) (step : ControllerStep) (k : Controller) (role : Role) :
    GoesOn c step k (c.workloadFor role) fun ref k' => k'.workload? c role = some ref := by
  intro log r k' h
  have hkeeps : Keeps Cluster.Request.Looks k (c.workloadFor role) fun ref k' => k'.workload? c role = some ref :=
    keeps_workloadFor (fun _ h => h) c k role
  obtain ⟨-, -, hfound⟩ := Within.of_trace hkeeps h
  refine ⟨?_, hfound⟩
  have hplaced : ∀ {x : Option WorkloadRef}, Operation.GoesOn c step k
      (monadLift (Task.ofExcept id (c.placed x)) : Operation WorkloadRef) fun _ k' => k' = k := fun {x} =>
    goesOn_done (by cases x <;> trivial)
  have hknown : ∀ {ref : WorkloadRef}, k.workload? c role = some ref → Errands c step k log k' := fun href => by
    rw [run_workloadFor href] at h
    obtain ⟨rfl, heq⟩ := trace_done_iff.1 h
    cases heq
    exact .nil _
  cases k with
  | deployment | daemonSet | service =>
    cases role with
    | primary => exact (hplaced log r k' h).1
    | canary => exact (hplaced log r k' h).1
  | rolling settled =>
    cases role with
    | primary => exact (goesOn_settledBaseline c step settled log r k' h).1
    | canary => exact (hplaced log r k' h).1
  | swap baseline target =>
    cases role with
    | primary => exact hknown rfl
    | canary => exact hknown rfl

/-! ### Scaling -/

/-- A scaling of the step is made to the workload in its role. -/
theorem goesOn_scale {role : Role} {replicas : Int32} (hscaling : (role, replicas) ∈ step.scalings c k) :
    GoesOn c step k (c.scale role replicas) fun _ _ => True := by
  refine GoesOn.bind goesOn_get fun _ k hk => ?_
  obtain ⟨rfl, rfl⟩ := hk
  have hdone : ∀ {k : Controller} (reply : Except AccessError Unit), GoesOn c step k
      (monadLift (Task.ofExcept .access reply) : Operation Unit) fun _ _ => True := fun reply =>
    (goesOn_done (by cases reply <;> trivial)).mono fun _ _ _ => trivial
  have hsized : ∀ {k₁ : Controller} {ref : WorkloadRef} {r : Cluster.Request}, k.Settles k₁ →
      k₁.workload? c role = some ref → r = k₁.sizing ref replicas → Task.GoesOn c step k₁ (Task.ask r) := by
    rintro k₁ ref _ hsettles href rfl log r h
    obtain ⟨reply, rest, rfl, hdone⟩ := trace_ask_iff.1 h
    obtain ⟨rfl, -⟩ := trace_done_iff.1 hdone
    exact (Errand.sized reply (hsettles.scalings c step ▸ hscaling) href).errands
  cases k with
  | service => exact (goesOn_pure ()).mono fun _ _ _ => trivial
  | deployment | daemonSet | rolling | swap =>
    refine GoesOn.bind (goesOn_workloadFor c step _ role).settling fun ref k₁ ⟨hsettles, href⟩ => ?_
    exact GoesOn.bind (goesOn_task (hsized hsettles href (hsettles.sizing ref replicas).symm)) fun reply k₂ _ =>
      hdone reply

end Operation

/-! ## Steps that go on errands -/

namespace Operation

variable {α : Type} {c : Canary} {step : ControllerStep} {k : Controller}

theorem goesOn_requirePrimaryReady (hrole : Role.primary ∈ step.looksAt) :
    GoesOn c step k c.requirePrimaryReady fun _ _ => True := by
  refine GoesOn.bind goesOn_get fun _ k hk => ?_
  obtain ⟨rfl, rfl⟩ := hk
  cases k with
  | service => exact (goesOn_pure ()).mono fun _ _ _ => trivial
  | deployment | daemonSet | rolling | swap =>
    refine GoesOn.bind (goesOn_workloadFor c step _ .primary) fun ref k₁ href => ?_
    -- what comes once the workload is at hand is a judgement
    have hjudged : Performs k₁ (do
        let object ← Task.workload ref
        Task.ofExcept id ((← c.verdict object).require object)) (do
        let judged ← c.judged ref
        Task.ofExcept id (judged.2.require judged.1)) := by
      unfold Canary.judged
      rw [LawfulMonad.bind_assoc]
      refine .bind (performs_task _) fun object => ?_
      rw [LawfulMonad.bind_assoc]
      exact .bind (performs_task _) fun verdict => performs_task _
    refine (goesOn_of_performs hjudged ?_).mono fun _ _ _ => trivial
    exact (Task.goesOn_judged hrole href).bind fun judged => Task.goesOn_aside Task.asks_ofExcept

theorem goesOn_targetVerdict (hrole : Role.canary ∈ step.looksAt) :
    GoesOn c step k c.targetVerdict fun _ _ => True := by
  refine GoesOn.bind goesOn_get fun _ k hk => ?_
  obtain ⟨rfl, rfl⟩ := hk
  cases k with
  | service => exact (goesOn_pure _).mono fun _ _ _ => trivial
  | deployment | daemonSet | rolling | swap =>
    refine GoesOn.bind (goesOn_workloadFor c step _ .canary) fun ref k₁ href => ?_
    have hverdict : Performs k₁ (do
        let object ← Task.workload ref
        c.verdict object) (do c.verdict (← Task.workload ref)) :=
      .bind (performs_task _) fun object => performs_task _
    exact (goesOn_of_performs hverdict (Task.goesOn_verdict hrole href)).mono fun _ _ _ => trivial

theorem goesOn_targetMetadata (hrole : Role.canary ∈ step.looksAt) (settings : Settings) :
    GoesOn c step k (c.targetMetadata settings) fun _ _ => True := by
  refine GoesOn.bind goesOn_get fun _ k hk => ?_
  obtain ⟨rfl, rfl⟩ := hk
  cases k with
  | service => exact (goesOn_pure _).mono fun _ _ _ => trivial
  | deployment | daemonSet | rolling | swap =>
    refine GoesOn.bind (goesOn_workloadFor c step _ .canary) fun ref k₁ href => ?_
    have hread : Task.GoesOn c step k₁ (Task.workload ref) := by
      intro log r h
      obtain ⟨reply, rest, rfl, hdone⟩ := Task.trace_ask_bind_iff.1 h
      obtain rfl : rest = [] := by
        cases reply with
        | error e => exact (Task.trace_throw_iff.1 hdone).1
        | ok object => exact (Task.trace_pure_iff.1 hdone).1
      exact (Errand.read reply hrole href).errands
    refine GoesOn.bind (goesOn_task hread) fun object k₂ _ => ?_
    exact (goesOn_done (Task.asks_ofExcept)).mono fun _ _ _ => trivial

theorem goesOn_targetChanged (hhashes : ∀ k : Controller, k.comparesHash = true → step.hashesTarget k = true) :
    GoesOn c step k c.targetChanged fun _ _ => True := by
  refine GoesOn.bind goesOn_get fun _ k hk => ?_
  obtain ⟨rfl, rfl⟩ := hk
  cases k with
  | rolling | swap => exact (goesOn_pure _).mono fun _ _ _ => trivial
  | deployment | daemonSet | service =>
    refine GoesOn.bind (goesOn_task (Task.goesOn_targetHash (hhashes _ rfl))) fun _ _ _ => ?_
    exact (goesOn_pure _).mono fun _ _ _ => trivial

theorem goesOn_dependenciesChanged : GoesOn c step k c.dependenciesChanged fun _ _ => True := by
  refine GoesOn.bind goesOn_get fun _ k hk => ?_
  obtain ⟨rfl, rfl⟩ := hk
  cases k with
  | service => exact (goesOn_pure _).mono fun _ _ _ => trivial
  | deployment | daemonSet | rolling | swap =>
    refine GoesOn.bind (goesOn_task (Task.goesOn_aside (Task.asks_ask rfl))) fun reply k₁ _ => ?_
    have hanswer : ∀ b : Bool, GoesOn c step k₁ (pure b) fun _ _ => True := fun b =>
      (goesOn_pure b).mono fun _ _ _ => trivial
    cases reply with
    | ok changed => exact hanswer changed
    | error e =>
      show GoesOn c step k₁ (ite _ _ _ : Operation Bool) _
      split
      · exact hanswer false
      · exact goesOn_throw _

theorem goesOn_prepare (settings : Settings) (k : Controller) :
    GoesOn c .prepare k (c.prepare settings) fun _ _ => True := by
  have hgate : ∀ k, GoesOn c .prepare k c.requirePrimaryReady fun _ _ => True := fun k =>
    goesOn_requirePrimaryReady (List.mem_singleton_self _)
  have hreturn : ∀ k, GoesOn c .prepare k (pure c) fun _ _ => True := fun k =>
    (goesOn_pure c).mono fun _ _ _ => trivial
  refine GoesOn.bind goesOn_get fun _ k hk => ?_
  obtain ⟨rfl, rfl⟩ := hk
  cases k with
  | service => exact hreturn _
  | rolling settled =>
    refine GoesOn.bind (goesOn_settledBaseline c .prepare settled) fun ref k₁ hk₁ => ?_
    extract_lets moveOn
    have hmove : ∀ k, k = Controller.rolling (some ref) → GoesOn c .prepare k (moveOn ()) fun _ _ => True := by
      rintro _ rfl
      show GoesOn c .prepare _ (ite _ _ _ : Operation Canary) _
      split
      · exact (goesOn_task (Task.goesOn_syncStatus rfl settings _)).mono fun _ _ _ => trivial
      · exact hreturn _
    split
    · refine GoesOn.bind (hgate k₁).settling fun _ k₂ ⟨hsettles, _⟩ => hmove k₂ ?_
      subst hk₁
      cases hsettles
      rfl
    · exact hmove k₁ hk₁
  | deployment | daemonSet | swap =>
    show GoesOn c .prepare _ (ite _ _ _ : Operation Canary) _
    split
    · rename_i hinitial
      have hsizes : ∀ {k : Controller}, c.preparation k = [(.canary, 0), (.primary, c.fullSize k)] →
          GoesOn c .prepare k (do
            c.scale .canary 0
            let _ ← c.scale .primary (c.fullSize k)
            pure c) fun _ _ => True := by
        intro k hpreparation
        have hcanary : (Role.canary, 0) ∈ ControllerStep.prepare.scalings c k := by
          show _ ∈ c.preparation k
          rw [hpreparation]
          simp
        have hprimary : (Role.primary, c.fullSize k) ∈ ControllerStep.prepare.scalings c k := by
          show _ ∈ c.preparation k
          rw [hpreparation]
          simp
        refine GoesOn.bind (goesOn_scale hcanary).settling fun _ k₁ ⟨hsettles, _⟩ => ?_
        exact GoesOn.bind (goesOn_scale (hsettles.scalings c .prepare ▸ hprimary)) fun _ k₂ _ => hreturn k₂
      have hpreparation : ∀ {k : Controller} {sizes : List (Role × Int32)},
          c.preparation k = (if c.isInitializing then sizes else []) → c.preparation k = sizes := fun h =>
        h.trans (if_pos hinitial)
      dsimp only
      split
      · refine GoesOn.bind (hgate _).settling fun _ k₁ ⟨hsettles, _⟩ => ?_
        cases hsettles
        exact hsizes (hpreparation rfl)
      · exact hsizes (hpreparation rfl)
    · exact hreturn _

theorem goesOn_finalize (k : Controller) : GoesOn c .finalize k c.finalize fun _ _ => True := by
  refine GoesOn.bind goesOn_get fun _ k hk => ?_
  obtain ⟨rfl, rfl⟩ := hk
  exact goesOn_scale (List.mem_singleton_self _)

theorem goesOn_scaleToZero (k : Controller) : GoesOn c .scaleToZero k c.scaleToZero fun _ _ => True := by
  refine GoesOn.bind goesOn_get fun _ k hk => ?_
  obtain ⟨rfl, rfl⟩ := hk
  cases k with
  | service | rolling => exact (goesOn_pure _).mono fun _ _ _ => trivial
  | deployment | daemonSet | swap => exact goesOn_scale (List.mem_singleton_self _)

theorem goesOn_scaleFromZero (k : Controller) : GoesOn c .scaleFromZero k c.scaleFromZero fun _ _ => True := by
  refine GoesOn.bind goesOn_get fun _ k hk => ?_
  obtain ⟨rfl, rfl⟩ := hk
  cases k with
  | service | rolling | swap => exact (goesOn_pure _).mono fun _ _ _ => trivial
  | deployment | daemonSet => exact goesOn_scale (List.mem_singleton_self _)

end Operation

/-! ## Steps -/

/-- What the controller and the router are asked for coordinated work are errands, if its scalings are the step's. -/
theorem Coordinated.errands_of_carried {α : Type} {c : Canary} {step : ControllerStep}
    {p : Program Coordination.interface α} {k k' : Controller} {calls : List (Exchange Coordination.interface)}
    {log : List (Exchange Cluster.interface)} {r : α} (h : Carried c.coordination p k calls log r k')
    (hasks : p.Asks (Scales (step.scalings c k))) : Errands c step k log k' := by
  induction h with
  | done => exact .nil _
  | @ask request _ k k₁ _ _ l₁ _ reply _ hfirst _ ih =>
    have herrands : Errands c step k l₁ k₁ := by
      -- what is asked of the router goes to it as it is
      have hrouted : ∀ {routing : Cluster.Request} {x : Cluster.Reply routing × Controller},
          routing.concernsWorkloads = false →
          Trace (Program.ask (I := Cluster.interface) routing fun reply => done (reply, k)) l₁ x →
          Errands c step k l₁ x.2 := by
        intro routing x haside htrace
        obtain ⟨reply, rest, rfl, hdone⟩ := trace_ask_iff.1 htrace
        obtain ⟨rfl, rfl⟩ := trace_done_iff.1 hdone
        exact (Errand.aside haside).errands
      cases request with
      | reconcile => exact hrouted rfl hfirst
      | setRoutes weights => exact hrouted rfl hfirst
      | getRoutes => exact hrouted rfl hfirst
      | scale role replicas => exact (Operation.goesOn_scale hasks.1 l₁ reply k₁ hfirst).1
      | locate role => exact (Operation.goesOn_workloadFor c step k role l₁ reply k₁ hfirst).1
    refine herrands.append (ih ?_)
    rw [herrands.settles.scalings]
    exact hasks.2 reply

/-- Whatever it is answered, a step goes on errands. -/
theorem ControllerStep.work_goesOn (settings : Settings) (c : Canary) (k : Controller) (step : ControllerStep)
    {log : List (Exchange Cluster.interface)} {k' : Controller} (h : Trace (step.work settings c k) log k') :
    Errands c step k log k' := by
  have hoperated : ∀ {α : Type} {x : Operation α} {post : α → Controller → Prop}, Operation.GoesOn c step k x post →
      Trace (work.operated k x) log k' → Errands c step k log k' := by
    intro α x post hx htrace
    obtain ⟨l₁, l₂, ⟨r, k₁⟩, rfl, hfirst, hdone⟩ := trace_bind_iff.1 htrace
    obtain ⟨rfl, rfl⟩ := trace_done_iff.1 hdone
    rw [List.append_nil]
    exact (hx l₁ r _ hfirst).1
  have hcoordinated : ∀ {α : Type} {x : Coordinated α}, x.run.Asks (Coordinated.Scales (step.scalings c k)) →
      Trace (work.coordinated c k x) log k' → Errands c step k log k' := by
    intro α x hx htrace
    obtain ⟨l₁, l₂, ⟨r, k₁⟩, rfl, hfirst, hdone⟩ := trace_bind_iff.1 htrace
    obtain ⟨rfl, rfl⟩ := trace_done_iff.1 hdone
    rw [List.append_nil]
    obtain ⟨calls, hcarried⟩ := trace_run_iff.1 hfirst
    exact Coordinated.errands_of_carried hcarried hx
  have hrecorded : ∀ {β : Type} {p : Program Cluster.interface β}, (∀ l r, Trace p l r → Errands c step k l k) →
      Trace (p.bind fun _ => done k) log k' → Errands c step k log k' := by
    intro β p hp htrace
    obtain ⟨l₁, l₂, r, rfl, hfirst, hdone⟩ := trace_bind_iff.1 htrace
    obtain ⟨rfl, rfl⟩ := trace_done_iff.1 hdone
    rw [List.append_nil]
    exact hp l₁ r hfirst
  cases step with
  | name | finalizeRoutes =>
    obtain ⟨rfl, rfl⟩ := trace_done_iff.1 h
    exact .nil _
  | prepare => exact hoperated (Operation.goesOn_prepare settings k) h
  | requirePrimaryReady => exact hoperated (Operation.goesOn_requirePrimaryReady (List.mem_singleton_self _)) h
  | targetVerdict => exact hoperated (Operation.goesOn_targetVerdict (List.mem_singleton_self _)) h
  | scaleToZero => exact hoperated (Operation.goesOn_scaleToZero k) h
  | scaleFromZero => exact hoperated (Operation.goesOn_scaleFromZero k) h
  | metadata => exact hoperated (Operation.goesOn_targetMetadata (List.mem_singleton_self _) settings) h
  | targetChanged => exact hoperated (Operation.goesOn_targetChanged fun _ hk => hk) h
  | dependenciesChanged => exact hoperated Operation.goesOn_dependenciesChanged h
  | targetHash => exact hoperated (Operation.goesOn_task (Task.goesOn_targetHash rfl)) h
  | finalize => exact hoperated (Operation.goesOn_finalize k) h
  | promote =>
    refine hrecorded (fun l r htrace => errands_aside fun e he => ?_) h
    exact ((promote_updates settings c).of_mem htrace e he).aside
  | syncStatus delta => exact hrecorded (Task.goesOn_syncStatus rfl settings delta) h
  | writeStatus delta => exact hrecorded (Task.goesOn_updateStatus settings delta) h
  | locate role => exact hoperated (Operation.goesOn_workloadFor c (.locate role) k role) h
  | scale role replicas => exact hoperated (Operation.goesOn_scale (List.mem_singleton_self _)) h
  | reconcile | getRoutes =>
    refine hcoordinated ?_ h
    exact ⟨trivial, fun _ => trivial⟩
  | setRoutes weights => exact hcoordinated (Coordinated.setRoutes_asks c weights) h

end Rollout
