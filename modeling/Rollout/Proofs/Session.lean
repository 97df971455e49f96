/-
The work of a session, by the run of its programs on the session's world. Main statement:
`ControllerStep.takeControllerStep_eq`, a step of the controller fails where a program of its own does; so what a step
asks of the API is a run of that program (`ControllerStep.exists_trace_takeControllerStep`).
-/
import Rollout.Proofs.Faults
import Rollout.Session.Step

namespace Rollout

open Program

/-! ## Sessions -/

/-- What the caller of work on a canary is left with: its own canary, unless the work has given it as it is stored. -/
def Canary.left (c : Canary) : Except ControllerError Canary → Except ControllerError Unit × Canary
  | .ok stored => (.ok (), stored)
  | .error e => (.error e, c)

namespace Session

variable {α : Type} {s : Session} {w : World}

theorem perform_eq {p : Program Cluster.interface α} {a : α} (h : (p.run s.backend.answer).run s.world = (a, w)) :
    Session.perform p s = (a, { s with world := w }) := by
  unfold Session.perform
  rw [h]

theorem operate_eq {k k' : Controller} {x : Operation α} {r : Except ControllerError α}
    (h : ((x.run.run k).run s.backend.answer).run s.world = ((r, k'), w)) :
    Session.operate k x s = (r, { s with world := w, controller := some k' }) := by
  rw [Session.operate, bind_apply (perform_eq h)]
  rfl

theorem refresh_eq {work : Task Canary} {r : Except ControllerError Canary}
    (h : (work.run.run s.backend.answer).run s.world = (r, w)) :
    Session.refresh work s = ((s.canary.left r).1, { s with world := w, canary := (s.canary.left r).2 }) := by
  rw [Session.refresh, bind_apply (perform_eq h)]
  cases r <;> rfl

/-- A step that starts a rollout leaves the controller and the canary of the start. -/
theorem prepare_eq {k k' : Controller} {r : Except ControllerError Canary}
    (h : (((s.canary.prepare s.settings).run.run k).run s.backend.answer).run s.world = ((r, k'), w)) :
    Session.takeControllerStep k .prepare s =
      (conclude .controller (fun _ => .done) (s.canary.left r).1,
        { s with world := w, controller := some k', canary := (s.canary.left r).2 }) := by
  have hget : (get : StateM Session Session) s = (s, s) := rfl
  rw [Session.takeControllerStep, bind_apply hget, bind_apply hget]
  dsimp only
  rw [bind_apply (operate_eq h)]
  cases r <;> rfl

end Session

/-! ## Steps -/

namespace ControllerStep

/-- How work ends as that of a step. -/
def ended {ε α : Type} (failure : ε → StepFailure) : Except ε α → Except StepFailure Unit
  | .ok _ => .ok ()
  | .error e => .error (failure e)

/-- The work of a step on a canary, up to whether it fails. -/
def attempt (settings : Settings) (c : Canary) (k : Controller) :
    ControllerStep → Program Cluster.interface (Except StepFailure Unit)
  | .name => done (.ok ())
  | .prepare => operated (c.prepare settings)
  | .requirePrimaryReady => operated c.requirePrimaryReady
  | .targetVerdict => operated c.targetVerdict
  | .scaleToZero => operated c.scaleToZero
  | .scaleFromZero => operated c.scaleFromZero
  | .metadata => operated (c.targetMetadata settings)
  | .targetChanged => operated c.targetChanged
  | .dependenciesChanged => operated c.dependenciesChanged
  | .targetHash => operated (liftM c.targetHash)
  | .finalize => operated c.finalize
  | .promote => ((Rollout.promote settings).run.run c).bind fun r => done (ended .controller r.1)
  | .syncStatus delta => task (c.syncStatus settings delta)
  | .writeStatus delta => task (c.updateStatus settings delta)
  | .locate role => operated (c.workloadFor role)
  | .scale role replicas => operated (c.scale role replicas)
  | .reconcile => coordinated Coordinated.reconcile
  | .setRoutes weights => coordinated (Coordinated.setRoutes c weights)
  | .getRoutes => coordinated Coordinated.getRoutes
  | .finalizeRoutes => done (.ok ())
where
  task {α : Type} (t : Task α) : Program Cluster.interface (Except StepFailure Unit) :=
    t.run.bind fun r => done (ended .controller r)
  operated {α : Type} (operation : Operation α) : Program Cluster.interface (Except StepFailure Unit) :=
    (operation.run.run k).bind fun r => done (ended .controller r.1)
  coordinated {α : Type} (work : Coordinated α) : Program Cluster.interface (Except StepFailure Unit) :=
    ((c.coordinate work).run.run k).bind fun r => done (ended .router r.1)

theorem map_conclude {ε α : Type} (failure : ε → StepFailure) (outcome : α → Outcome) (r : Except ε α) :
    (conclude failure outcome r).map (fun _ => ()) = ended failure r := by
  cases r <;> rfl

section Steps

variable {α : Type} (s : Session) (k : Controller)

theorem operated_eq (outcome : α → Outcome) (x : Operation α) :
    (Session.takeControllerStep.operated k outcome x s).1.map (fun _ => ()) =
      (((attempt.operated k x).run s.backend.answer).run s.world).1 := by
  unfold attempt.operated
  rw [run_bind_done, ← map_conclude _ outcome]
  rfl

theorem coordinated_eq (outcome : α → Outcome) (x : Coordinated α) :
    (Session.takeControllerStep.coordinated k outcome x s).1.map (fun _ => ()) =
      (((attempt.coordinated s.canary k x).run s.backend.answer).run s.world).1 := by
  unfold attempt.coordinated
  rw [run_bind_done, ← map_conclude _ outcome]
  rfl

theorem refreshed_eq (t : Task Canary) :
    (conclude .controller (fun _ => Outcome.done) (Session.refresh t s).1).map (fun _ => ()) =
      (((attempt.task t).run s.backend.answer).run s.world).1 := by
  unfold attempt.task
  rw [run_bind_done]
  rcases hrun : (t.run.run s.backend.answer).run s.world with ⟨r, w⟩
  rw [hrun, Session.refresh_eq hrun]
  cases r <;> rfl

theorem prepared_eq : (Session.takeControllerStep k .prepare s).1.map (fun _ => ()) =
    (((attempt.operated k (s.canary.prepare s.settings)).run s.backend.answer).run s.world).1 := by
  unfold attempt.operated
  rw [run_bind_done]
  rcases hrun : (((s.canary.prepare s.settings).run.run k).run s.backend.answer).run s.world with ⟨⟨r, k'⟩, w⟩
  rw [hrun, Session.prepare_eq hrun]
  cases r <;> rfl

/-- A session's step ends as its work does. -/
theorem takeControllerStep_eq (step : ControllerStep) :
    (Session.takeControllerStep k step s).1.map (fun _ => ()) =
      (((step.attempt s.settings s.canary k).run s.backend.answer).run s.world).1 := by
  cases step with
  | name | finalizeRoutes => rfl
  | prepare => exact prepared_eq s k
  | requirePrimaryReady | targetVerdict | scaleToZero | scaleFromZero | metadata | targetChanged
  | dependenciesChanged | targetHash | finalize | locate | scale => exact operated_eq ..
  | setRoutes => exact coordinated_eq ..
  | reconcile => exact coordinated_eq s k (fun _ => .done) Coordinated.reconcile
  | getRoutes => exact coordinated_eq s k .weights Coordinated.getRoutes
  | syncStatus delta => exact refreshed_eq s (s.canary.syncStatus s.settings delta)
  | writeStatus delta => exact refreshed_eq s (s.canary.updateStatus s.settings delta)
  | promote =>
    unfold attempt
    rw [run_bind_done, ← map_conclude _ fun _ => .done]
    rfl

end Steps

/-- What a session's step asks of the API is a run of its work. -/
theorem exists_trace_takeControllerStep (s : Session) (k : Controller) (step : ControllerStep) (h : s.backend = .api) :
    ∃ log, Trace ((step.attempt s.settings s.canary k).run Api.carry : Program Api.interface _) log
      ((Session.takeControllerStep k step s).1.map fun _ => ()) := by
  have hserved : (((step.attempt s.settings s.canary k).run Api.carry : Program Api.interface _).run World.serve) =
      (step.attempt s.settings s.canary k).run World.answerThroughApi :=
    run_run (m := StateM World) Api.carry World.serve (step.attempt s.settings s.canary k)
  rw [takeControllerStep_eq, h]
  show ∃ log, Trace _ log ((((step.attempt s.settings s.canary k).run World.answerThroughApi).run s.world).1)
  rw [← hserved]
  exact (ends_run ..).exists_trace

end ControllerStep

end Rollout
