/-
What controllers make of an outage of the server. No operation passes over one: whatever it asks of workloads and the
store, it fails after an outage, with an error that reflects it (`Task.Relays`, `Operation.Relays`), and so through
every step of the work that is put one behind the other.
-/
import Rollout.Proofs.Api.Outage
import Rollout.Proofs.Controller.Operations

namespace Rollout

open Program

/-! ## Errors -/

theorem AccessError.Reflects.access {discovery : Bool} {e : AccessError} (h : e.Reflects discovery) :
    ControllerError.Reflects discovery (.access e) := by
  have hsource : ¬ (ControllerError.access e).NamesSource := by
    rintro ⟨_, _, h⟩
    cases h
  show e.isRetriable = true ↔ _
  rw [h.2]
  simp [hsource]

theorem StoreError.Reflects.store {discovery : Bool} {e : StoreError} (h : e.Reflects discovery) :
    ControllerError.Reflects discovery (.store e) := by
  obtain ⟨rfl, failure, rfl⟩ := h
  have hsource : ¬ (ControllerError.store (.api failure)).NamesSource := by
    rintro ⟨_, _, h⟩
    cases h
  exact ⟨fun _ => ⟨rfl, hsource⟩, fun _ => rfl⟩

theorem reflects_unreadable (discovery : Bool) (source : WorkloadRef) (e : AccessError) :
    ControllerError.Reflects discovery (.sourceNotFound (.unreadable source e)) :=
  ⟨fun h => (Bool.false_ne_true h).elim, fun h => (h.2 ⟨source, e, rfl⟩).elim⟩

/-! ## Tasks -/

namespace Task

variable {α β : Type}

/-- An outage makes the task fail, with an error that reflects it. -/
abbrev Relays (t : Task α) : Prop := t.run.Relays Cluster.Hit (Errs ControllerError.Reflects)

theorem Relays.bind {x : Task α} {f : α → Task β} (hx : Relays x) (hf : ∀ a, Relays (f a)) : Relays (x >>= f) :=
  Relays.bind_except hx hf

/-- A request is relayed where what is made of its answer is. -/
theorem relays_ask_bind {r : Cluster.Request} {f : Cluster.Reply r → Task α}
    (hhit : ∀ discovery reply, Cluster.Hit discovery r reply → ∃ e, f reply = throw e ∧ e.Reflects discovery)
    (hf : ∀ reply, Relays (f reply)) : Relays (ask r >>= f) := by
  unfold ask
  rw [Relays, run_lift_bind]
  refine .ask (fun reply discovery hx => ?_) hf
  obtain ⟨e, he, hreflects⟩ := hhit discovery reply hx
  show Always _ (f reply).run
  rw [he]
  exact ⟨e, rfl, hreflects⟩

theorem relays_ofExcept {ε : Type} (wrap : ε → ControllerError) (x : Except ε α) : Relays (ofExcept wrap x) := by
  cases x <;> exact .done _

theorem relays_workload (ref : WorkloadRef) : Relays (Task.workload ref) := by
  refine relays_ask_bind ?_ fun _ => relays_ofExcept ..
  rintro discovery _ ⟨e, rfl, he⟩
  exact ⟨.access e, rfl, he.access⟩

theorem relays_canary (ns name : String) : Relays (Task.canary ns name) := by
  refine relays_ask_bind ?_ fun _ => relays_ofExcept ..
  rintro discovery _ ⟨e, rfl, he⟩
  exact ⟨.store e, rfl, he.store⟩

theorem relays_now : Relays Task.now := .ask (fun _ _ h => h.elim) fun _ => .done _

theorem relays_target (c : Canary) : Relays c.target := relays_ofExcept ..

/-! ### Finding the baseline -/

theorem relays_firstLive : ∀ refs, Relays (firstLive refs)
  | [] => .done _
  | ref :: rest => by
    unfold firstLive
    refine relays_ask_bind ?_ fun reply => ?_
    · rintro discovery _ ⟨e, rfl, hpresent, hretriable⟩
      refine ⟨.access e, ?_, AccessError.Reflects.access ⟨hpresent, hretriable⟩⟩
      dsimp only
      rw [hpresent]
      rfl
    · cases reply with
      | ok object => exact .done _
      | error e =>
        dsimp only
        split
        · exact relays_firstLive rest
        · exact .done _

theorem relays_resolveSource (c : Canary) : Relays c.resolveSource := by
  unfold Canary.resolveSource
  cases c.target? with
  | none => exact .done _
  | some target =>
    cases c.spec.sourceRef with
    | some reference =>
      refine relays_ask_bind ?_ fun _ => relays_ofExcept ..
      rintro discovery _ ⟨e, rfl, -⟩
      exact ⟨.sourceNotFound (.unreadable _ e), rfl, reflects_unreadable ..⟩
    | none =>
      refine (relays_workload target).bind fun object => ?_
      cases object.metadata.label? componentLabel with
      | none => exact .done _
      | some component =>
        refine relays_ask_bind ?_ fun reply => ?_
        · rintro discovery _ ⟨e, rfl, he⟩
          exact ⟨.access e, rfl, he.access⟩
        · refine (relays_ofExcept ..).bind fun revisions => (relays_firstLive _).bind fun found => ?_
          cases found <;> exact .done _

theorem relays_baselineRef (object : Manifest) : Relays (baselineRef object) := by
  unfold baselineRef
  split <;> exact .done _

/-! ### Looking at the target -/

theorem relays_verdictNow (c : Canary) (object : Manifest) : Relays (c.verdictNow object) :=
  relays_now.bind fun _ => relays_ofExcept ..

theorem relays_verdict (c : Canary) (object : Manifest) : Relays (c.verdict object) := by
  unfold Canary.verdict
  split
  · split
    · exact .done _
    · exact (relays_workload _).bind fun deployment => relays_verdictNow c deployment
  · exact relays_verdictNow c object

theorem relays_targetHash (c : Canary) : Relays c.targetHash :=
  (relays_target c).bind fun target => (relays_workload target).bind fun _ => .done _

/-! ### Recording status -/

theorem relays_completeDelta (c : Canary) (delta : StatusDelta) : Relays (c.completeDelta delta) := by
  unfold Canary.completeDelta
  refine relays_ask_bind (fun _ _ h => h.elim) fun reply => ?_
  -- with either answer the hash is asked for next
  extract_lets withConfigs
  have hrest : ∀ configs, Relays (withConfigs configs) := by
    intro configs
    dsimp only [withConfigs]
    cases delta.lastAppliedSpec with
    | some hash => exact .done _
    | none => exact (relays_targetHash c).bind fun _ => .done _
  cases reply with
  | ok refs => exact hrest _
  | error e =>
    show Relays (ite _ _ _ : Task StatusDelta)
    split
    · exact hrest _
    · exact .done _

theorem relays_updateAttempts (settings : Settings) (ns name : String) (delta : StatusDelta) (attempts : Nat) :
    ∀ left, Relays (updateAttempts settings ns name delta attempts left)
  | 0 => .done _
  | left + 1 => by
    refine (relays_canary ns name).bind fun fresh => relays_now.bind fun now => ?_
    dsimp only
    split
    · exact .done _
    · refine relays_ask_bind ?_ fun reply => ?_
      · rintro discovery _ ⟨_, rfl, rfl, failure, rfl⟩
        exact ⟨.store (.api failure), rfl, StoreError.Reflects.store ⟨rfl, failure, rfl⟩⟩
      · have hrest := relays_updateAttempts settings ns name delta attempts left
        match reply with
        | .ok written => exact .done _
        | .error (.conflict _) =>
          show Relays (ite _ _ _ : Task Canary)
          split
          · exact relays_ask_bind (fun _ _ h => h.elim) fun _ => hrest
          · exact hrest
        | .error (.notFound _ _) => exact .done _
        | .error (.api _) => exact .done _
        | .error (.malformed _) => exact .done _

theorem relays_updateStatus (c : Canary) (settings : Settings) (delta : StatusDelta) :
    Relays (c.updateStatus settings delta) := relays_updateAttempts ..

theorem relays_syncStatus (c : Canary) (settings : Settings) (delta : StatusDelta) :
    Relays (c.syncStatus settings delta) :=
  (relays_completeDelta c delta).bind fun _ => relays_updateStatus ..

end Task

/-! ## Operations -/

/-- Work that fails with an error as it should be, and may leave a state. -/
abbrev ErrsWith {ε α σ : Type} (cause : Bool → ε → Prop) (discovery : Bool) (r : Except ε α × σ) : Prop :=
  Errs cause discovery r.1

/-- Work with a state goes on where it succeeds. -/
theorem relays_bind_stateful {σ α β : Type} {x : ExceptT ControllerError (StateT σ (Program Cluster.interface)) α}
    {f : α → ExceptT ControllerError (StateT σ (Program Cluster.interface)) β} {s : σ}
    (hx : (x.run.run s).Relays Cluster.Hit (ErrsWith ControllerError.Reflects))
    (hf : ∀ a s, ((f a).run.run s).Relays Cluster.Hit (ErrsWith ControllerError.Reflects)) :
    ((x >>= f).run.run s).Relays Cluster.Hit (ErrsWith ControllerError.Reflects) := by
  show ((x.run.run s).bind _).Relays _ _
  refine Relays.bind hx ?_ ?_
  · rintro discovery ⟨_, s'⟩ ⟨e, rfl, he⟩
    exact ⟨e, rfl, he⟩
  · rintro ⟨e | a, s'⟩
    · exact .done _
    · exact hf a s'

theorem relays_promote (settings : Settings) (c : Canary) :
    ((promote settings).run.run c).Relays Cluster.Hit (ErrsWith ControllerError.Reflects) := by
  have hattempt : ∀ {task : Task Canary}, Task.Relays task → ∀ s,
      ((promote.attempt task).run.run s).Relays Cluster.Hit (ErrsWith ControllerError.Reflects) := fun htask _ =>
    Relays.bind htask (fun _ _ h => h) fun _ => .done _
  show ((ite _ _ _ : ExceptT ControllerError (StateT Canary (Program Cluster.interface)) Unit).run.run c).Relays _ _
  split
  · exact .done _
  · refine relays_bind_stateful (hattempt (Task.relays_updateStatus ..) c) fun recorded s => ?_
    refine relays_bind_stateful (x := set recorded) (.done _) fun _ s => ?_
    exact relays_bind_stateful (hattempt (Task.relays_canary ..) s) fun read s => .done _

namespace Operation

variable {α β : Type}

/-- An outage makes the operation fail, with an error that reflects it. -/
abbrev Relays (x : Operation α) : Prop :=
  ∀ k : Controller, (x.run.run k).Relays Cluster.Hit (ErrsWith ControllerError.Reflects)

theorem Relays.bind {x : Operation α} {f : α → Operation β} (hx : Relays x) (hf : ∀ a, Relays (f a)) :
    Relays (x >>= f) := fun k => relays_bind_stateful (hx k) hf

theorem relays_pure (a : α) : Relays (pure a : Operation α) := fun _ => .done _

theorem relays_get : Relays (get : Operation Controller) := fun _ => .done _

theorem relays_task {t : Task α} (ht : Task.Relays t) : Relays (monadLift t : Operation α) := fun _ =>
  Program.Relays.bind ht (fun _ _ h => h) fun _ => .done _

theorem relays_ofExcept {ε : Type} (wrap : ε → ControllerError) (x : Except ε α) :
    Relays (monadLift (Task.ofExcept wrap x) : Operation α) := relays_task (Task.relays_ofExcept wrap x)

theorem relays_settledBaseline (c : Canary) (settled : Option WorkloadRef) : Relays (c.settledBaseline settled) := by
  cases settled with
  | some baseline => exact relays_pure baseline
  | none =>
    refine (relays_task (Task.relays_resolveSource c)).bind fun object => ?_
    refine (relays_task (Task.relays_baselineRef object)).bind fun baseline => ?_
    exact Relays.bind (x := set (Controller.rolling (some baseline))) (fun _ => .done _) fun _ => relays_pure _

theorem relays_workloadFor (c : Canary) (role : Role) : Relays (c.workloadFor role) := by
  refine relays_get.bind fun k => ?_
  cases k <;> cases role
  case rolling.primary settled => exact relays_settledBaseline c settled
  case swap.primary => exact relays_pure _
  case swap.canary => exact relays_pure _
  all_goals exact relays_task (Task.relays_ofExcept _ _)

/-- A request of an operation is relayed where what is made of its answer is. -/
theorem relays_ask_bind {r : Cluster.Request} {f : Cluster.Reply r → Task α}
    (hhit : ∀ discovery reply, Cluster.Hit discovery r reply → ∃ e, f reply = throw e ∧ e.Reflects discovery)
    (hf : ∀ reply, Task.Relays (f reply)) :
    Relays (monadLift (Task.ask r) >>= fun reply => monadLift (f reply)) := by
  intro k
  show (Program.ask r fun reply => (f reply).run.bind fun result => done (result, k)).Relays _ _
  refine .ask (fun reply discovery hx => ?_) fun reply =>
    Program.Relays.bind (hf reply) (fun _ _ h => h) fun _ => .done _
  obtain ⟨e, he, hreflects⟩ := hhit discovery reply hx
  rw [he]
  exact ⟨e, rfl, hreflects⟩

theorem relays_scale (c : Canary) (role : Role) (replicas : Int32) : Relays (c.scale role replicas) := by
  refine relays_get.bind fun k => ?_
  cases k with
  | service => exact relays_pure ()
  | deployment | daemonSet | rolling | swap =>
    refine (relays_workloadFor c role).bind fun ref => relays_ask_bind ?_ fun _ => Task.relays_ofExcept ..
    rintro discovery _ ⟨e, rfl, he⟩
    exact ⟨.access e, rfl, he.access⟩

theorem relays_requirePrimaryReady (c : Canary) : Relays c.requirePrimaryReady := by
  refine relays_get.bind fun k => ?_
  cases k with
  | service => exact relays_pure ()
  | deployment | daemonSet | rolling | swap =>
    refine (relays_workloadFor c .primary).bind fun ref => ?_
    refine (relays_task (Task.relays_workload ref)).bind fun object => ?_
    exact (relays_task (Task.relays_verdict c object)).bind fun _ => relays_ofExcept _ _

theorem relays_targetVerdict (c : Canary) : Relays c.targetVerdict := by
  refine relays_get.bind fun k => ?_
  cases k with
  | service => exact relays_pure _
  | deployment | daemonSet | rolling | swap =>
    refine (relays_workloadFor c .canary).bind fun ref => ?_
    exact (relays_task (Task.relays_workload ref)).bind fun object => relays_task (Task.relays_verdict c object)

theorem relays_targetMetadata (c : Canary) (settings : Settings) : Relays (c.targetMetadata settings) := by
  refine relays_get.bind fun k => ?_
  cases k with
  | service => exact relays_pure _
  | deployment | daemonSet | rolling | swap =>
    refine (relays_workloadFor c .canary).bind fun ref => ?_
    exact (relays_task (Task.relays_workload ref)).bind fun object => relays_ofExcept _ _

theorem relays_targetChanged (c : Canary) : Relays c.targetChanged := by
  refine relays_get.bind fun k => ?_
  cases k with
  | rolling | swap => exact relays_pure _
  | deployment | daemonSet | service =>
    exact (relays_task (Task.relays_targetHash c)).bind fun _ => relays_pure _

theorem relays_dependenciesChanged (c : Canary) : Relays c.dependenciesChanged := by
  refine relays_get.bind fun k => ?_
  cases k with
  | service => exact relays_pure _
  | deployment | daemonSet | rolling | swap =>
    have hasked : Task.Relays (Task.ask (.configChanged c)) := .ask (fun _ _ h => h.elim) fun _ => .done _
    refine (relays_task hasked).bind fun reply => ?_
    cases reply with
    | ok changed => exact relays_pure _
    | error e =>
      show Relays (ite _ _ _ : Operation Bool)
      split
      · exact relays_pure _
      · exact fun _ => .done _

theorem relays_prepare (c : Canary) (settings : Settings) : Relays (c.prepare settings) := by
  have hscaled : ∀ size, Relays (do
      c.scale .canary 0
      c.scale .primary size
      pure c) := fun size =>
    (relays_scale c _ _).bind fun _ => (relays_scale c _ _).bind fun _ => relays_pure c
  refine relays_get.bind fun k => ?_
  cases k with
  | service => exact relays_pure c
  | rolling settled =>
    refine (relays_settledBaseline c settled).bind fun _ => ?_
    extract_lets moveOn
    have hrest : ∀ u, Relays (moveOn u) := by
      intro u
      show Relays (ite _ _ _ : Operation Canary)
      split
      · exact relays_task (Task.relays_syncStatus c settings _)
      · exact relays_pure c
    split
    · exact (relays_requirePrimaryReady c).bind hrest
    · exact hrest ()
  | deployment | daemonSet | swap =>
    dsimp only
    split
    · split
      · exact (relays_requirePrimaryReady c).bind fun _ => hscaled _
      · exact hscaled _
    · exact relays_pure c

theorem relays_finalize (c : Canary) : Relays c.finalize := relays_get.bind fun _ => relays_scale c _ _

theorem relays_scaleToZero (c : Canary) : Relays c.scaleToZero := by
  refine relays_get.bind fun k => ?_
  cases k with
  | service | rolling => exact relays_pure _
  | deployment | daemonSet | swap => exact relays_scale c _ _

theorem relays_scaleFromZero (c : Canary) : Relays c.scaleFromZero := by
  refine relays_get.bind fun k => ?_
  cases k with
  | service | rolling | swap => exact relays_pure _
  | deployment | daemonSet => exact relays_scale c _ _

end Operation

end Rollout
