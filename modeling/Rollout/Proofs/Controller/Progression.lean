/-
How a rolling start moves its canary on. It goes by its caller's copy of the canary, while the move is made over what
is stored when it writes. Main statement: `Shared.rolling_advances`, the start writes only if the copy is initialized,
and what it then moves on was initialized as well if nobody else has touched it. A start that is not left alone moves
on whatever it finds (`Shared.rolling_advances_failed`).
-/
import Rollout.Proofs.Controller.ColdStart
import Rollout.Proofs.Status.Sync

namespace Rollout

open Program

/-! ## Where a start asks to write -/

section Asking

variable {α β : Type} {k : Controller} {log : List (Exchange Cluster.interface)}
  {fresh : Canary} {status : CanaryStatus}

/-- Where what an operation does first changes nothing, what asks to write is what it goes on with. -/
theorem After.operation_bind {x : Operation α} {f : α → Operation β}
    {next : Except StoreError Canary → Program Cluster.interface (Except ControllerError β × Controller)}
    (h : After ((x >>= f).run.run k) log (.ask (.writeStatus fresh status) next))
    (hx : Operation.Asks Cluster.Request.Looks k x) : ∃ l₁ l₂ a k₁, log = l₁ ++ l₂ ∧ Operation.Ok x k l₁ a k₁ ∧
      After ((f a).run.run k₁) l₂ (.ask (.writeStatus fresh status) next) := by
  have hlook : ¬ Cluster.Request.Looks (.writeStatus fresh status) := fun h => Bool.noConfusion h
  obtain ⟨l₁, l₂, ⟨e | a, k₁⟩, rfl, hend, hnext⟩ := After.of_bind (p := x.run.run k) h (Within.asks hx) hlook
  · cases (after_done_iff.1 hnext).2
  · exact ⟨l₁, l₂, a, k₁, rfl, hend, hnext⟩

variable {c : Canary} {settings : Settings} {settled : Option WorkloadRef}

/-- A sync that asks to write updates the status, with the delta that it has completed. -/
theorem After.syncStatus_write {d : StatusDelta} {next : Except StoreError Canary → Program Cluster.interface _}
    (h : After (c.syncStatus settings d).run log (.ask (.writeStatus fresh status) next)) :
    ∃ looked update refs hash, log = looked ++ update ∧ c.Prepares d looked refs hash ∧
      After (c.updateStatus settings (d.completed refs hash)).run update (.ask (.writeStatus fresh status) next) := by
  have hlook : ¬ Cluster.Request.Looks (.writeStatus fresh status) := fun h => Bool.noConfusion h
  obtain ⟨looked, update, result, rfl, hcompleted, hnext⟩ :=
    After.of_bind (p := (c.completeDelta d).run) h (completeDelta_asks c d) hlook
  rcases Canary.completeDelta_settles hcompleted with ⟨_, _, rfl⟩ | ⟨refs, hash, hprepares, rfl⟩
  · cases (after_done_iff.1 hnext).2
  · exact ⟨looked, update, refs, hash, rfl, hprepares, hnext⟩

/-- A rolling start that asks to write is that of an initialized canary, and syncs it as progressing. -/
theorem After.prepare_rolling_write
    {next : Except StoreError Canary → Program Cluster.interface (Except ControllerError Canary × Controller)}
    (h : After ((c.prepare settings).run.run (.rolling settled)) log (.ask (.writeStatus fresh status) next)) :
    c.isInitialized = true ∧ ∃ resolved sync next', log = resolved ++ sync ∧
      After (c.syncStatus settings { phase := some .progressing }).run sync
        (.ask (.writeStatus fresh status) next') := by
  have hlooks : ∀ r : Cluster.Request, r.Looks → r.Looks := fun _ h => h
  obtain ⟨l₁, l₂, _, k₂, rfl, -, hresolved⟩ := After.operation_bind (show After ((do
      let _ ← c.settledBaseline settled
      if c.isInitializing && !c.spec.skipAnalysis then c.requirePrimaryReady
      if c.isInitialized then c.syncStatus settings { phase := some .progressing } else return c :
      Operation Canary).run.run (.rolling settled)) log _ from h)
    (Operation.keeps_settledBaseline hlooks c settled).asks
  -- the gate is passed or not to be passed
  obtain ⟨l₃, l₄, k₃, rfl, hrest⟩ : ∃ l₃ l₄ k₃, l₂ = l₃ ++ l₄ ∧
      After ((if c.isInitialized then c.syncStatus settings { phase := some .progressing } else return c :
        Operation Canary).run.run k₃) l₄ (.ask (.writeStatus fresh status) next) := by
    dsimp only at hresolved
    split at hresolved
    · obtain ⟨l₃, l₄, _, k₃, rfl, -, hrest⟩ := After.operation_bind hresolved
        (Operation.asks_requirePrimaryReady hlooks c k₂)
      exact ⟨l₃, l₄, k₃, rfl, hrest⟩
    · exact ⟨[], l₂, k₂, rfl, hresolved⟩
  split at hrest
  · rename_i hinitialized
    refine ⟨hinitialized, ?_⟩
    rcases after_bind_iff.1 (show After ((c.syncStatus settings { phase := some .progressing }).run.bind _) l₄ _
      from hrest) with ⟨left, hleft, hask⟩ | ⟨_, _, _, -, -, hdone⟩
    · cases left with
      | done => cases hask
      | ask r next' =>
        cases hask
        exact ⟨l₁ ++ l₃, l₄, next', (List.append_assoc ..).symm, hleft⟩
    · cases (after_done_iff.1 hdone).2
  · cases (after_done_iff.1 hrest).2

end Asking

/-! ## Rolling starts in a shared store -/

/-- What someone other than the client does to what is stored under a name: another client asks to write a status
there, or another writer puts an object there. -/
def SharedEvent.Touches {ι : Type} (i : ι) (ns name : String) : SharedEvent ι → Prop
  | .asked j e => j ≠ i ∧ ∃ c status, e.request = .writeStatus c status ∧ c.ns = ns ∧ c.name = name
  | .put ns' name' => ns' = ns ∧ name' = name
  | .removed _ _ => False

namespace Shared

variable {k : CanaryObjects} {ι : Type} [DecidableEq ι] {c : Canary} {settings : Settings}
  {settled : Option WorkloadRef} {start now next : Shared k ι (Except ControllerError Canary × Controller)}
  {log : List (SharedEvent ι)} {i : ι} {e : Exchange Cluster.interface}

/-- A step in which a rolling start writes, or changes what is stored, moves the canary on to progressing, over what
was stored immediately before. -/
theorem Run.moves_on (hrun : Run start log now) (hversions : start.store.Versioned)
    (hstart : start.running i = (c.prepare settings).run.run (.rolling settled))
    (hstep : Step now (.asked i e) next) (hwrite : e.IsWrite ∨ next.store ≠ now.store) :
    c.isInitialized = true ∧ ∃ seen time refs hash before after,
      exchanges i log = seen ++ [⟨.canary c.ns c.name, .ok before⟩, ⟨.now, time⟩] ∧
      now.store.Updated next.store c.ns c.name (StatusDelta.completed { phase := some .progressing } refs hash) time
        before after := by
  obtain ⟨fresh, status, cont, o, version, hasks, ho, hv, hnew, hstore⟩ := hstep.wrote hwrite
  have hafter := hrun.after i
  rw [hstart, hasks] at hafter
  obtain ⟨hinitialized, resolved, sync, next', hlog, hsync⟩ := After.prepare_rolling_write hafter
  obtain ⟨looked, update, refs, hash, rfl, -, hupdate⟩ := After.syncStatus_write hsync
  obtain ⟨before, time, rfl, rfl⟩ := After.updateStatus_write hupdate
  have hread : .asked i ⟨.canary c.ns c.name, .ok fresh⟩ ∈ log := by
    rw [← mem_exchanges, hlog]
    simp
  rw [hstore]
  refine ⟨hinitialized, resolved ++ (looked ++ before), time, refs, hash, fresh, _, ?_,
    (hrun.seen hversions hread).updated ho hv hnew _ time⟩
  simp only [hlog, List.append_assoc]

end Shared

/-- What is written as progressing is. -/
theorem CanaryStore.Updated.progressing {k : CanaryObjects} {s t : CanaryStore k} {ns name : String}
    {refs : List ConfigRef} {hash : Option String} {time : Instant} {before after : Canary}
    (h : s.Updated t ns name (StatusDelta.completed { phase := some .progressing } refs hash) time before after) :
    after.phase = .progressing := by
  refine Canary.phase_of_status ?_
  rw [h.status]
  exact StatusDelta.phase_apply rfl _ time

namespace Shared

variable {k : CanaryObjects} {ι : Type} [DecidableEq ι] {c : Canary} {settings : Settings}
  {settled : Option WorkloadRef} {start now next : Shared k ι (Except ControllerError Canary × Controller)}
  {log : List (SharedEvent ι)} {i : ι} {e : Exchange Cluster.interface}

/-- Whoever else takes part leaves what is stored under a name that he does not touch. -/
theorem Step.stored?_untouched {x : SharedEvent ι} {ns name : String} (h : Step now x next)
    (huntouched : ¬ x.Touches i ns name) (hother : ∀ e, x ≠ .asked i e) {stored : Canary}
    (hstored : next.store.stored? ns name = some stored) : now.store.stored? ns name = some stored := by
  have hput : ∀ {ns' name' : String} {o : k.Object} {version : String}, ¬ (ns' = ns ∧ name' = name) →
      (now.store.putAt ns' name' o version).stored? ns name = now.store.stored? ns name := by
    intro ns' name' o version hne
    unfold CanaryStore.stored?
    rw [CanaryStore.putAt_objects, if_neg fun heq => hne ⟨heq.1.symm, heq.2.symm⟩]
  cases h with
  | @asked j _ _ _ _ _ hanswer =>
    have hj : j ≠ i := fun heq => hother _ (by rw [heq])
    cases hanswer with
    | written | unacknowledged =>
      rw [← hstored]
      exact (hput fun hat => huntouched ⟨hj, _, _, rfl, hat⟩).symm
    | read | unread | refused | aside => exact hstored
  | put ns' name' => rwa [hput huntouched] at hstored
  | removed ns' name' =>
    unfold CanaryStore.stored? at hstored ⊢
    rw [CanaryStore.put_objects] at hstored
    split at hstored
    · cases hstored
    · exact hstored

/-- Where nobody else touches what is stored for an initialized canary, it stays initialized until the start moves it
on. -/
theorem Run.phase_untouched (hrun : Run start log now) (hversions : start.store.Versioned)
    (hstart : start.running i = (c.prepare settings).run.run (.rolling settled))
    (hcurrent : ∀ stored, start.store.stored? c.ns c.name = some stored → stored.phase = .initialized)
    (huntouched : ∀ x ∈ log, ¬ x.Touches i c.ns c.name) :
    ∀ stored, now.store.stored? c.ns c.name = some stored →
      stored.phase = .initialized ∨ stored.phase = .progressing := by
  -- the invariant of the run: a step of the start leads to progressing, no other step changes what is stored there
  induction hrun with
  | nil => exact fun stored hstored => .inl (hcurrent stored hstored)
  | @snoc t u log x hrun hstep ih =>
    intro stored hstored
    have hbefore := ih fun x hx => huntouched x (List.mem_append_left _ hx)
    by_cases hmine : ∃ e, x = .asked i e
    · obtain ⟨e, rfl⟩ := hmine
      by_cases hsame : u.store = t.store
      · rw [hsame] at hstored
        exact hbefore stored hstored
      · obtain ⟨-, _, _, _, _, _, after, -, hupdated⟩ := hrun.moves_on hversions hstart hstep (.inr hsame)
        obtain rfl : after = stored := Option.some.inj (hupdated.leaves.symm.trans hstored)
        exact .inr hupdated.progressing
    · refine hbefore stored (hstep.stored?_untouched (huntouched x ?_) (fun e he => hmine ⟨e, he⟩) hstored)
      exact List.mem_append_right _ (List.mem_singleton_self x)

/-- A rolling start shares the store with other clients and writers, and its caller's copy of the canary may be older
than what is stored. It writes only if that copy is initialized. Whatever it writes then is the move to progressing,
over what was stored immediately before, which is what it had last read. That was initialized if the start found it so
and nobody else has touched it since: nothing but such a touch, or a copy that was out of date, lets the move overrule
another phase. -/
theorem rolling_advances (hrun : Run start log now) (hversions : start.store.Versioned)
    (hstart : start.running i = (c.prepare settings).run.run (.rolling settled))
    (hstep : Step now (.asked i e) next) (hwrite : e.IsWrite ∨ next.store ≠ now.store) :
    c.isInitialized = true ∧ ∃ seen time refs hash before after,
      exchanges i log = seen ++ [⟨.canary c.ns c.name, .ok before⟩, ⟨.now, time⟩] ∧
      now.store.Updated next.store c.ns c.name (StatusDelta.completed { phase := some .progressing } refs hash) time
        before after ∧
      after.phase = .progressing ∧
      ((∀ stored, start.store.stored? c.ns c.name = some stored → stored.phase = .initialized) →
        (∀ x ∈ log, ¬ x.Touches i c.ns c.name) → after.phase ≠ before.phase → before.phase = .initialized) := by
  obtain ⟨hinitialized, seen, time, refs, hash, before, after, hlog, hupdated⟩ :=
    hrun.moves_on hversions hstart hstep hwrite
  refine ⟨hinitialized, seen, time, refs, hash, before, after, hlog, hupdated, hupdated.progressing,
    fun hcurrent huntouched hchanged => ?_⟩
  refine (hrun.phase_untouched hversions hstart hcurrent huntouched before hupdated.stored).resolve_right fun hp => ?_
  exact hchanged (hupdated.progressing.trans hp.symm)

/-! ### A start that is left alone, and one that is not -/

/-- Alone with its store, the start has read what is stored and asks to write. -/
theorem settledStart_reads : ∃ log now next e, Run settledStart log now ∧ (∀ x ∈ log, ¬ x.Touches () "prod" "podinfo") ∧
    Step now (.asked () e) next ∧ e.IsWrite := by
  have h₁ := (Run.nil settledStart).snoc (.asked (i := ()) (r := .configRefs settledCanary) rfl
    (.aside (Except.ok []) (by simp) (by simp)))
  have h₂ := h₁.snoc (.asked (i := ()) (r := .workload (sizedWorkload .canary)) rfl
    (.aside (Except.ok unlisted) (by simp) (by simp)))
  have h₃ := h₂.snoc (.asked (i := ()) rfl (.read (c := settledCanary) rfl))
  have h₄ := h₃.snoc (.asked (i := ()) rfl (.aside default (by simp) (by simp)))
  exact ⟨_, _, _, _, h₄, by simp [SharedEvent.Touches], .asked (i := ()) rfl
    (.written (o := settledCanary) rfl rfl (show "2" ∉ ({"1"} : Set String) by simp) rfl rfl), _, _, _, rfl⟩

/-- Left alone, the start moves on what is initialized. -/
theorem rolling_advances_alone : ∃ (log : List (SharedEvent Unit))
    (now next : Shared .replaced Unit (Except ControllerError Canary × Controller)) (e : Exchange Cluster.interface)
    (before after : Canary), Run settledStart log now ∧ Step now (.asked () e) next ∧ e.IsWrite ∧
      now.store.stored? "prod" "podinfo" = some before ∧ next.store.stored? "prod" "podinfo" = some after ∧
      after.phase = .progressing ∧ (after.phase ≠ before.phase → before.phase = .initialized) := by
  obtain ⟨log, now, next, e, hrun, huntouched, hstep, hwrite⟩ := settledStart_reads
  have hstart : settledStart.running () =
      (settledCanary.prepare .default).run.run (.rolling (some (sizedWorkload .primary))) := rfl
  obtain ⟨-, _, _, _, _, before, after, -, hupdated, hphase, hinitialized⟩ :=
    rolling_advances hrun versioned_settledStart hstart hstep (.inl hwrite)
  refine ⟨log, now, next, e, before, after, hrun, hstep, hwrite, hupdated.stored, hupdated.leaves, hphase,
    hinitialized (fun stored hstored => ?_) huntouched⟩
  obtain rfl : settledCanary = stored := Option.some.inj hstored
  rfl

/-- The canary once another writer has found the rollout to have failed. -/
def failedCanary : Canary := settledCanary.written { phase := some .failed } "2"

/-- A rollout that another writer has failed in the meantime, which is what the start reads last, is moved on to
progressing all the same: the start goes by its caller's copy, which is initialized. -/
theorem rolling_advances_failed : settledStart.store.Versioned ∧ settledCanary.isInitialized = true ∧
    settledStart.running () = (settledCanary.prepare .default).run.run (.rolling (some (sizedWorkload .primary))) ∧
    ∃ log now next e before after, Run settledStart log now ∧ Step now (.asked () e) next ∧ e.IsWrite ∧
      now.store.stored? "prod" "podinfo" = some before ∧ next.store.stored? "prod" "podinfo" = some after ∧
      before.phase = .failed ∧ after.phase = .progressing := by
  have h₁ := (Run.nil settledStart).snoc (.asked (i := ()) (r := .configRefs settledCanary) rfl
    (.aside (Except.ok []) (by simp) (by simp)))
  have h₂ := h₁.snoc (.asked (i := ()) (r := .workload (sizedWorkload .canary)) rfl
    (.aside (Except.ok unlisted) (by simp) (by simp)))
  have h₃ := h₂.snoc (.put "prod" "podinfo" (o := failedCanary) (show "2" ∉ ({"1"} : Set String) by simp) rfl)
  have h₄ := h₃.snoc (.asked (i := ()) rfl (.read (c := failedCanary) rfl))
  have h₅ := h₄.snoc (.asked (i := ()) rfl (.aside default (by simp) (by simp)))
  exact ⟨versioned_settledStart, rfl, rfl, _, _, _, _, failedCanary, _, h₅, .asked (i := ()) rfl
    (.written (o := failedCanary) rfl rfl (show "3" ∉ ({"2", "1"} : Set String) by simp) rfl rfl), ⟨_, _, _, rfl⟩,
    rfl, rfl, rfl, rfl⟩

end Shared

end Rollout
