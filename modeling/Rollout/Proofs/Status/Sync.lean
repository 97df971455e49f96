/-
The sync of a canary's status: what the tracker names and the hash of the target are recorded with a delta, in a
store that is shared with other clients and writers. Main statement: `Shared.sync_recorded`, a sync that cannot learn
what to record fails and leaves the store alone; one that ends well has synced the status that it last read, and the
next look at the same target sees no change.
-/
import Rollout.Proofs.Controller.TargetHash
import Rollout.Proofs.Session
import Rollout.Proofs.Status.Sharing

namespace Rollout

open Program

/-! ## What is tracked -/

/-- What there is to track by an answer of the tracker, if it has not failed. -/
def answeredRefs? : Except TrackerError (List ConfigRef) → Option (List ConfigRef)
  | .ok refs => some refs
  | .error e => if e.isKindInvalid then some [] else none

/-- Of the entries for one name the last counts. -/
theorem get?_trackedConfigs (refs : List ConfigRef) (name : String) :
    (trackedConfigs refs).get? name = (refs.filter (·.name = name)).getLast?.map (·.checksum) := by
  induction refs using List.reverseRecOn with
  | nil => rfl
  | append_singleton refs ref ih =>
    have hput : trackedConfigs (refs ++ [ref]) = (trackedConfigs refs).insert ref.name ref.checksum := by
      unfold trackedConfigs Dict.ofList Dict.insert
      simp only [List.map_append, List.map_singleton, Assoc.ofList_append_singleton]
    rw [hput, Dict.get?_insert, List.filter_append]
    by_cases h : name = ref.name
    · simp [h]
    · simp [h, Ne.symm h, ih]

theorem isEmpty_trackedConfigs_iff {refs : List ConfigRef} : (trackedConfigs refs).isEmpty = true ↔ refs = [] := by
  constructor
  · intro h
    have hnone : ∀ name, (trackedConfigs refs).get? name = none := by
      intro name
      unfold Dict.get?
      rw [List.isEmpty_iff.1 h]
      rfl
    by_contra hne
    obtain ⟨ref, hmem⟩ := List.exists_mem_of_ne_nil refs hne
    have hlast := hnone ref.name
    rw [get?_trackedConfigs, Option.map_eq_none_iff, List.getLast?_eq_none_iff, List.filter_eq_nil_iff] at hlast
    exact hlast ref hmem (by simp)
  · rintro rfl
    rfl

/-! ## What a sync makes of a status -/

namespace StatusDelta

/-- The delta with what is tracked and the hash to record. -/
def completed (d : StatusDelta) (refs : List ConfigRef) (hash : Option String) : StatusDelta :=
  { d with trackedConfigs := some (Rollout.trackedConfigs refs), lastAppliedSpec := hash }

/-- From one status to the next, a delta is synced at some time, with the configuration that is tracked then and the
hash that is recorded, if there is one. -/
structure Syncs (d : StatusDelta) (refs : List ConfigRef) (hash : Option String) (now : Instant)
    (before after : CanaryStatus) : Prop where
  phase : after.phase = d.phase.or before.phase
  canaryWeight : after.canaryWeight = d.canaryWeight.getD before.canaryWeight
  failedChecks : after.failedChecks = d.failedChecks.getD before.failedChecks
  iterations : after.iterations = d.iterations.getD before.iterations
  lastTransitionTime : after.lastTransitionTime =
    if after.phase = before.phase then before.lastTransitionTime else some now.text
  /-- Nothing is tracked any more that the tracker does not name now. -/
  trackedConfigs : after.trackedConfigs = none ↔ refs = []
  /-- Of the entries for one name the last counts. -/
  tracked : ∀ name, after.trackedConfigs.bind (·.get? name) =
    (refs.filter (·.name = name)).getLast?.map (·.checksum)
  lastAppliedSpec : after.lastAppliedSpec = hash.or before.lastAppliedSpec
  lastPromotedSpec : after.lastPromotedSpec =
    if d.phase = some .succeeded ∨ d.phase = some .initialized then after.lastAppliedSpec.or before.lastPromotedSpec
    else before.lastPromotedSpec

theorem transitionTime_eq (d : StatusDelta) (s : CanaryStatus) (now : Instant) :
    d.transitionTime s now = if d.phase.or s.phase = s.phase then s.lastTransitionTime else some now.text := by
  unfold transitionTime
  cases d.phase with
  | none => simp
  | some phase => simp only [Option.some_or, eq_comm]

/-- The completed delta is applied as a sync. -/
theorem syncs_apply (d : StatusDelta) (refs : List ConfigRef) (hash : Option String) (s : CanaryStatus)
    (now : Instant) : d.Syncs refs hash now s ((d.completed refs hash).apply s now) where
  phase := Option.orElse_eq_or
  canaryWeight := rfl
  failedChecks := rfl
  iterations := rfl
  lastTransitionTime := by
    have hphase : ((d.completed refs hash).apply s now).phase = d.phase.or s.phase := Option.orElse_eq_or
    rw [hphase]
    exact transitionTime_eq (d.completed refs hash) s now
  trackedConfigs := by
    show (if (Rollout.trackedConfigs refs).isEmpty then none else some (Rollout.trackedConfigs refs)) = none ↔ _
    rw [← isEmpty_trackedConfigs_iff]
    simp
  tracked name := by
    show (if (Rollout.trackedConfigs refs).isEmpty then none else some (Rollout.trackedConfigs refs)).bind _ = _
    rw [← get?_trackedConfigs]
    split
    · rename_i hempty
      rw [isEmpty_trackedConfigs_iff.1 hempty]
      rfl
    · rfl
  lastAppliedSpec := Option.orElse_eq_or
  lastPromotedSpec := by
    show (if d.reachesStablePhase then (hash.orElse fun _ => s.lastAppliedSpec).orElse fun _ => s.lastPromotedSpec
      else s.lastPromotedSpec) = _
    rw [Option.orElse_eq_or]
    unfold reachesStablePhase
    simp only [Bool.or_eq_true, decide_eq_true_eq]
    rfl

end StatusDelta

/-! ## What a sync asks first -/

namespace Canary

/-- What a sync has been answered before it turns to the status, with what there is to track and the hash to record.
The target is read where the delta gives no hash. -/
inductive Prepares (c : Canary) (d : StatusDelta) :
    List (Exchange Cluster.interface) → List ConfigRef → Option String → Prop
  | given {answer : Except TrackerError (List ConfigRef)} {refs : List ConfigRef} {hash : String} :
      answeredRefs? answer = some refs → d.lastAppliedSpec = some hash →
      Prepares c d [⟨.configRefs c, answer⟩] refs (some hash)
  | read {answer : Except TrackerError (List ConfigRef)} {refs : List ConfigRef} {target : WorkloadRef}
      {object : Manifest} :
      answeredRefs? answer = some refs → d.lastAppliedSpec = none → c.target? = some target →
      Prepares c d [⟨.configRefs c, answer⟩, ⟨.workload target, .ok object⟩] refs object.specHash?

/-- What a sync has been answered where it fails before it turns to the status. -/
inductive Stops (c : Canary) (d : StatusDelta) : List (Exchange Cluster.interface) → ControllerError → Prop
  | tracker {e : TrackerError} : e.isKindInvalid = false → Stops c d [⟨.configRefs c, .error e⟩] (.tracker e)
  | unplaced {answer : Except TrackerError (List ConfigRef)} {refs : List ConfigRef} :
      answeredRefs? answer = some refs → d.lastAppliedSpec = none → c.target? = none →
      Stops c d [⟨.configRefs c, answer⟩] (.configuration (.noTargetNamespace c.name))
  | target {answer : Except TrackerError (List ConfigRef)} {refs : List ConfigRef} {target : WorkloadRef}
      {e : AccessError} :
      answeredRefs? answer = some refs → d.lastAppliedSpec = none → c.target? = some target →
      Stops c d [⟨.configRefs c, answer⟩, ⟨.workload target, .error e⟩] (.access e)

variable {c : Canary} {d : StatusDelta} {settings : Settings} {log : List (Exchange Cluster.interface)}

/-- What has been answered completes a delta, or leaves nothing to complete it with. -/
def Settles (c : Canary) (d : StatusDelta) (log : List (Exchange Cluster.interface))
    (result : Except ControllerError StatusDelta) : Prop :=
  (∃ e, c.Stops d log e ∧ result = .error e) ∨
    ∃ refs hash, c.Prepares d log refs hash ∧ result = .ok (d.completed refs hash)

section Answered

variable {answer : Except TrackerError (List ConfigRef)} {refs : List ConfigRef}
  {rest : List (Exchange Cluster.interface)} {result : Except ControllerError StatusDelta}

/-- Once the tracker has answered, the hash that is not given is that of the target. -/
theorem settles_read (hrefs : answeredRefs? answer = some refs) (hgiven : d.lastAppliedSpec = none)
    (h : Trace (c.targetHash >>= fun hash => pure (d.completed refs hash) : Task StatusDelta).run rest result) :
    c.Settles d (⟨.configRefs c, answer⟩ :: rest) result := by
  have hhashed : Trace (c.targetHash.run.bind _) rest result := h
  cases htarget : c.target? with
  | none =>
    rw [run_targetHash_of_unplaced htarget] at hhashed
    obtain ⟨rfl, rfl⟩ := trace_done_iff.1 hhashed
    exact .inl ⟨_, .unplaced hrefs hgiven htarget, rfl⟩
  | some target =>
    rw [run_targetHash htarget] at hhashed
    obtain ⟨reply, rest, rfl, hdone⟩ := trace_ask_iff.1 hhashed
    cases reply with
    | error e =>
      obtain ⟨rfl, rfl⟩ := trace_done_iff.1 hdone
      exact .inl ⟨_, .target hrefs hgiven htarget, rfl⟩
    | ok object =>
      obtain ⟨rfl, rfl⟩ := trace_done_iff.1 hdone
      exact .inr ⟨refs, _, .read hrefs hgiven htarget, rfl⟩

theorem completeDelta_settles (h : Trace (c.completeDelta d).run log result) : c.Settles d log result := by
  obtain ⟨answer, rest, rfl, hcompleted⟩ := Task.trace_ask_bind_iff.1 h
  extract_lets withConfigs at hcompleted
  -- whatever there is to track, the hash is seen to next
  have hrest : ∀ {refs}, answeredRefs? answer = some refs → Trace (withConfigs (trackedConfigs refs)).run rest result →
      c.Settles d (⟨.configRefs c, answer⟩ :: rest) result := by
    intro refs hrefs hconfigs
    dsimp only [withConfigs] at hconfigs
    cases hhash : d.lastAppliedSpec with
    | some hash =>
      rw [hhash] at hconfigs
      obtain ⟨rfl, rfl⟩ := Task.trace_pure_iff.1 hconfigs
      exact .inr ⟨refs, some hash, .given hrefs hhash, rfl⟩
    | none =>
      rw [hhash] at hconfigs
      exact settles_read hrefs hhash hconfigs
  cases answer with
  | ok refs => exact hrest rfl hcompleted
  | error e =>
    have hcase : Trace (if e.isKindInvalid then withConfigs Dict.empty else throw (.tracker e) : Task StatusDelta).run
      rest result := hcompleted
    split at hcase
    · rename_i hinvalid
      have hnone : answeredRefs? (.error e) = some [] := if_pos hinvalid
      exact hrest hnone hcase
    · rename_i hvalid
      obtain ⟨rfl, rfl⟩ := Task.trace_throw_iff.1 hcase
      exact .inl ⟨_, .tracker (Bool.eq_false_iff.2 hvalid), rfl⟩

end Answered

/-- A sync, as its caller has it. -/
def syncing (c : Canary) (settings : Settings) (d : StatusDelta) :
    Program Cluster.interface (Except ControllerError Unit × Canary) :=
  (c.syncStatus settings d).run.bind fun result => done (c.left result)

/-- A sync stops before it turns to the status, or updates that with the completed delta. -/
theorem syncing_settles {r : Except ControllerError Unit × Canary} (h : Trace (c.syncing settings d) log r) :
    (∃ e, c.Stops d log e ∧ r = (.error e, c)) ∨
      ∃ looked update refs hash result, log = looked ++ update ∧ c.Prepares d looked refs hash ∧
        Trace (c.updateStatus settings (d.completed refs hash)).run update result ∧ r = c.left result := by
  obtain ⟨log, _, result, rfl, hsync, hleft⟩ := trace_bind_iff.1 h
  obtain ⟨rfl, rfl⟩ := trace_done_iff.1 hleft
  rw [List.append_nil]
  rcases Task.trace_bind_iff.1 hsync with ⟨e, hfailed, rfl⟩ | ⟨looked, update, delta, rfl, hcompleted, hupdate⟩
  · rcases completeDelta_settles hfailed with ⟨e', hstops, he⟩ | ⟨_, _, _, hok⟩
    · cases he
      exact .inl ⟨e, hstops, rfl⟩
    · cases hok
  · rcases completeDelta_settles hcompleted with ⟨_, _, he⟩ | ⟨refs, hash, hprepares, hok⟩
    · cases he
    · cases hok
      exact .inr ⟨looked, update, refs, hash, result, rfl, hprepares, hupdate, rfl⟩

/-- A sync that ends well has updated the status. -/
theorem syncing_ok {stored : Canary} (h : Trace (c.syncing settings d) log (.ok (), stored)) :
    ∃ looked update refs hash, log = looked ++ update ∧ c.Prepares d looked refs hash ∧
      Trace (c.updateStatus settings (d.completed refs hash)).run update (.ok stored) := by
  rcases syncing_settles h with ⟨_, -, hfailed⟩ | ⟨looked, update, refs, hash, result, hlog, hprepares, hupdate, hleft⟩
  · cases hfailed
  · cases result with
    | error _ => cases hleft
    | ok _ =>
      cases hleft
      exact ⟨looked, update, refs, hash, hlog, hprepares, hupdate⟩

/-- One that fails has left its caller's canary. -/
theorem syncing_error {e : ControllerError} {copy : Canary} (h : Trace (c.syncing settings d) log (.error e, copy)) :
    copy = c := by
  obtain ⟨_, _, result, -, -, hleft⟩ := trace_bind_iff.1 h
  obtain ⟨-, hcopy⟩ := trace_done_iff.1 hleft
  cases result <;> cases hcopy
  rfl

end Canary

/-! ## Syncs that stop -/

/-- A request to the store of canaries. -/
def Cluster.Request.asksStore : Cluster.Request → Bool
  | .canary _ _ => true
  | .writeStatus _ _ => true
  | _ => false

namespace Canary

variable {c : Canary} {d : StatusDelta} {settings : Settings}
  {log rest looked update : List (Exchange Cluster.interface)}

/-- The tracker has failed, other than for the kind of the target, or the target cannot be read while its hash is
needed. -/
def Unprepared (c : Canary) (d : StatusDelta) (log : List (Exchange Cluster.interface)) : Prop :=
  (∃ e, ⟨.configRefs c, .error e⟩ ∈ log ∧ e.isKindInvalid = false) ∨
    d.lastAppliedSpec = none ∧
      ((c.target? = none ∧ ∃ answer, ⟨.configRefs c, answer⟩ ∈ log) ∨ ∃ target e, ⟨.workload target, .error e⟩ ∈ log)

theorem Unprepared.mono (h : c.Unprepared d log) (hmem : ∀ x ∈ log, x ∈ rest) : c.Unprepared d rest := by
  rcases h with ⟨e, he, hvalid⟩ | ⟨hgiven, ⟨htarget, answer, hanswer⟩ | ⟨target, e, he⟩⟩
  · exact .inl ⟨e, hmem _ he, hvalid⟩
  · exact .inr ⟨hgiven, .inl ⟨htarget, answer, hmem _ hanswer⟩⟩
  · exact .inr ⟨hgiven, .inr ⟨target, e, hmem _ he⟩⟩

/-- A tracker that has answered has not failed. -/
theorem isKindInvalid_of_answeredRefs? {e : TrackerError} {refs : List ConfigRef}
    (h : answeredRefs? (.error e) = some refs) : e.isKindInvalid = true := by
  unfold answeredRefs? at h
  by_contra hvalid
  dsimp only at h
  rw [if_neg hvalid] at h
  cases h

/-- What the tracker has answered a sync that turns to the status. -/
theorem Prepares.answered {refs : List ConfigRef} {hash : Option String} (h : c.Prepares d looked refs hash)
    {answer : Except TrackerError (List ConfigRef)} (hmem : ⟨.configRefs c, answer⟩ ∈ looked) :
    answeredRefs? answer = some refs := by
  cases h with
  | given hrefs =>
    cases List.mem_singleton.1 hmem
    exact hrefs
  | read hrefs =>
    rcases List.mem_cons.1 hmem with heq | hmem
    · cases heq
      exact hrefs
    · cases List.mem_singleton.1 hmem

/-- A sync that turns to the status is not unprepared. -/
theorem Prepares.not_unprepared {refs : List ConfigRef} {hash : Option String} (h : c.Prepares d looked refs hash)
    (hupdate : ∀ x ∈ update, x.request.Updates) : ¬ c.Unprepared d (looked ++ update) := by
  have hlooked : ∀ x ∈ looked ++ update, ¬ x.request.Updates → x ∈ looked := fun x hx hother =>
    (List.mem_append.1 hx).resolve_right fun hmem => hother (hupdate x hmem)
  rintro (⟨e, he, hvalid⟩ | ⟨hgiven, ⟨htarget, -⟩ | ⟨target, e, he⟩⟩)
  · have hinvalid := isKindInvalid_of_answeredRefs? (h.answered (hlooked _ he id))
    rw [hvalid] at hinvalid
    cases hinvalid
  · cases h with
    | given _ hhash =>
      rw [hgiven] at hhash
      cases hhash
    | read _ _ hplaced =>
      rw [htarget] at hplaced
      cases hplaced
  · have hmem := hlooked _ he id
    cases h with
    | given => cases List.mem_singleton.1 hmem
    | read =>
      rcases List.mem_cons.1 hmem with heq | hmem
      · cases heq
      · cases List.mem_singleton.1 hmem

/-- A sync that stops has not turned to the store. -/
theorem Stops.asks {e : ControllerError} (h : c.Stops d log e) : ∀ x ∈ log, x.request.asksStore = false := by
  cases h <;> simp [Cluster.Request.asksStore]

/-- A sync that stops, stops at once. -/
theorem Stops.at_once {e : ControllerError} (h : c.Stops d (log ++ rest) e) (hunprepared : c.Unprepared d log) :
    rest = [] := by
  cases log with
  | nil =>
    -- nothing has been answered yet
    rcases hunprepared with ⟨_, hmem, -⟩ | ⟨-, ⟨-, _, hmem⟩ | ⟨_, _, hmem⟩⟩ <;> cases hmem
  | cons first later =>
    rw [List.cons_append] at h
    generalize hall : later ++ rest = all at h
    cases h with
    | tracker | unplaced => exact (List.append_eq_nil_iff.1 hall).2
    | target hrefs hgiven htarget =>
      cases later with
      | nil =>
        -- the tracker alone has answered, and could be followed by the target
        have hread : c.Prepares d [_, ⟨.workload _, .ok default⟩] _ _ := .read hrefs hgiven htarget
        have hnot : ¬ c.Unprepared d (_ ++ []) := hread.not_unprepared (by simp)
        rw [List.append_nil] at hnot
        exact absurd (hunprepared.mono (by simp)) hnot
      | cons => exact (List.append_eq_nil_iff.1 (List.cons.inj hall).2).2

/-- An unprepared sync has failed, and has left its caller's canary. -/
theorem Unprepared.stops (h : c.Unprepared d log) {q : Program Cluster.interface (Except ControllerError Unit × Canary)}
    (hafter : After (c.syncing settings d) log q) : ∃ e, c.Stops d log e ∧ q = .done (.error e, c) := by
  obtain ⟨rest, r, hrest⟩ := exists_trace Cluster.nonempty_reply q
  rcases syncing_settles (hafter.trans hrest) with
    ⟨e, hstops, rfl⟩ | ⟨looked, update, refs, hash, _, hlog, hprepares, hupdate, -⟩
  · obtain rfl := hstops.at_once h
    rw [List.append_nil] at hstops
    exact ⟨e, hstops, (after_nil_iff.1 hrest).symm⟩
  · have hasked : ∀ x ∈ update, x.request.Updates := (updateAttempts_updates settings c.ns c.name _ _ _).of_mem hupdate
    have hwhole : c.Unprepared d (log ++ rest) := h.mono fun x hx => List.mem_append_left _ hx
    rw [hlog] at hwhole
    exact absurd hwhole (hprepares.not_unprepared hasked)

/-- The hash of a target is a text. -/
theorem Prepares.ne_empty {refs : List ConfigRef} {hash : String} (h : c.Prepares d looked refs (some hash))
    (hgiven : d.lastAppliedSpec = none) : hash ≠ "" := by
  generalize hrecorded : some hash = recorded at h
  cases h with
  | given _ hhash =>
    rw [hgiven] at hhash
    cases hhash
  | read => exact Manifest.specHash?_ne_empty hrecorded.symm

end Canary

/-! ## Syncs in a shared store -/

/-- A session's sync, whatever its controller is, is that of its canary. -/
theorem Session.syncs (s : Session) (k : Controller) (d : StatusDelta) :
    ∃ r, (((s.canary.syncing s.settings d).run s.backend.answer).run s.world).1 = r ∧
      (Session.takeControllerStep k (.syncStatus d) s).1 = conclude .controller (fun _ => .done) r.1 ∧
      (Session.takeControllerStep k (.syncStatus d) s).2.canary = r.2 := by
  rcases hrun : ((s.canary.syncStatus s.settings d).run.run s.backend.answer).run s.world with ⟨result, w⟩
  have hstep : Session.takeControllerStep k (.syncStatus d) s = ((do
      let refreshed ← Session.refresh (s.canary.syncStatus s.settings d)
      return conclude .controller (fun _ => .done) refreshed) : StepRun) s := rfl
  refine ⟨s.canary.left result, ?_, ?_⟩
  · unfold Canary.syncing
    rw [run_bind_done, hrun]
  · rw [hstep, bind_apply (Session.refresh_eq hrun)]
    cases result <;> exact ⟨rfl, rfl⟩

/-- From one store to the next, or at one, a delta is synced over the canary that is stored; all else about that, but
for its version, and all else that is stored is as it was. -/
structure CanaryStore.Synced {k : CanaryObjects} (s t : CanaryStore k) (ns name : String) (d : StatusDelta)
    (refs : List ConfigRef) (hash : Option String) (now : Instant) (before after : Canary) : Prop where
  stored : s.stored? ns name = some before
  leaves : t.stored? ns name = some after
  status : d.Syncs refs hash now (before.status.getD {}) (after.status.getD {})
  spec : after.spec = before.spec
  metadata : ∃ version, after.metadata = { before.metadata with resourceVersion := version }
  others : ∀ ns' name', ¬ (ns' = ns ∧ name' = name) → t.objects ns' name' = s.objects ns' name'

namespace Shared

variable {k : CanaryObjects} {ι β : Type} [DecidableEq ι]
  {start now : Shared k ι β} {log : List (SharedEvent ι)} {i : ι}

/-- In the run a client has come by a canary as it is stored, and a delta is synced there: at the last read, where
there was nothing to change, or with the write that was its last request, over what it had last read. -/
def Recorded (start : Shared k ι β) (log : List (SharedEvent ι)) (i : ι) (c : Canary) (d : StatusDelta)
    (refs : List ConfigRef) (hash : Option String) (stored : Canary) : Prop :=
  ∃ earlier e later past next before time, log = earlier ++ .asked i e :: later ∧ Run start earlier past ∧
    Step past (.asked i e) next ∧ past.store.Synced next.store c.ns c.name d refs hash time before stored ∧
    ((e = ⟨.canary c.ns c.name, .ok before⟩ ∧ stored = before ∧ exchanges i later = [⟨.now, time⟩]) ∨
      (∃ status, e = ⟨.writeStatus before status, .ok stored⟩) ∧ exchanges i later = [] ∧
        ∃ seen, exchanges i earlier = seen ++ [⟨.canary c.ns c.name, .ok before⟩, ⟨.now, time⟩])

/-- A client whose last exchanges are those of an update that ends well has recorded its delta. -/
theorem Run.recorded (hrun : Run start log now) (hversions : start.store.Versioned) {c stored : Canary}
    {settings : Settings} {d : StatusDelta} {refs : List ConfigRef} {hash : Option String}
    {looked update : List (Exchange Cluster.interface)} (hlog : exchanges i log = looked ++ update)
    (hupdate : Trace (c.updateStatus settings (d.completed refs hash)).run update (.ok stored)) :
    Recorded start log i c d refs hash stored := by
  obtain ⟨before, fresh, time, ⟨rfl, rfl, hsame⟩ | rfl⟩ := Trace.updateStatus_last hupdate
  · rw [← List.append_assoc] at hlog
    obtain ⟨earlier, later, rfl, -, hlater⟩ := exchanges_eq_append_cons hlog
    obtain ⟨past, next, hpast, hread⟩ := hrun.before
    obtain ⟨hstore, hstored⟩ := hread.read
    have hsynced := d.syncs_apply refs hash (stored.status.getD {}) time
    rw [hsame] at hsynced
    refine ⟨earlier, _, later, past, next, stored, time, rfl, hpast, hread, ?_, .inl ⟨rfl, rfl, hlater⟩⟩
    rw [hstore]
    exact ⟨hstored, hstored, hsynced, rfl, ⟨_, rfl⟩, fun _ _ _ => rfl⟩
  · have hcut : exchanges i log = (looked ++ before ++ [⟨.canary c.ns c.name, .ok fresh⟩, ⟨.now, time⟩]) ++
        [⟨.writeStatus fresh ((d.completed refs hash).apply (fresh.status.getD {}) time), .ok stored⟩] := by
      simp only [hlog, List.append_assoc, List.cons_append, List.nil_append]
    obtain ⟨earlier, later, rfl, hearlier, hlater⟩ := exchanges_eq_append_cons hcut
    obtain ⟨past, next, hpast, hstep⟩ := hrun.before
    have hread : .asked i ⟨.canary c.ns c.name, .ok fresh⟩ ∈ earlier := by
      rw [← mem_exchanges, hearlier]
      simp
    have hseen := hpast.seen hversions hread
    refine ⟨earlier, _, later, past, next, fresh, time, rfl, hpast, hstep, ?_, .inr ⟨⟨_, rfl⟩, hlater, _, hearlier⟩⟩
    cases hstep with
    | asked _ hanswer =>
      cases hanswer with
      | written ho hv hnew _ hwritten =>
        have hupdated := hseen.updated ho hv hnew (d.completed refs hash) time
        obtain ⟨_, -, hversion, hsame⟩ := hseen
        obtain ⟨-, -, hstored⟩ := hsame ho (hv.trans hversion)
        rw [k.read_write hstored] at hwritten
        cases hwritten
        have hsynced := d.syncs_apply refs hash (fresh.status.getD {}) time
        exact ⟨hupdated.stored, hupdated.leaves, hsynced, hupdated.spec, ⟨_, rfl⟩, hupdated.others⟩
      | aside _ _ hnot => exact absurd rfl (hnot _ _)

/-- A client syncs the status of a canary in a store that it shares with other clients and writers, whatever these do
and however often a write is refused. Once the tracker has failed, other than for the kind of the target, or the target
cannot be read for the hash that is needed, the sync has failed and has asked nothing of the store. Any failure leaves
the caller its canary. A sync that ends well leaves the caller the stored canary, in which the delta is synced over the
status that was last read, with what the tracker has named and with the delta's hash or that of the target as it was
read. A controller that compares hashes then sees no change while the target has that hash, unless it has none. -/
theorem sync_recorded {start now : Shared k ι (Except ControllerError Unit × Canary)} {c : Canary} {settings : Settings}
    {d : StatusDelta} (hrun : Run start log now) (hversions : start.store.Versioned)
    (hstart : start.running i = c.syncing settings d) :
    (c.Unprepared d (exchanges i log) →
      (∃ e, now.running i = .done (.error e, c)) ∧ ∀ x ∈ exchanges i log, x.request.asksStore = false) ∧
    (∀ e copy, now.running i = .done (.error e, copy) → copy = c) ∧
    ∀ stored, now.running i = .done (.ok (), stored) →
      ∃ looked update refs hash, exchanges i log = looked ++ update ∧ c.Prepares d looked refs hash ∧
        Recorded start log i c d refs hash stored ∧
        (d.lastAppliedSpec = none → ∀ k : Controller, k.comparesHash = true →
          ∀ target object, stored.target? = some target → ∃ changed,
            Trace (stored.targetChanged.run.run k) [⟨.workload target, .ok object⟩] (.ok changed, k) ∧
              (object.specHash? = hash → changed = hash.isNone) ∧
              (hash ≠ none → object.specHash? ≠ hash → changed = true)) := by
  have hafter := hrun.after i
  rw [hstart] at hafter
  refine ⟨fun hunprepared => ?_, fun e copy hdone => ?_, fun stored hdone => ?_⟩
  · obtain ⟨e, hstops, hdone⟩ := Canary.Unprepared.stops hunprepared hafter
    exact ⟨⟨e, hdone⟩, hstops.asks⟩
  · rw [hdone] at hafter
    exact Canary.syncing_error hafter
  · rw [hdone] at hafter
    obtain ⟨looked, update, refs, hash, hlog, hprepares, hupdate⟩ := Canary.syncing_ok hafter
    have hrecorded := hrun.recorded hversions hlog hupdate
    refine ⟨looked, update, refs, hash, hlog, hprepares, hrecorded, ?_⟩
    obtain ⟨_, _, _, _, _, _, _, -, -, -, hsynced, -⟩ := hrecorded
    intro hgiven k hk target object htarget
    refine ⟨_, Canary.trace_targetChanged hk htarget object, ?_⟩
    cases hash with
    | none =>
      refine ⟨fun hnone => ?_, fun hsome => absurd rfl hsome⟩
      rw [hnone, Canary.differs_none]
      rfl
    | some recorded =>
      rw [Canary.differs_eq (hprepares.ne_empty hgiven) hsynced.status.lastAppliedSpec]
      exact ⟨fun hsame => by rw [hsame]; simp, fun _ hother => decide_eq_true hother⟩

/-! ### A sync that meets a conflict -/

/-- What the tracker names, one name twice. -/
def namedConfigs : List ConfigRef := [⟨"configmap/a", "1"⟩, ⟨"configmap/b", "2"⟩, ⟨"configmap/a", "3"⟩]

/-- The target of `podinfo`. -/
def syncTarget : WorkloadRef := ⟨"apps/v1", "Deployment", "podinfo", "prod"⟩

def syncObject : Manifest where
  types := some ⟨"apps/v1", "Deployment"⟩
  metadata := { name := some "podinfo", ns := some "prod" }
  body := .obj [("spec", .obj [("replicas", .int 1)])]

def initialization : StatusDelta := { phase := some .initialized, canaryWeight := some 10 }

def syncStart : Shared .replaced Unit (Except ControllerError Unit × Canary) where
  store := raceStart.store
  running _ := podinfo.syncing .default initialization

/-- Another writer counts a failed check between the first read and the write, which is then refused; the second
attempt succeeds. -/
theorem sync_run : ∃ now log stored update, Run syncStart log now ∧ now.running () = .done (.ok (), stored) ∧
    stored.target? = some syncTarget ∧ stored.failedChecks = 1 ∧
    exchanges () log =
      ⟨.configRefs podinfo, .ok namedConfigs⟩ :: ⟨.workload syncTarget, .ok syncObject⟩ :: update := by
  have h₁ := (Run.nil syncStart).snoc (.asked (i := ()) rfl
    (.aside (r := .configRefs podinfo) (.ok namedConfigs) (by simp) (by simp)))
  have h₂ := h₁.snoc (.asked (i := ()) rfl (.aside (r := .workload syncTarget) (.ok syncObject) (by simp) (by simp)))
  have h₃ := h₂.snoc (.asked (i := ()) rfl (.read (c := podinfo) rfl))
  have h₄ := h₃.snoc (.asked (i := ()) rfl (.aside default (by simp) (by simp)))
  have h₅ := h₄.snoc (.put "prod" "podinfo" (o := counted) (show "2" ∉ ({"1"} : Set String) by simp) rfl)
  have h₆ := h₅.snoc (.asked (i := ()) rfl (.refused (.conflict "")))
  have h₇ := h₆.snoc (.asked (i := ()) rfl (.aside () (by simp) (by simp)))
  have h₈ := h₇.snoc (.asked (i := ()) rfl (.read (c := counted) rfl))
  have h₉ := h₈.snoc (.asked (i := ()) rfl (.aside default (by simp) (by simp)))
  have h₁₀ := h₉.snoc (.asked (i := ()) rfl
    (.written (o := counted) rfl rfl (show "3" ∉ ({"2", "1"} : Set String) by simp) rfl rfl))
  exact ⟨_, _, _, _, h₁₀, rfl, rfl, rfl, rfl⟩

/-- The check that was counted in between is kept, of the two checksums for one name the last is recorded, and the
target as it was read is no new version. -/
theorem sync_recorded_conflict : ∃ now log stored, Run syncStart log now ∧ syncStart.store.Versioned ∧
    now.running () = .done (.ok (), stored) ∧ stored.failedChecks = 1 ∧
    (stored.status.getD {}).trackedConfigs.bind (·.get? "configmap/a") = some "3" ∧
    Trace (stored.targetChanged.run.run .deployment) [⟨.workload syncTarget, .ok syncObject⟩]
      (.ok false, .deployment) := by
  obtain ⟨now, log, stored, update, hrun, hdone, htarget, hchecks, hlog⟩ := sync_run
  have hstart : syncStart.running () = podinfo.syncing .default initialization := rfl
  have hsync := (sync_recorded hrun raceStart_versioned hstart).2.2 stored hdone
  obtain ⟨looked, update', refs, hash, hcut, hprepares, ⟨_, _, _, _, _, _, _, -, -, -, hsynced, -⟩, hlook⟩ := hsync
  obtain ⟨changed, htrace, hsame, -⟩ := hlook rfl .deployment rfl syncTarget syncObject htarget
  rw [hlog] at hcut
  have hrefs : refs = namedConfigs ∧ hash = syncObject.specHash? := by
    cases hprepares with
    | given _ hhash => cases hhash
    | read hanswered =>
      obtain ⟨hfirst, hrest⟩ := List.cons.inj hcut
      obtain ⟨hsecond, -⟩ := List.cons.inj hrest
      cases hfirst
      cases hsecond
      cases hanswered
      exact ⟨rfl, rfl⟩
  obtain ⟨rfl, rfl⟩ := hrefs
  rw [hsame rfl] at htrace
  exact ⟨now, log, stored, hrun, raceStart_versioned, hdone, hchecks, hsynced.status.tracked "configmap/a", htrace⟩

end Shared

end Rollout
