/-
Any number of clients that share a store of canaries, each running a program of its own, among
other writers that put and remove objects as they like. A run interleaves their requests in any
order. Main statement: `updates_not_lost`, for clients that each update a status. What a client
then writes is its delta over what was stored immediately before, whatever fell between its read
and its write, and one that ends without a write has read a status that its delta leaves as it is.
The invariant is `Run.seen`: what a client has read is still what is stored at that version.
-/
import Rollout.Proofs.Status.Store
import Rollout.Proofs.Status.Update

namespace Rollout

open Program CanaryStore

/-! ## Steps and runs -/

/-- A store and the clients that share it, as the programs that are left of them. -/
structure Shared (k : CanaryObjects) (ι β : Type) where
  store : CanaryStore k
  running : ι → Program Cluster.interface β

/-- What happens in a step. -/
inductive SharedEvent (ι : Type) where
  /-- A client makes a request and is answered. -/
  | asked (client : ι) (e : Exchange Cluster.interface)
  /-- Another writer puts an object. -/
  | put (ns name : String)
  /-- Another writer removes an object. -/
  | removed (ns name : String)

namespace Shared

variable {k : CanaryObjects} {ι β : Type} [DecidableEq ι]

/-- One step of the clients or of another writer. -/
inductive Step : Shared k ι β → SharedEvent ι → Shared k ι β → Prop
  | asked {s : Shared k ι β} {i : ι} {r : Cluster.Request} {next : Cluster.Reply r → Program Cluster.interface β}
      {reply : Cluster.Reply r} {store : CanaryStore k} :
      s.running i = .ask r next → Answers s.store r reply store →
      Step s (.asked i ⟨r, reply⟩) ⟨store, Function.update s.running i (next reply)⟩
  | put {s : Shared k ι β} (ns name : String) {o : k.Object} {version : String} :
      version ∉ s.store.issued → k.version? o = some version →
      Step s (.put ns name) { s with store := s.store.putAt ns name o version }
  | removed {s : Shared k ι β} (ns name : String) :
      Step s (.removed ns name) { s with store := s.store.put ns name none }

/-- Any number of steps, as the log says. -/
inductive Run : Shared k ι β → List (SharedEvent ι) → Shared k ι β → Prop
  | nil (s : Shared k ι β) : Run s [] s
  | snoc {s t u : Shared k ι β} {log : List (SharedEvent ι)} {e : SharedEvent ι} :
      Run s log t → Step t e u → Run s (log ++ [e]) u

/-- What one client has been answered. -/
def exchanges (i : ι) (log : List (SharedEvent ι)) : List (Exchange Cluster.interface) :=
  log.filterMap fun
    | .asked j e => if j = i then some e else none
    | _ => none

variable {s t start now : Shared k ι β} {log : List (SharedEvent ι)} {e : SharedEvent ι} {i : ι}

theorem mem_exchanges {x : Exchange Cluster.interface} : x ∈ exchanges i log ↔ .asked i x ∈ log := by
  unfold exchanges
  rw [List.mem_filterMap]
  constructor
  · rintro ⟨e, he, h⟩
    cases e with
    | asked j y =>
      simp only at h
      split at h
      · rename_i hj; cases h; rw [← hj]; exact he
      · cases h
    | put | removed => cases h
  · intro h; exact ⟨_, h, if_pos rfl⟩

theorem run_snoc_iff : Run start (log ++ [e]) now ↔ ∃ s, Run start log s ∧ Step s e now := by
  constructor
  · intro h
    generalize hl : log ++ [e] = l at h
    cases h with
    | nil => simp at hl
    | snoc hrun hstep =>
      obtain ⟨hlog, he⟩ := List.append_inj' hl rfl
      cases hlog; cases he
      exact ⟨_, hrun, hstep⟩
  · rintro ⟨s, hrun, hstep⟩; exact .snoc hrun hstep

/-- A client's answers are cut where the log of all is cut. -/
theorem exchanges_eq_append_cons {x : Exchange Cluster.interface} {l₁ l₂ : List (Exchange Cluster.interface)}
    (h : exchanges i log = l₁ ++ x :: l₂) :
    ∃ log₁ log₂, log = log₁ ++ .asked i x :: log₂ ∧ exchanges i log₁ = l₁ ∧ exchanges i log₂ = l₂ := by
  unfold exchanges at h
  obtain ⟨log₁, rest, rfl, h₁, h₂⟩ := List.filterMap_eq_append_iff.1 h
  obtain ⟨others, e, log₂, rfl, hothers, he, h₂⟩ := List.filterMap_eq_cons_iff.1 h₂
  have he' : e = .asked i x := by
    cases e with
    | asked j y =>
      simp only at he
      split at he
      · rename_i hj; cases he; rw [hj]
      · cases he
    | put | removed => cases he
  refine ⟨log₁ ++ others, log₂, by rw [he', List.append_assoc], ?_, h₂⟩
  unfold exchanges
  rw [List.filterMap_append, h₁, List.filterMap_eq_nil_iff.2 hothers, List.append_nil]

/-- A run that comes by an event has stood before it. -/
theorem Run.before {after : List (SharedEvent ι)} (h : Run start (log ++ e :: after) now) :
    ∃ s t, Run start log s ∧ Step s e t := by
  -- runs grow at their end, so what came after is taken off from there
  induction after using List.reverseRecOn generalizing now with
  | nil =>
    obtain ⟨s, hrun, hstep⟩ := run_snoc_iff.1 h
    exact ⟨s, now, hrun, hstep⟩
  | append_singleton after f ih =>
    rw [← List.cons_append, ← List.append_assoc] at h
    obtain ⟨s, hrun, -⟩ := run_snoc_iff.1 h
    exact ih hrun

/-- A run takes each client along its own program, answered as the client was. -/
theorem Run.after (h : Run start log now) (i : ι) : After (start.running i) (exchanges i log) (now.running i) := by
  induction h with
  | nil => exact .nil _
  | snoc _ hs ih =>
    unfold exchanges at ih ⊢
    rw [List.filterMap_append]
    cases hs with
    | @asked j r next reply store hr _ =>
      by_cases hj : j = i
      · subst hj
        rw [hr] at ih
        simpa using ih.snoc reply
      · -- another client's step leaves this one where it is
        simpa [hj, Function.update_of_ne (Ne.symm hj)] using ih
    | put | removed => simpa using ih

/-! ## The invariant -/

theorem Step.versioned (h : Step s e t) (hs : s.store.Versioned) : t.store.Versioned := by
  cases h with
  | asked _ h => exact h.versioned hs
  | put ns name hnew ho => exact hs.putAt hnew ho
  | removed ns name => exact hs.put ns name

theorem Step.seen (h : Step s e t) {ns name : String} {c : Canary} (hs : s.store.Seen ns name c) :
    t.store.Seen ns name c := by
  cases h with
  | asked _ h => exact h.seen hs
  | put _ _ hnew ho => exact hs.putAt hnew ho
  | removed ns' name' => exact hs.put ns' name'

theorem Run.versioned (h : Run start log now) (hs : start.store.Versioned) : now.store.Versioned := by
  induction h with
  | nil => exact hs
  | snoc _ h ih => exact h.versioned ih

/-- What a client reads is stored at that time. -/
theorem Step.read {ns name : String} {c : Canary} (h : Step s (.asked i ⟨.canary ns name, .ok c⟩) t) :
    t.store = s.store ∧ s.store.stored? ns name = some c := by
  cases h with
  | asked _ h =>
    cases h with
    | read h => exact ⟨rfl, h⟩
    | aside _ h => exact absurd rfl (h ns name)

/-- What a client has read is still what is stored at the version that it had. -/
theorem Run.seen (h : Run start log now) (hs : start.store.Versioned) {ns name : String} {c : Canary}
    (hread : .asked i ⟨.canary ns name, .ok c⟩ ∈ log) : now.store.Seen ns name c := by
  induction h with
  | nil => cases hread
  | snoc hrun hstep ih =>
    rcases List.mem_append.1 hread with hread | hread
    · exact hstep.seen (ih hread)
    · -- the read itself, of what is stored just then
      obtain rfl := List.mem_singleton.1 hread
      obtain ⟨-, hc⟩ := hstep.read
      obtain ⟨o, ho, hc⟩ := Option.bind_eq_some_iff.1 hc
      exact hstep.seen ((hrun.versioned hs).seen ho hc)

/-- Where a client writes the status of a canary that it has read, the answer is a canary with that status. -/
theorem Run.status_written (h : Run start log now) (hs : start.store.Versioned) {ns name : String}
    {fresh written : Canary} {status : CanaryStatus} {seen later : List (Exchange Cluster.interface)}
    (hlog : exchanges i log = seen ++ ⟨.writeStatus fresh status, .ok written⟩ :: later)
    (hread : ⟨.canary ns name, .ok fresh⟩ ∈ seen) : written.status = some status := by
  obtain ⟨earlier, rest, rfl, hseen, -⟩ := exchanges_eq_append_cons hlog
  obtain ⟨s, t, hrun, hstep⟩ := h.before
  obtain ⟨v, -, hversion, hsame⟩ := hrun.seen hs (mem_exchanges.1 (hseen ▸ hread))
  cases hstep with
  | asked _ hanswer =>
    cases hanswer with
    | written ho hv _ _ hwritten =>
      obtain ⟨-, -, hstored⟩ := hsame ho (hv.trans hversion)
      rw [k.read_write hstored] at hwritten
      cases hwritten
      rfl
    | aside _ _ hnot => exact absurd rfl (hnot fresh status)

end Shared

/-! ## Updates -/

/-- An answer that says that a status was written. -/
def Exchange.IsWrite (e : Exchange Cluster.interface) : Prop :=
  ∃ c status written, e = ⟨.writeStatus c status, .ok written⟩

/-- From one store to the next, one canary has been written with a delta, applied at some time to
the status it had; all else about it, but for its version, and all else that is stored is as it was. -/
structure CanaryStore.Updated {k : CanaryObjects} (s t : CanaryStore k) (ns name : String) (delta : StatusDelta)
    (now : Instant) (before after : Canary) : Prop where
  stored : s.stored? ns name = some before
  leaves : t.stored? ns name = some after
  status : after.status = some (delta.apply (before.status.getD {}) now)
  spec : after.spec = before.spec
  metadata : ∃ version ∉ s.issued, after.metadata = { before.metadata with resourceVersion := some version }
  keeps : delta.Keeps (before.status.getD {}) (after.status.getD {})
  others : ∀ ns' name', ¬ (ns' = ns ∧ name' = name) → t.objects ns' name' = s.objects ns' name'

/-- A write of a delta over a canary that has been seen updates what is stored. -/
theorem CanaryStore.Seen.updated {k : CanaryObjects} {s : CanaryStore k} {ns name version : String}
    {c : Canary} {o : k.Object} (hseen : s.Seen ns name c) (ho : s.objects c.ns c.name = some o)
    (hv : k.version? o = c.resourceVersion) (hnew : version ∉ s.issued) (delta : StatusDelta) (now : Instant) :
    s.Updated (s.putAt c.ns c.name (k.write o c (delta.apply (c.status.getD {}) now) version) version) ns name
      delta now c (c.written (delta.apply (c.status.getD {}) now) version) := by
  obtain ⟨v, -, hcv, hsame⟩ := hseen
  obtain ⟨rfl, rfl, hread⟩ := hsame ho (hv.trans hcv)
  constructor
  · unfold stored?; rw [ho]; exact hread
  · unfold stored?
    rw [putAt_objects, if_pos ⟨rfl, rfl⟩]
    exact k.read_write hread _ _
  · rfl
  · rfl
  · exact ⟨version, hnew, rfl⟩
  · exact delta.keeps_apply _ now
  · intro ns' name' hne
    rw [putAt_objects, if_neg hne]

namespace Shared

variable {k : CanaryObjects} {ι : Type} [DecidableEq ι]

/-- A step of a client that writes, or changes what is stored, carries out a write that the client asks for, at the
version that it was made for. -/
theorem Step.wrote {β : Type} {now next : Shared k ι β} {i : ι} {e : Exchange Cluster.interface}
    (h : Step now (.asked i e) next) (hwrite : e.IsWrite ∨ next.store ≠ now.store) :
    ∃ c status cont o version, now.running i = .ask (.writeStatus c status) cont ∧
      now.store.objects c.ns c.name = some o ∧ k.version? o = c.resourceVersion ∧ version ∉ now.store.issued ∧
      next.store = now.store.putAt c.ns c.name (k.write o c status version) version := by
  cases h with
  | asked hr hanswer =>
    cases hanswer with
    | written ho hv hnew => exact ⟨_, _, _, _, _, hr, ho, hv, hnew, rfl⟩
    | unacknowledged _ ho hv hnew => exact ⟨_, _, _, _, _, hr, ho, hv, hnew, rfl⟩
    | read | unread | refused =>
      rcases hwrite with ⟨c, status, written, he⟩ | hne
      · cases he
      · exact absurd rfl hne
    | aside reply _ hnot =>
      rcases hwrite with ⟨c, status, written, he⟩ | hne
      · cases he; exact absurd rfl (hnot c status)
      · exact absurd rfl hne

/-- Clients that each update a status with a delta of their own. -/
def Updating (callers : ι → Canary) (settings : ι → Settings) (deltas : ι → StatusDelta)
    (s : Shared k ι (Except ControllerError Canary)) : Prop :=
  ∀ i, s.running i = ((callers i).updateStatus (settings i) (deltas i)).run

section Updates

variable {callers : ι → Canary} {settings : ι → Settings} {deltas : ι → StatusDelta}
  {start now next : Shared k ι (Except ControllerError Canary)} {log : List (SharedEvent ι)}
  {i : ι} {e : Exchange Cluster.interface}

/-- A step in which a client writes, or changes what is stored, is an update with its delta, at the
time that it has just read. -/
theorem Run.updated (hrun : Run start log now) (hstart : start.Updating callers settings deltas)
    (hversions : start.store.Versioned) (hstep : Step now (.asked i e) next)
    (hwrite : e.IsWrite ∨ next.store ≠ now.store) :
    ∃ seen time before after, exchanges i log = seen ++ [⟨.now, time⟩] ∧
      now.store.Updated next.store (callers i).ns (callers i).name (deltas i) time before after := by
  obtain ⟨c, status, cont, o, version, hasks, ho, hv, hnew, hstore⟩ := hstep.wrote hwrite
  have hafter := hrun.after i
  rw [hstart i, hasks] at hafter
  obtain ⟨before, time, hlog, rfl⟩ := After.updateStatus_write hafter
  have hread : .asked i ⟨.canary (callers i).ns (callers i).name, .ok c⟩ ∈ log := by
    rw [← mem_exchanges, hlog]; simp
  -- the client's write is carried out on what it has read
  have hseen := hrun.seen hversions hread
  rw [hstore]
  exact ⟨before ++ [_], time, c, _, by rw [hlog, List.append_assoc]; rfl, hseen.updated ho hv hnew (deltas i) time⟩

/-- A client that has ended well without a write has read, at some time of the run, a stored status
on which its delta changes nothing. -/
theorem Run.unchanged (hrun : Run start log now) (hstart : start.Updating callers settings deltas) {c : Canary}
    (hdone : now.running i = .done (.ok c)) (hquiet : ∀ e ∈ exchanges i log, ¬ e.IsWrite) :
    ∃ earlier later past time, log = earlier ++ later ∧ Run start earlier past ∧
      past.store.stored? (callers i).ns (callers i).name = some c ∧
      exchanges i later = [⟨.canary (callers i).ns (callers i).name, .ok c⟩, ⟨.now, time⟩] ∧
      (deltas i).apply (c.status.getD {}) time = c.status.getD {} := by
  have htrace := hrun.after i
  rw [hstart i, hdone] at htrace
  rcases Trace.updateStatus_ok htrace with ⟨before, time, hlog, hsame⟩ | ⟨before, fresh, status, hlog⟩
  · obtain ⟨earlier, later, rfl, -, hlater⟩ := exchanges_eq_append_cons hlog
    obtain ⟨past, after, hpast, hread⟩ := hrun.before
    refine ⟨earlier, _, past, time, rfl, hpast, hread.read.2, ?_, hsame⟩
    unfold exchanges at hlater ⊢
    rw [List.filterMap_cons, hlater]; simp
  · exact absurd ⟨fresh, status, c, rfl⟩ (hquiet _ (by rw [hlog]; simp))

/-- No update is lost. Clients update statuses in a store that they share with each other and with
other writers. Whenever one of them writes, it writes its delta over what was stored immediately
before; and one that ends well without a write has read a stored status on which its delta changes
nothing. -/
theorem updates_not_lost (hrun : Run start log now) (hstart : start.Updating callers settings deltas)
    (hversions : start.store.Versioned) :
    (∀ i e next, Step now (.asked i e) next → (e.IsWrite ∨ next.store ≠ now.store) →
      ∃ seen time before after, exchanges i log = seen ++ [⟨.now, time⟩] ∧
        now.store.Updated next.store (callers i).ns (callers i).name (deltas i) time before after) ∧
    (∀ i c, now.running i = .done (.ok c) → (∀ e ∈ exchanges i log, ¬ e.IsWrite) →
      ∃ earlier later past time, log = earlier ++ later ∧ Run start earlier past ∧
        past.store.stored? (callers i).ns (callers i).name = some c ∧
        exchanges i later = [⟨.canary (callers i).ns (callers i).name, .ok c⟩, ⟨.now, time⟩] ∧
        (deltas i).apply (c.status.getD {}) time = c.status.getD {}) :=
  ⟨fun _ _ _ hstep hwrite => hrun.updated hstart hversions hstep hwrite,
    fun _ _ hdone hquiet => hrun.unchanged hstart hdone hquiet⟩

end Updates

/-! ### Two clients that race -/

/-- A canary at its first version. -/
def podinfo : Canary :=
  { metadata := { name := some "podinfo", ns := some "prod", resourceVersion := some "1" }
    spec := { targetRef := ⟨"apps/v1", "Deployment", "podinfo", none⟩ } }

/-- One client sets the weight, the other counts a failed check. -/
def racing : Bool → StatusDelta
  | true => { canaryWeight := some 10 }
  | false => { failedChecks := some 1 }

def raceStart : Shared .replaced Bool (Except ControllerError Canary) where
  store := { objects := fun ns name => if ns = "prod" ∧ name = "podinfo" then some podinfo else none, issued := {"1"} }
  running i := (podinfo.updateStatus .default (racing i)).run

/-- The canary after the write of one client, and after those of both. -/
def counted : Canary := podinfo.written { failedChecks := 1 } "2"

def weighted : Canary := podinfo.written { failedChecks := 1, canaryWeight := 10 } "3"

/-- Both read, one writes, the other meets a conflict and reads again. -/
def raceLog : List (SharedEvent Bool) :=
  [.asked true ⟨.canary "prod" "podinfo", .ok podinfo⟩, .asked false ⟨.canary "prod" "podinfo", .ok podinfo⟩,
   .asked true ⟨.now, default⟩, .asked false ⟨.now, default⟩,
   .asked false ⟨.writeStatus podinfo { failedChecks := 1 }, .ok counted⟩,
   .asked true ⟨.writeStatus podinfo { canaryWeight := 10 }, .error (.conflict "")⟩,
   .asked true ⟨.pause 10, ()⟩, .asked true ⟨.canary "prod" "podinfo", .ok counted⟩, .asked true ⟨.now, default⟩]

theorem race_run : ∃ now next, Run raceStart raceLog now ∧ now.store.stored? "prod" "podinfo" = some counted ∧
    Step now (.asked true ⟨.writeStatus counted { failedChecks := 1, canaryWeight := 10 }, .ok weighted⟩) next := by
  have h₁ := (Run.nil raceStart).snoc (.asked (i := true) rfl (.read (c := podinfo) rfl))
  have h₂ := h₁.snoc (.asked (i := false) rfl (.read (c := podinfo) rfl))
  have h₃ := h₂.snoc (.asked (i := true) rfl (.aside default (by simp) (by simp)))
  have h₄ := h₃.snoc (.asked (i := false) rfl (.aside default (by simp) (by simp)))
  have h₅ := h₄.snoc (.asked (i := false) rfl
    (.written (o := podinfo) rfl rfl (show "2" ∉ ({"1"} : Set String) by simp) rfl rfl))
  have h₆ := h₅.snoc (.asked (i := true) rfl (.refused (.conflict "")))
  have h₇ := h₆.snoc (.asked (i := true) rfl (.aside () (by simp) (by simp)))
  have h₈ := h₇.snoc (.asked (i := true) rfl (.read rfl))
  have h₉ := h₈.snoc (.asked (i := true) rfl (.aside default (by simp) (by simp)))
  exact ⟨_, _, h₉, rfl, .asked rfl
    (.written (o := counted) rfl rfl (show "3" ∉ ({"2", "1"} : Set String) by simp) rfl rfl)⟩

theorem raceStart_versioned : raceStart.store.Versioned := by
  have hobj : ∀ {ns name o}, raceStart.store.objects ns name = some o →
      (ns = "prod" ∧ name = "podinfo") ∧ o = podinfo := by
    intro ns name o ho
    unfold raceStart at ho
    obtain ⟨hk, ho⟩ := Option.ite_none_right_eq_some.1 ho
    cases ho
    exact ⟨hk, rfl⟩
  constructor
  · intro ns name o ho
    obtain ⟨-, rfl⟩ := hobj ho
    exact ⟨"1", rfl, rfl⟩
  · intro ns name ns' name' o o' ho ho' _
    obtain ⟨⟨rfl, rfl⟩, -⟩ := hobj ho
    obtain ⟨⟨rfl, rfl⟩, -⟩ := hobj ho'
    exact ⟨rfl, rfl⟩

/-- The weight is written over the failed check that was counted in between. -/
theorem updates_not_lost_race :
    ∃ (now next : Shared .replaced Bool (Except ControllerError Canary)) (time : Instant) (before after : Canary),
      Run raceStart raceLog now ∧
    raceStart.Updating (fun _ => podinfo) (fun _ => .default) racing ∧ raceStart.store.Versioned ∧
    now.store.Updated next.store "prod" "podinfo" (racing true) time before after ∧
    before.failedChecks = 1 ∧ before.canaryWeight = 0 ∧ after.failedChecks = 1 ∧ after.canaryWeight = 10 := by
  obtain ⟨now, next, hrun, hstored, hstep⟩ := race_run
  obtain ⟨-, time, before, after, -, h⟩ := (updates_not_lost hrun (fun _ => rfl) raceStart_versioned).1 true _ next
    hstep (.inl ⟨_, _, _, rfl⟩)
  have hbefore : before = counted := by
    have heq := h.stored.symm.trans hstored
    cases heq; rfl
  subst hbefore
  refine ⟨now, next, time, counted, after, hrun, fun _ => rfl, raceStart_versioned, h, rfl, rfl, ?_, ?_⟩
  · unfold Canary.failedChecks; rw [h.status]; rfl
  · unfold Canary.canaryWeight; rw [h.status]; rfl

end Shared

end Rollout
