/-
The attempts of an update, whatever the store answers. `Attempts` lists the ways they can go, one constructor for each
end of an attempt, and a run of an update is one of them (`trace_updateAttempts_iff`); so what holds of every run is
proved by induction on its attempts. Main statement: `Canary.updateStatus_bounded`, an update asks the store no more
than its attempts allow, writes at most once, and leaves nothing to do for the same delta.
-/
import Rollout.Proofs.Session
import Rollout.Proofs.Status.Update

namespace Rollout

open Program

/-! ## A delta that has been applied -/

namespace StatusDelta

variable {d : StatusDelta} {s : CanaryStatus} {now : Instant}

/-- At no later time a delta changes what it has been applied to. -/
theorem apply_apply (d : StatusDelta) (s : CanaryStatus) (now later : Instant) :
    d.apply (d.apply s now) later = d.apply s now := by
  have hphase : (d.phase.orElse fun _ => d.phase.orElse fun _ => s.phase) = d.phase.orElse fun _ => s.phase := by
    cases d.phase <;> rfl
  have hlast : (d.lastAppliedSpec.orElse fun _ => d.lastAppliedSpec.orElse fun _ => s.lastAppliedSpec) =
      d.lastAppliedSpec.orElse fun _ => s.lastAppliedSpec := by
    cases d.lastAppliedSpec <;> rfl
  have htime : d.transitionTime (d.apply s now) later = d.transitionTime s now := by
    unfold transitionTime
    cases hp : d.phase with
    | none => simp [apply, transitionTime, hp]
    | some phase => simp [apply, transitionTime, hp]
  unfold apply at htime ⊢
  simp only [CanaryStatus.mk.injEq]
  refine ⟨hphase, ?_, ?_, ?_, ?_, hlast, ?_, htime⟩
  · cases d.canaryWeight <;> rfl
  · cases d.failedChecks <;> rfl
  · cases d.iterations <;> rfl
  · cases d.trackedConfigs <;> rfl
  · rw [hlast]
    split_ifs
    · cases d.lastAppliedSpec.orElse fun _ => s.lastAppliedSpec <;> rfl
    · rfl

/-- Of what a delta leaves as it is at one time nothing is left to do at any other. -/
theorem apply_of_eq (h : d.apply s now = s) (later : Instant) : d.apply s later = s := by
  conv_lhs => rw [← h]
  rw [apply_apply, h]

end StatusDelta

/-! ## Reads and writes -/

namespace Exchange

/-- What a read of a canary is answered. -/
def read? : Exchange Cluster.interface → Option (Except StoreError Canary)
  | ⟨.canary _ _, reply⟩ => some reply
  | _ => none

/-- What a write of a status is answered. -/
def write? : Exchange Cluster.interface → Option (Except StoreError Canary)
  | ⟨.writeStatus _ _, reply⟩ => some reply
  | _ => none

/-- What the store answers. -/
def store? (e : Exchange Cluster.interface) : Option (Except StoreError Canary) := e.read?.or e.write?

/-- The status that a write has put into the store. -/
def put? : Exchange Cluster.interface → Option CanaryStatus
  | ⟨.writeStatus _ status, .ok _⟩ => some status
  | _ => none

end Exchange

/-- The status of a canary in the store after requests of one client: the last that was written, or else the one of
the canary that was read. -/
def heldStatus (log : List (Exchange Cluster.interface)) (stored : Canary) : CanaryStatus :=
  ((log.filterMap Exchange.put?).getLast?).getD (stored.status.getD {})

/-! ## Attempts -/

section Attempts

variable (settings : Settings) (ns name : String) (delta : StatusDelta) (attempts : Nat)

/-- The time to wait before the attempts that are left. -/
def pauseFor (left : Nat) : List (Exchange Cluster.interface) :=
  if 0 < left then [⟨.pause settings.statusPause, ()⟩] else []

/-- The canary and the clock as an attempt has read them. -/
def attemptRead (fresh : Canary) (now : Instant) : List (Exchange Cluster.interface) :=
  [⟨.canary ns name, .ok fresh⟩, ⟨.now, now⟩]

/-- The write of the delta over what has been read, with its answer. -/
def attemptWrite (fresh : Canary) (now : Instant) (answer : Except StoreError Canary) : Exchange Cluster.interface :=
  ⟨.writeStatus fresh (delta.apply (fresh.status.getD {}) now), answer⟩

/-- How so many attempts can go, and end. -/
inductive Attempts : Nat → List (Exchange Cluster.interface) → Except ControllerError Canary → Prop
  | exhausted : Attempts 0 [] (.error (.statusConflict name ns attempts))
  | unread (left : Nat) (e : StoreError) : Attempts (left + 1) [⟨.canary ns name, .error e⟩] (.error (.store e))
  | unchanged (left : Nat) (fresh : Canary) (now : Instant) :
      delta.apply (fresh.status.getD {}) now = fresh.status.getD {} →
      Attempts (left + 1) (attemptRead ns name fresh now) (.ok fresh)
  | written (left : Nat) (fresh : Canary) (now : Instant) (stored : Canary) :
      delta.apply (fresh.status.getD {}) now ≠ fresh.status.getD {} →
      Attempts (left + 1) (attemptRead ns name fresh now ++ [attemptWrite delta fresh now (.ok stored)]) (.ok stored)
  | refused (left : Nat) (fresh : Canary) (now : Instant) (e : StoreError) :
      delta.apply (fresh.status.getD {}) now ≠ fresh.status.getD {} → (∀ text, e ≠ .conflict text) →
      Attempts (left + 1) (attemptRead ns name fresh now ++ [attemptWrite delta fresh now (.error e)])
        (.error (.store e))
  | conflicted (left : Nat) (fresh : Canary) (now : Instant) (text : String)
      (log : List (Exchange Cluster.interface)) (r : Except ControllerError Canary) :
      delta.apply (fresh.status.getD {}) now ≠ fresh.status.getD {} → Attempts left log r →
      Attempts (left + 1) (attemptRead ns name fresh now ++ attemptWrite delta fresh now (.error (.conflict text)) ::
        (pauseFor settings left ++ log)) r

variable {settings ns name delta attempts} {left : Nat} {log : List (Exchange Cluster.interface)}
  {r : Except ControllerError Canary}

theorem trace_updateRetry_iff : Trace (updateRetry settings ns name delta attempts left) log r ↔
    ∃ rest, log = pauseFor settings left ++ rest ∧
      Trace (updateAttempts settings ns name delta attempts left).run rest r := by
  unfold updateRetry pauseFor
  split_ifs with hleft
  · rw [trace_ask_iff]
    exact ⟨fun ⟨_, rest, hlog, h⟩ => ⟨rest, hlog, h⟩, fun ⟨rest, hlog, h⟩ => ⟨(), rest, hlog, h⟩⟩
  · exact ⟨fun h => ⟨log, rfl, h⟩, fun ⟨rest, hlog, h⟩ => by rw [hlog]; exact h⟩

theorem after_attemptRead {fresh : Canary} {now : Instant} :
    After (updateAttempts settings ns name delta attempts (left + 1)).run (attemptRead ns name fresh now)
      (updateRead settings ns name delta attempts left fresh now) := by
  rw [updateAttempts_succ]
  exact after_ask_iff.2 (.inr ⟨.ok fresh, _, rfl, after_ask_iff.2 (.inr ⟨now, _, rfl, .nil _⟩)⟩)

/-- Where the delta changes what has been read, a write is next. -/
theorem trace_updateRead_iff {fresh : Canary} {now : Instant}
    (h : delta.apply (fresh.status.getD {}) now ≠ fresh.status.getD {}) :
    Trace (updateRead settings ns name delta attempts left fresh now) log r ↔
      ∃ answer rest, log = attemptWrite delta fresh now answer :: rest ∧
        Trace (updateAnswered settings ns name delta attempts left answer) rest r := by
  unfold updateRead
  rw [if_neg h]
  exact trace_ask_iff

/-- The runs of an update are its attempts. -/
theorem trace_updateAttempts_iff :
    Trace (updateAttempts settings ns name delta attempts left).run log r ↔
      Attempts settings ns name delta attempts left log r := by
  constructor
  · intro h
    induction left generalizing log with
    | zero =>
      rw [updateAttempts_zero, trace_done_iff] at h
      obtain ⟨rfl, rfl⟩ := h
      exact .exhausted
    | succ left ih =>
      rw [updateAttempts_succ] at h
      obtain ⟨found, rest, rfl, hread⟩ := trace_ask_iff.1 h
      cases found with
      | error e =>
        obtain ⟨rfl, rfl⟩ := trace_done_iff.1 hread
        exact .unread left e
      | ok fresh =>
        obtain ⟨now, rest, rfl, hclock⟩ := trace_ask_iff.1 hread
        by_cases hchange : delta.apply (fresh.status.getD {}) now = fresh.status.getD {}
        · unfold updateRead at hclock
          rw [if_pos hchange] at hclock
          obtain ⟨rfl, rfl⟩ := trace_done_iff.1 hclock
          exact .unchanged left fresh now hchange
        · obtain ⟨answer, rest, rfl, hwrite⟩ := (trace_updateRead_iff hchange).1 hclock
          rcases answer with (_ | text | _ | _) | stored
          case error.conflict =>
            obtain ⟨rest, rfl, hretry⟩ := trace_updateRetry_iff.1 hwrite
            exact .conflicted left fresh now text rest r hchange (ih hretry)
          case ok =>
            obtain ⟨rfl, rfl⟩ := trace_done_iff.1 hwrite
            exact .written left fresh now stored hchange
          all_goals
            obtain ⟨rfl, rfl⟩ := trace_done_iff.1 hwrite
            exact .refused left fresh now _ hchange (by simp)
  · intro h
    induction h with
    | exhausted => exact .nil _
    | unread left e =>
      rw [updateAttempts_succ]
      exact trace_ask_iff.2 ⟨.error e, [], rfl, .nil _⟩
    | unchanged left fresh now hsame =>
      rw [← List.append_nil (attemptRead ..)]
      refine after_attemptRead.trans ?_
      unfold updateRead
      rw [if_pos hsame]
      exact .nil _
    | written left fresh now stored hchange =>
      exact after_attemptRead.trans (trace_updateRead_iff hchange |>.2 ⟨.ok stored, [], rfl, .nil _⟩)
    | refused left fresh now e hchange he =>
      refine after_attemptRead.trans (trace_updateRead_iff hchange |>.2 ⟨.error e, [], rfl, ?_⟩)
      cases e with
      | conflict text => exact absurd rfl (he text)
      | notFound | api | malformed => exact .nil _
    | conflicted left fresh now text log r hchange _ ih =>
      exact after_attemptRead.trans (trace_updateRead_iff hchange |>.2
        ⟨.error (.conflict text), _, rfl, trace_updateRetry_iff.2 ⟨log, rfl, ih⟩⟩)

/-! ### What attempts ask and are answered -/

section Views

variable {fresh : Canary} {now : Instant} {answer : Except StoreError Canary}

@[simp] theorem read?_attemptWrite : (attemptWrite delta fresh now answer).read? = none := rfl

@[simp] theorem write?_attemptWrite : (attemptWrite delta fresh now answer).write? = some answer := rfl

@[simp] theorem store?_attemptWrite : (attemptWrite delta fresh now answer).store? = some answer := rfl

@[simp] theorem put?_attemptWrite_ok {stored : Canary} : (attemptWrite delta fresh now (.ok stored)).put? =
    some (delta.apply (fresh.status.getD {}) now) := rfl

@[simp] theorem put?_attemptWrite_error {e : StoreError} : (attemptWrite delta fresh now (.error e)).put? = none := rfl

@[simp] theorem read?_attemptRead : (attemptRead ns name fresh now).filterMap Exchange.read? = [.ok fresh] := rfl

@[simp] theorem write?_attemptRead : (attemptRead ns name fresh now).filterMap Exchange.write? = [] := rfl

@[simp] theorem store?_attemptRead : (attemptRead ns name fresh now).filterMap Exchange.store? = [.ok fresh] := rfl

@[simp] theorem put?_attemptRead : (attemptRead ns name fresh now).filterMap Exchange.put? = [] := rfl

@[simp] theorem read?_pauseFor : (pauseFor settings left).filterMap Exchange.read? = [] := by
  unfold pauseFor; split <;> rfl

@[simp] theorem write?_pauseFor : (pauseFor settings left).filterMap Exchange.write? = [] := by
  unfold pauseFor; split <;> rfl

@[simp] theorem store?_pauseFor : (pauseFor settings left).filterMap Exchange.store? = [] := by
  unfold pauseFor; split <;> rfl

@[simp] theorem put?_pauseFor : (pauseFor settings left).filterMap Exchange.put? = [] := by
  unfold pauseFor; split <;> rfl

end Views

namespace Attempts

/-- An attempt reads at most once. -/
theorem reads_le (h : Attempts settings ns name delta attempts left log r) :
    (log.filterMap Exchange.read?).length ≤ left := by
  induction h with
  | exhausted => exact Nat.le_refl 0
  | unread left | unchanged left | written left | refused left => exact Nat.succ_le_succ (Nat.zero_le left)
  | conflicted left fresh now text log r _ _ ih => simpa [List.filterMap_cons] using ih

/-- The first of them begins with a read. -/
theorem reads_pos (h : Attempts settings ns name delta attempts left log r) (hleft : 0 < left) :
    0 < (log.filterMap Exchange.read?).length := by
  cases h with
  | exhausted => exact absurd hleft (Nat.lt_irrefl 0)
  | unread left e => exact Nat.zero_lt_one
  | unchanged | written | refused | conflicted => simp

/-- And it writes at most once. -/
theorem writes_le (h : Attempts settings ns name delta attempts left log r) :
    (log.filterMap Exchange.write?).length ≤ left := by
  induction h with
  | exhausted => exact Nat.le_refl 0
  | unread left | unchanged left => exact Nat.zero_le _
  | written left | refused left => exact Nat.succ_le_succ (Nat.zero_le left)
  | conflicted left fresh now text log r _ _ ih => simpa using ih

/-- The attempts are used up exactly where each of them has written and met a conflict. -/
theorem exhausted_iff (h : Attempts settings ns name delta attempts left log r) :
    r = .error (.statusConflict name ns attempts) ↔
      (log.filterMap Exchange.write?).length = left ∧
        ∀ answer ∈ log.filterMap Exchange.write?, ∃ text, answer = .error (.conflict text) := by
  induction h with
  | exhausted => simp
  | unread left e => simp [List.filterMap_cons, Exchange.write?]
  | unchanged left fresh now => simp
  | written left fresh now stored => simp
  | refused left fresh now e _ he => simp [he]
  | conflicted left fresh now text log r _ _ ih => simpa using ih

/-- An update that fails has written nothing, and gives the last answer of the store where attempts are left. -/
theorem failed (h : Attempts settings ns name delta attempts left log r) {e : ControllerError} (hr : r = .error e) :
    (∀ stored, .ok stored ∉ log.filterMap Exchange.write?) ∧
      (e = .statusConflict name ns attempts ∨
        ∃ reason, e = .store reason ∧ (log.filterMap Exchange.store?).getLast? = some (.error reason)) := by
  induction h with
  | exhausted => cases hr; simp
  | unread left reason => cases hr; simp [Exchange.write?, Exchange.store?, Exchange.read?]
  | unchanged => cases hr
  | written => cases hr
  | refused left fresh now reason => cases hr; simp
  | conflicted left fresh now text log r _ _ ih =>
    obtain ⟨hwrites, hlast⟩ := ih hr
    refine ⟨by simpa using hwrites, hlast.imp_right ?_⟩
    rintro ⟨reason, rfl, hreason⟩
    exact ⟨reason, rfl, by simp [List.getLast?_cons, hreason]⟩

/-- An update that ends well has written at most once, and gives the last answer of the store. -/
theorem succeeded (h : Attempts settings ns name delta attempts left log r) {stored : Canary} (hr : r = .ok stored) :
    (log.filterMap Exchange.write?).countP (·.isOk) ≤ 1 ∧
      (log.filterMap Exchange.store?).getLast? = some (.ok stored) := by
  induction h with
  | exhausted | unread | refused => cases hr
  | unchanged left fresh now => cases hr; simp
  | written left fresh now => cases hr; simp [Except.isOk, Except.toBool]
  | conflicted left fresh now text log r _ _ ih =>
    obtain ⟨hwrites, hlast⟩ := ih hr
    exact ⟨by simpa [Except.isOk, Except.toBool] using hwrites, by simp [List.getLast?_cons, hlast]⟩

/-- What is then held is of no more interest to the delta. -/
theorem settled (h : Attempts settings ns name delta attempts left log r) {stored : Canary} (hr : r = .ok stored)
    (now : Instant) : delta.apply (heldStatus log stored) now = heldStatus log stored := by
  unfold heldStatus
  induction h with
  | exhausted | unread | refused => cases hr
  | unchanged left fresh time hsame => cases hr; exact StatusDelta.apply_of_eq hsame now
  | written left fresh time => cases hr; exact delta.apply_apply _ time now
  | conflicted left fresh time text log r _ _ ih =>
    simpa only [List.filterMap_append, List.filterMap_cons, put?_attemptRead, put?_attemptWrite_error, put?_pauseFor,
      List.nil_append] using ih hr

/-- Where the delta changes nothing of what is read, nothing is written. -/
theorem unwritten (h : Attempts settings ns name delta attempts left log r)
    (hread : ∀ fresh, .ok fresh ∈ log.filterMap Exchange.read? →
      ∀ now, delta.apply (fresh.status.getD {}) now = fresh.status.getD {}) : log.filterMap Exchange.write? = [] := by
  cases h with
  | exhausted | unread | unchanged => rfl
  | written left fresh now stored hchange => exact absurd (hread fresh (by simp) now) hchange
  | refused left fresh now e hchange => exact absurd (hread fresh (by simp) now) hchange
  | conflicted left fresh now text log r hchange => exact absurd (hread fresh (by simp) now) hchange

end Attempts

end Attempts

/-! ## Whole updates -/

/-- In the middle of its log a program makes the request that the log names. -/
theorem Program.Trace.exists_ask {I : Interface} {α : Type} {p : Program I α} {before after : List (Exchange I)}
    {request : I.Request} {reply : I.Reply request} {a : α} (h : Trace p (before ++ ⟨request, reply⟩ :: after) a) :
    ∃ next, After p before (ask request next) ∧ Trace (next reply) after a := by
  obtain ⟨_, hbefore, hafter⟩ := after_append_iff.1 h
  cases hafter with
  | cons _ hrest => exact ⟨_, hbefore, hrest⟩

section Update

variable {c : Canary} {settings : Settings} {delta : StatusDelta} {log before after : List (Exchange Cluster.interface)}
  {r : Except ControllerError Canary} {reason : StoreError}

/-- An update ends with a read that fails. -/
theorem Trace.updateStatus_unread {ns name : String}
    (h : Trace (c.updateStatus settings delta).run (before ++ ⟨.canary ns name, .error reason⟩ :: after) r) :
    after = [] ∧ r = .error (.store reason) := by
  obtain ⟨next, hask, hrest⟩ := h.exists_ask
  have hs := (UpdateStage.attempt _ []).after hask
  generalize hp : (Program.ask (.canary ns name) next :
    Program Cluster.interface (Except ControllerError Canary)) = p at hs
  cases hs with
  | attempt left =>
    cases left with
    | zero => rw [updateAttempts_zero] at hp; cases hp
    | succ left =>
      rw [updateAttempts_succ] at hp
      cases hp
      exact trace_done_iff.1 hrest
  | retry left =>
    cases left with
    | zero => rw [updateRetry_zero] at hp; cases hp
    | succ left => rw [updateRetry_succ] at hp; cases hp
  | read | write | unchanged | written | failed => cases hp

/-- And with a write that is refused, unless for a conflict. -/
theorem Trace.updateStatus_refused {fresh : Canary} {status : CanaryStatus} (hreason : ∀ text, reason ≠ .conflict text)
    (h : Trace (c.updateStatus settings delta).run (before ++ ⟨.writeStatus fresh status, .error reason⟩ :: after) r) :
    after = [] ∧ r = .error (.store reason) := by
  obtain ⟨next, hask, hrest⟩ := h.exists_ask
  have hs := (UpdateStage.attempt _ []).after hask
  generalize hp : (Program.ask (.writeStatus fresh status) next :
    Program Cluster.interface (Except ControllerError Canary)) = p at hs
  cases hs with
  | attempt left => exact absurd hp ((updateAttempts_ne settings c.ns c.name delta _ left).1 _ _ _)
  | retry left => exact absurd hp ((updateRetry_ne settings c.ns c.name delta _ left).1 _ _ _)
  | write left log fresh now =>
    cases hp
    cases reason with
    | conflict text => exact absurd rfl (hreason text)
    | notFound | api | malformed => exact trace_done_iff.1 hrest
  | read | unchanged | written | failed => cases hp

/-- What can be said of an update that has been answered as the log says and has ended so. -/
structure Canary.UpdateBounded (c : Canary) (settings : Settings) (delta : StatusDelta)
    (log : List (Exchange Cluster.interface)) (r : Except ControllerError Canary) : Prop where
  reads_le : (log.filterMap Exchange.read?).length ≤ max settings.statusAttempts 1
  writes_le : (log.filterMap Exchange.write?).length ≤ max settings.statusAttempts 1
  /-- A write follows the read that it is made over, with a look at the clock in between. -/
  read_first : ∀ before fresh status answer after, log = before ++ ⟨.writeStatus fresh status, answer⟩ :: after →
    ∃ earlier now, before = earlier ++ [⟨.canary c.ns c.name, .ok fresh⟩, ⟨.now, now⟩] ∧
      status = delta.apply (fresh.status.getD {}) now
  exhausted_iff : r = .error (.statusConflict c.name c.ns (max settings.statusAttempts 1)) ↔
    (log.filterMap Exchange.write?).length = max settings.statusAttempts 1 ∧
      ∀ answer ∈ log.filterMap Exchange.write?, ∃ text, answer = .error (.conflict text)
  /-- Any failure of the store but a conflict of a write is the end. -/
  at_once : ∀ before e after reason, log = before ++ e :: after → e.store? = some (.error reason) →
    (e.read?.isSome ∨ ∀ text, reason ≠ .conflict text) → after = [] ∧ r = .error (.store reason)
  /-- An update that fails has written nothing, and its caller has the canary that it had. -/
  failed : ∀ e, r = .error e → (c.left r).2 = c ∧ (∀ stored, .ok stored ∉ log.filterMap Exchange.write?) ∧
    (e = .statusConflict c.name c.ns (max settings.statusAttempts 1) ∨
      ∃ reason, e = .store reason ∧ (log.filterMap Exchange.store?).getLast? = some (.error reason))
  /-- One that ends well has written at most once, and its caller has what the store answered last. -/
  succeeded : ∀ stored, r = .ok stored → (c.left r).2 = stored ∧
    (log.filterMap Exchange.write?).countP (·.isOk) ≤ 1 ∧
    (log.filterMap Exchange.store?).getLast? = some (.ok stored)
  /-- The delta has nothing left to do, at whatever time, of the status that is then held. -/
  settled : ∀ stored, r = .ok stored → ∀ now, delta.apply (heldStatus log stored) now = heldStatus log stored
  /-- Whoever runs it again writes nothing, as long as the store holds that status. -/
  again : ∀ stored, r = .ok stored → ∀ (c' : Canary) settings' log' r',
    Trace (c'.updateStatus settings' delta).run log' r' →
    (∀ fresh, .ok fresh ∈ log'.filterMap Exchange.read? → fresh.status.getD {} = heldStatus log stored) →
    log'.filterMap Exchange.write? = []

/-- However the store answers, an update is bounded by its attempts and all or nothing; and what a session's update
asks is answered so, and leaves the session with the caller's canary. -/
theorem Canary.updateStatus_bounded (c : Canary) (settings : Settings) (delta : StatusDelta) :
    (∀ log r, Trace (c.updateStatus settings delta).run log r → c.UpdateBounded settings delta log r) ∧
    ∀ s : Session, s.canary = c → ∃ log r, Trace (c.updateStatus settings delta).run log r ∧
      (Session.refresh (c.updateStatus settings delta) s).1 = (c.left r).1 ∧
      (Session.refresh (c.updateStatus settings delta) s).2.canary = (c.left r).2 := by
  constructor
  · intro log r h
    have hattempts := trace_updateAttempts_iff.1 h
    exact {
      reads_le := hattempts.reads_le
      writes_le := hattempts.writes_le
      read_first := by
        rintro before fresh status answer after rfl
        obtain ⟨next, hask, -⟩ := h.exists_ask
        exact After.updateStatus_write hask
      exhausted_iff := hattempts.exhausted_iff
      at_once := by
        rintro before ⟨request, reply⟩ after reason rfl hreply hreason
        cases request with
        | canary ns name =>
          obtain rfl : reply = .error reason := Option.some.inj hreply
          exact Trace.updateStatus_unread h
        | writeStatus fresh status =>
          obtain rfl : reply = .error reason := Option.some.inj hreply
          exact Trace.updateStatus_refused (hreason.resolve_left (by simp [Exchange.read?])) h
        | _ => cases hreply
      failed := fun e hr => ⟨by rw [hr]; rfl, hattempts.failed hr⟩
      succeeded := fun stored hr => ⟨by rw [hr]; rfl, hattempts.succeeded hr⟩
      settled := fun stored hr => hattempts.settled hr
      again := fun stored hr c' settings' log' r' h' hheld =>
        (trace_updateAttempts_iff.1 h').unwritten fun fresh hfresh now => by
          rw [hheld fresh hfresh]
          exact hattempts.settled hr now }
  · rintro s rfl
    rcases hrun : ((s.canary.updateStatus settings delta).run.run s.backend.answer).run s.world with ⟨r, w⟩
    obtain ⟨log, htrace⟩ := Ends.exists_trace hrun
    exact ⟨log, r, htrace, by rw [Session.refresh_eq hrun], by rw [Session.refresh_eq hrun]⟩

end Update

/-! ### An update that is tried twice -/

/-- A canary as it is stored at a version, with so many failed checks and a weight. -/
def storedAt (version : String) (failedChecks canaryWeight : Int32) : Canary :=
  { metadata := { name := some "podinfo", ns := some "prod", resourceVersion := some version }
    spec := { targetRef := ⟨"apps/v1", "Deployment", "podinfo", none⟩ }
    status := some { failedChecks, canaryWeight } }

/-- The first write meets a conflict, for a failed check has been counted; the second is made over what is then read. -/
def retriedLog : List (Exchange Cluster.interface) :=
  [⟨.canary "prod" "podinfo", .ok (storedAt "1" 0 0)⟩, ⟨.now, default⟩,
    ⟨.writeStatus (storedAt "1" 0 0) { canaryWeight := 10 }, .error (.conflict "version 2")⟩,
    ⟨.pause Settings.default.statusPause, ()⟩,
    ⟨.canary "prod" "podinfo", .ok (storedAt "2" 1 0)⟩, ⟨.now, default⟩,
    ⟨.writeStatus (storedAt "2" 1 0) { failedChecks := 1, canaryWeight := 10 }, .ok (storedAt "3" 1 10)⟩]

theorem retriedLog_trace : Trace ((storedAt "1" 0 0).updateStatus .default { canaryWeight := some 10 }).run retriedLog
    (.ok (storedAt "3" 1 10)) :=
  trace_updateAttempts_iff.2 (.conflicted 4 _ _ _ _ _ (by decide) (.written 3 _ _ _ (by decide)))

/-- The update has both the check and the weight, and once more there is nothing to write. -/
theorem Canary.updateStatus_bounded_retried :
    (retriedLog.filterMap Exchange.write?).length = 2 ∧
    (retriedLog.filterMap Exchange.store?).getLast? = some (.ok (storedAt "3" 1 10)) ∧
    ∀ (log : List (Exchange Cluster.interface)) r,
      log.filterMap Exchange.read? = [.ok (storedAt "3" 1 10)] →
      Trace ((storedAt "3" 1 10).updateStatus .default { canaryWeight := some 10 }).run log r →
      log.filterMap Exchange.write? = [] := by
  have hbounded := ((storedAt "1" 0 0).updateStatus_bounded .default { canaryWeight := some 10 }).1 _ _ retriedLog_trace
  refine ⟨rfl, (hbounded.succeeded _ rfl).2.2, fun log r hread htrace => ?_⟩
  refine hbounded.again _ rfl _ _ _ _ htrace fun fresh hfresh => ?_
  rw [hread, List.mem_singleton] at hfresh
  cases hfresh
  rfl

end Rollout
