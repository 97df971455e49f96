/-
One update of a status, whatever it is answered. Main statements: an update that asks to write has
just read the canary, then the clock, and writes the delta over what it read
(`After.updateStatus_write`); one that ends well has found its delta to change nothing, or ends
with the answer to a write (`Trace.updateStatus_ok`). `StatusDelta.Keeps` says what a delta leaves
as it is.
-/
import Rollout.Proofs.Program
import Rollout.Status.Update

namespace Rollout

open Program

/-! ## What a delta keeps -/

/-- From one status to the next, what a delta does not name is as it was: each field of its own,
the time of the last transition unless the phase changed, and the promoted spec unless a stable
phase was reached. -/
structure StatusDelta.Keeps (d : StatusDelta) (before after : CanaryStatus) : Prop where
  phase : d.phase = none → after.phase = before.phase
  canaryWeight : d.canaryWeight = none → after.canaryWeight = before.canaryWeight
  failedChecks : d.failedChecks = none → after.failedChecks = before.failedChecks
  iterations : d.iterations = none → after.iterations = before.iterations
  trackedConfigs : d.trackedConfigs = none → after.trackedConfigs = before.trackedConfigs
  lastAppliedSpec : d.lastAppliedSpec = none → after.lastAppliedSpec = before.lastAppliedSpec
  lastPromotedSpec : d.reachesStablePhase = false → after.lastPromotedSpec = before.lastPromotedSpec
  lastTransitionTime : after.phase = before.phase → after.lastTransitionTime = before.lastTransitionTime

theorem StatusDelta.keeps_apply (d : StatusDelta) (s : CanaryStatus) (now : Instant) :
    d.Keeps s (d.apply s now) where
  phase h := by simp [apply, h]
  canaryWeight h := by simp [apply, h]
  failedChecks h := by simp [apply, h]
  iterations h := by simp [apply, h]
  trackedConfigs h := by simp [apply, h]
  lastAppliedSpec h := by simp [apply, h]
  lastPromotedSpec h := by simp [apply, h]
  lastTransitionTime h := by
    cases hp : d.phase with
    | none => simp [apply, transitionTime, hp]
    | some phase =>
      have hs : s.phase = some phase := by simpa [apply, hp] using h.symm
      simp [apply, transitionTime, hp, hs]

/-! ## The attempts -/

section Attempts

variable (settings : Settings) (ns name : String) (delta : StatusDelta) (attempts : Nat)

/-- After a conflict: the pause, unless this was the last attempt, and the attempts that are left. -/
def updateRetry (left : Nat) : Program Cluster.interface (Except ControllerError Canary) :=
  if 0 < left then .ask (.pause settings.statusPause) fun _ => (updateAttempts settings ns name delta attempts left).run
  else (updateAttempts settings ns name delta attempts left).run

/-- After the answer to a write. -/
def updateAnswered (left : Nat) :
    Except StoreError Canary → Program Cluster.interface (Except ControllerError Canary)
  | .ok written => .done (.ok written)
  | .error (.conflict _) => updateRetry settings ns name delta attempts left
  | .error e => .done (.error (.store e))

/-- After the canary and the clock have been read. -/
def updateRead (left : Nat) (fresh : Canary) (now : Instant) :
    Program Cluster.interface (Except ControllerError Canary) :=
  if delta.apply (fresh.status.getD {}) now = fresh.status.getD {} then .done (.ok fresh)
  else .ask (.writeStatus fresh (delta.apply (fresh.status.getD {}) now))
    (updateAnswered settings ns name delta attempts left)

theorem updateAttempts_zero :
    (updateAttempts settings ns name delta attempts 0).run = .done (.error (.statusConflict name ns attempts)) :=
  rfl

/-- One attempt, request by request. -/
theorem updateAttempts_succ (left : Nat) :
    (updateAttempts settings ns name delta attempts (left + 1)).run =
      .ask (.canary ns name) fun
        | .error e => .done (.error (.store e))
        | .ok fresh => .ask .now (updateRead settings ns name delta attempts left fresh) := by
  show Program.ask _ _ = _
  congr 1
  funext reply
  cases reply with
  | error e => rfl
  | ok fresh =>
    show Program.ask _ _ = _
    congr 1
    funext now
    unfold updateRead
    show (ite _ _ _ : Task Canary).run = _
    by_cases h : delta.apply (fresh.status.getD {}) now = fresh.status.getD {}
    · rw [if_pos h, if_pos h]; rfl
    · rw [if_neg h, if_neg h]
      show Program.ask _ _ = _
      congr 1
      funext reply
      -- of the errors of a store only a conflict leads to another attempt
      rcases reply with (_ | _ | _ | _) | written
      · rfl
      · show (ite _ _ _ : Task Canary).run = updateRetry settings ns name delta attempts left
        unfold updateRetry
        split <;> rfl
      · rfl
      · rfl
      · rfl

theorem updateRetry_zero :
    updateRetry settings ns name delta attempts 0 = .done (.error (.statusConflict name ns attempts)) := rfl

theorem updateRetry_succ (left : Nat) :
    updateRetry settings ns name delta attempts (left + 1) = .ask (.pause settings.statusPause) fun _ =>
      (updateAttempts settings ns name delta attempts (left + 1)).run := if_pos (Nat.succ_pos left)

/-- Before an attempt, an update neither asks to write nor has ended well. -/
theorem updateAttempts_ne (left : Nat) :
    (∀ fresh status next,
      .ask (.writeStatus fresh status) next ≠ (updateAttempts settings ns name delta attempts left).run) ∧
    ∀ c, .done (.ok c) ≠ (updateAttempts settings ns name delta attempts left).run := by
  cases left with
  | zero =>
    rw [updateAttempts_zero]
    constructor
    · intro fresh status next h; cases h
    · intro c h; cases h
  | succ left =>
    rw [updateAttempts_succ]
    constructor
    · intro fresh status next h; cases h
    · intro c h; cases h

/-- Nor after a conflict. -/
theorem updateRetry_ne (left : Nat) :
    (∀ fresh status next,
      .ask (.writeStatus fresh status) next ≠ updateRetry settings ns name delta attempts left) ∧
    ∀ c, .done (.ok c) ≠ updateRetry settings ns name delta attempts left := by
  cases left with
  | zero => exact updateAttempts_ne settings ns name delta attempts 0
  | succ left =>
    rw [updateRetry_succ]
    constructor
    · intro fresh status next h; cases h
    · intro c h; cases h

/-- Where an update can stand: the program that is left of it, and what it has been answered. -/
inductive UpdateStage :
    Program Cluster.interface (Except ControllerError Canary) → List (Exchange Cluster.interface) → Prop
  | attempt (left : Nat) (log : List (Exchange Cluster.interface)) :
      UpdateStage (updateAttempts settings ns name delta attempts left).run log
  | read (left : Nat) (log : List (Exchange Cluster.interface)) (fresh : Canary) :
      UpdateStage (.ask .now (updateRead settings ns name delta attempts left fresh))
        (log ++ [⟨.canary ns name, .ok fresh⟩])
  /-- The delta changes what was read. -/
  | write (left : Nat) (log : List (Exchange Cluster.interface)) (fresh : Canary) (now : Instant) :
      UpdateStage (.ask (.writeStatus fresh (delta.apply (fresh.status.getD {}) now))
          (updateAnswered settings ns name delta attempts left))
        (log ++ [⟨.canary ns name, .ok fresh⟩, ⟨.now, now⟩])
  /-- The delta changes nothing of what was read. -/
  | unchanged (log : List (Exchange Cluster.interface)) (fresh : Canary) (now : Instant) :
      delta.apply (fresh.status.getD {}) now = fresh.status.getD {} →
      UpdateStage (.done (.ok fresh)) (log ++ [⟨.canary ns name, .ok fresh⟩, ⟨.now, now⟩])
  | written (log : List (Exchange Cluster.interface)) (fresh : Canary) (status : CanaryStatus) (c : Canary) :
      UpdateStage (.done (.ok c)) (log ++ [⟨.writeStatus fresh status, .ok c⟩])
  | retry (left : Nat) (log : List (Exchange Cluster.interface)) :
      UpdateStage (updateRetry settings ns name delta attempts left) log
  | failed (e : ControllerError) (log : List (Exchange Cluster.interface)) : UpdateStage (.done (.error e)) log

variable {settings ns name delta attempts}

/-- One more answer leads from stage to stage. -/
theorem UpdateStage.answered {r : Cluster.Request}
    {next : Cluster.Reply r → Program Cluster.interface (Except ControllerError Canary)}
    {log : List (Exchange Cluster.interface)}
    (h : UpdateStage settings ns name delta attempts (.ask r next) log) (reply : Cluster.Reply r) :
    UpdateStage settings ns name delta attempts (next reply) (log ++ [⟨r, reply⟩]) := by
  -- the stage says which request this is
  generalize hp : (Program.ask r next : Program Cluster.interface (Except ControllerError Canary)) = p at h
  cases h with
  | attempt left =>
    cases left with
    | zero => rw [updateAttempts_zero] at hp; cases hp
    | succ left =>
      rw [updateAttempts_succ] at hp
      cases hp
      cases reply with
      | error e => exact .failed _ _
      | ok fresh => exact .read left log fresh
  | read left log fresh =>
    cases hp
    rw [List.append_assoc]
    unfold updateRead
    split
    · rename_i h; exact .unchanged log fresh reply h
    · exact .write left log fresh reply
  | write left log fresh now =>
    cases hp
    rcases reply with (_ | _ | _ | _) | written
    · exact .failed _ _
    · exact .retry left _
    · exact .failed _ _
    · exact .failed _ _
    · exact .written _ fresh _ written
  | unchanged | written | failed => cases hp
  | retry left =>
    cases left with
    | zero => rw [updateRetry_zero] at hp; cases hp
    | succ left => rw [updateRetry_succ] at hp; cases hp; exact .attempt (left + 1) _

/-- An update stands in one of the stages, whatever it has been answered. -/
theorem UpdateStage.after {p q : Program Cluster.interface (Except ControllerError Canary)}
    {seen log : List (Exchange Cluster.interface)}
    (h : UpdateStage settings ns name delta attempts p seen) (ha : After p log q) :
    UpdateStage settings ns name delta attempts q (seen ++ log) := by
  induction ha generalizing seen with
  | nil => rw [List.append_nil]; exact h
  | cons reply _ ih => rw [List.append_cons]; exact ih (h.answered reply)

end Attempts

/-! ## Requests -/

/-- A request of an update: to the store, for the time, or to wait. -/
def Cluster.Request.Updates : Cluster.Request → Prop
  | .canary _ _ => True
  | .writeStatus _ _ => True
  | .now => True
  | .pause _ => True
  | _ => False

theorem updateAttempts_updates (settings : Settings) (ns name : String) (delta : StatusDelta) (attempts : Nat) :
    ∀ left, (updateAttempts settings ns name delta attempts left).run.Asks Cluster.Request.Updates
  | 0 => trivial
  | left + 1 => by
    have hrest := updateAttempts_updates settings ns name delta attempts left
    rw [updateAttempts_succ]
    refine ⟨trivial, fun found => ?_⟩
    cases found with
    | error e => trivial
    | ok fresh =>
      refine ⟨trivial, fun now => ?_⟩
      unfold updateRead
      split
      · trivial
      · refine ⟨trivial, fun answer => ?_⟩
        rcases answer with (_ | _ | _ | _) | written
        · trivial
        · show (updateRetry ..).Asks _
          unfold updateRetry
          split
          · exact ⟨trivial, fun _ => hrest⟩
          · exact hrest
        · trivial
        · trivial
        · trivial

/-! ## Whole updates -/

section Update

variable {c : Canary} {settings : Settings} {delta : StatusDelta} {log : List (Exchange Cluster.interface)}

/-- When an update asks to write, it has just read the canary and then the clock, and what it
writes is the delta over the status that it read. -/
theorem After.updateStatus_write {fresh : Canary} {status : CanaryStatus}
    {next : Except StoreError Canary → Program Cluster.interface (Except ControllerError Canary)}
    (h : After (c.updateStatus settings delta).run log (.ask (.writeStatus fresh status) next)) :
    ∃ before now, log = before ++ [⟨.canary c.ns c.name, .ok fresh⟩, ⟨.now, now⟩] ∧
      status = delta.apply (fresh.status.getD {}) now := by
  have hs := (UpdateStage.attempt _ []).after h
  rw [List.nil_append] at hs
  generalize hp : (Program.ask (.writeStatus fresh status) next :
    Program Cluster.interface (Except ControllerError Canary)) = p at hs
  cases hs with
  | attempt left => exact absurd hp ((updateAttempts_ne settings c.ns c.name delta _ left).1 _ _ _)
  | write left log fresh now => cases hp; exact ⟨log, now, rfl, rfl⟩
  | retry left => exact absurd hp ((updateRetry_ne settings c.ns c.name delta _ left).1 _ _ _)
  | read | unchanged | written | failed => cases hp

/-- An update that ends well has found that its delta changes nothing of what it just read, or ends
with the canary that its write was answered with. -/
theorem Trace.updateStatus_ok {stored : Canary} (h : Trace (c.updateStatus settings delta).run log (.ok stored)) :
    (∃ before now, log = before ++ [⟨.canary c.ns c.name, .ok stored⟩, ⟨.now, now⟩] ∧
      delta.apply (stored.status.getD {}) now = stored.status.getD {}) ∨
    ∃ before fresh status, log = before ++ [⟨.writeStatus fresh status, .ok stored⟩] := by
  have hs := (UpdateStage.attempt _ []).after h
  rw [List.nil_append] at hs
  generalize hp : (Program.done (.ok stored) : Program Cluster.interface (Except ControllerError Canary)) = p at hs
  cases hs with
  | attempt left => exact absurd hp ((updateAttempts_ne settings c.ns c.name delta _ left).2 _)
  | unchanged log fresh now hc => cases hp; exact .inl ⟨log, now, rfl, hc⟩
  | written log fresh status => cases hp; exact .inr ⟨log, fresh, status, rfl⟩
  | retry left => exact absurd hp ((updateRetry_ne settings c.ns c.name delta _ left).2 _)
  | read | write | failed => cases hp

/-- An update that ends well has last read the canary and then the clock; with that it has found its delta to change
nothing, or has written. -/
theorem Trace.updateStatus_last {stored : Canary} (h : Trace (c.updateStatus settings delta).run log (.ok stored)) :
    ∃ before fresh now,
      (log = before ++ [⟨.canary c.ns c.name, .ok fresh⟩, ⟨.now, now⟩] ∧ stored = fresh ∧
        delta.apply (fresh.status.getD {}) now = fresh.status.getD {}) ∨
      log = before ++ [⟨.canary c.ns c.name, .ok fresh⟩, ⟨.now, now⟩,
        ⟨.writeStatus fresh (delta.apply (fresh.status.getD {}) now), .ok stored⟩] := by
  rcases Trace.updateStatus_ok h with ⟨before, now, hlog, hsame⟩ | ⟨before, fresh, status, rfl⟩
  · exact ⟨before, stored, now, .inl ⟨hlog, rfl, hsame⟩⟩
  · obtain ⟨q, hq, hwrite⟩ := after_append_iff.1 h
    cases hwrite with
    | cons _ _ =>
      obtain ⟨earlier, now, rfl, rfl⟩ := After.updateStatus_write hq
      exact ⟨earlier, fresh, now, .inr (by rw [List.append_assoc]; rfl)⟩

end Update

end Rollout
