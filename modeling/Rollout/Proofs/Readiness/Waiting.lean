/-
Verdicts at other deadlines and other times. Instants are ordered (`Instant.before_iff_lt`), and moving one on by more
seconds moves it no less far, out of leap seconds too (`Instant.moved_le_moved`). Deadline and time enter a verdict in
one comparison only (`Manifest.readiness_timing`). Main statement: `Manifest.readiness_waiting_iff`, whether a workload
is ready and why it is not does not depend on them, and waiting can only make the verdict fatal, if and only if there is
a verdict at both deadlines.
-/
import Rollout.Proofs.Readiness
import Mathlib.Data.Prod.Lex

namespace Rollout

/-! ## The order of instants -/

namespace Instant

/-- Instants are compared by their seconds, and within a second by their nanoseconds. -/
def key (t : Instant) : ℤ ×ₗ ℕ := toLex (t.seconds, t.nanos)

theorem key_injective : Function.Injective key := by
  intro a b h
  cases a
  cases b
  simpa [key] using h

instance : LinearOrder Instant := LinearOrder.lift' key key_injective

theorem le_iff {a b : Instant} : a ≤ b ↔ a.seconds < b.seconds ∨ a.seconds = b.seconds ∧ a.nanos ≤ b.nanos :=
  Prod.Lex.toLex_le_toLex

theorem lt_iff {a b : Instant} : a < b ↔ a.seconds < b.seconds ∨ a.seconds = b.seconds ∧ a.nanos < b.nanos :=
  Prod.Lex.toLex_lt_toLex

theorem before_iff_lt {a b : Instant} : a.before b = true ↔ a < b := by
  rw [lt_iff]
  simp [before]

/-- More seconds lead no less far. Within a leap second the steps of -1, 0 and 1 seconds lead to the second of its
start, into it and to the second behind it. -/
theorem moved_le_moved (t : Instant) {d d' : Int} (h : d ≤ d') : t.moved d ≤ t.moved d' := by
  rw [le_iff]
  simp only [moved, Bool.or_eq_true, decide_eq_true_eq]
  split_ifs <;> dsimp only <;> omega

end Instant

/-! ## The comparison in a verdict -/

/-- Why a workload is not ready; none if it is. -/
def Verdict.reason? : Verdict → Option UnreadyReason
  | .ready => none
  | .notReady _ reason => some reason

namespace Manifest

/-- The verdict on a workload that is not ready for a reason, and beyond hope once the deadline from `since` on is
over. -/
def overdue (since : Instant) (reason : UnreadyReason) (deadline : Int32) (now : Instant) : Except Crash Verdict :=
  match since.plus? deadline.toInt with
  | none => .error .calendar
  | some due => .ok (.notReady (!due.before now) reason)

variable {since due : Instant} {reason : UnreadyReason} {deadline d₁ d₂ : Int32} {now t₁ t₂ : Instant} {v : Verdict}

theorem overdue_eq_ok_iff : overdue since reason deadline now = .ok v ↔
    (since.moved deadline.toInt).inCalendar = true ∧
      v = .notReady (!(since.moved deadline.toInt).before now) reason := by
  unfold overdue Instant.plus?
  split_ifs with h
  · simp [h, eq_comm]
  · simp [h]

/-- The verdict on the counters is the same at all times, or is that replicas are not updated, beyond hope once some
instant and the deadline are over. -/
theorem countersVerdict_timing (m : Manifest) (total updated : Int64) :
    (∃ r, ∀ deadline now, m.countersVerdict total updated deadline now = r) ∨
    ∃ since reason, ∀ deadline now, m.countersVerdict total updated deadline now =
      overdue since reason deadline now := by
  rcases m.updated_cases updated with ⟨desired, hd, hlt⟩ | hwanted
  · cases hsince : m.shortSince? with
    | none =>
      refine .inl ⟨.ok (.notReady true (.updating updated desired)), fun deadline now => ?_⟩
      rw [countersVerdict_of_lt hd hlt, isStalled, hsince]
      rfl
    | some since =>
      refine .inr ⟨since, .updating updated desired, fun deadline now => ?_⟩
      rw [countersVerdict_of_lt hd hlt, isStalled, hsince]
      dsimp only [overdue]
      cases since.plus? deadline.toInt with
      | none => rfl
      | some due => rfl
  · refine .inl ⟨m.countersVerdict total updated 0 default, fun deadline now => ?_⟩
    unfold countersVerdict
    rw [filter_lt_eq_none hwanted]

/-- The verdict is the same at all deadlines and times, or says for one reason that the workload is not ready, and is
fatal once some instant and the deadline are over. -/
theorem readiness_timing (m : Manifest) : (∃ r, ∀ deadline now, m.readiness deadline now = r) ∨
    ∃ since reason, ∀ deadline now, m.readiness deadline now = overdue since reason deadline now := by
  unfold readiness
  cases m.observedGeneration with
  | none => exact .inl ⟨_, fun _ _ => rfl⟩
  | some observed =>
    dsimp only
    split_ifs
    · exact .inl ⟨_, fun _ _ => rfl⟩
    · exact .inl ⟨_, fun _ _ => rfl⟩
    · cases m.rolloutCounters with
      | error field => exact .inl ⟨_, fun _ _ => rfl⟩
      | ok counters => exact m.countersVerdict_timing counters.1 counters.2

/-! ## Waiting -/

/-- Where there are two verdicts on one object, it is ready by both or not ready for the same reason by both. -/
theorem readiness_reason (m : Manifest) {v₁ v₂ : Verdict} (h₁ : m.readiness d₁ t₁ = .ok v₁)
    (h₂ : m.readiness d₂ t₂ = .ok v₂) : v₁.reason? = v₂.reason? := by
  rcases m.readiness_timing with ⟨r, hr⟩ | ⟨since, reason, hverdict⟩
  · rw [hr] at h₁ h₂
    obtain rfl := Except.ok.inj (h₁.symm.trans h₂)
    rfl
  · rw [hverdict, overdue_eq_ok_iff] at h₁ h₂
    rw [h₁.2, h₂.2, Verdict.reason?, Verdict.reason?]

/-- Where a verdict is fatal and there is one at a shorter deadline and a later time, this is fatal for the same
reason. -/
theorem readiness_fatal_mono (m : Manifest) (hd : d₁ ≤ d₂) (ht : t₁ ≤ t₂)
    (hfatal : m.readiness d₂ t₁ = .ok (.fatal reason)) (h : m.readiness d₁ t₂ = .ok v) : v = .fatal reason := by
  rcases m.readiness_timing with ⟨r, hr⟩ | ⟨since, reason', hverdict⟩
  · rw [hr] at hfatal h
    exact Except.ok.inj (h.symm.trans hfatal)
  · rw [hverdict, overdue_eq_ok_iff] at hfatal h
    obtain ⟨-, rfl⟩ := h
    rw [Verdict.fatal, Verdict.notReady.injEq] at hfatal ⊢
    obtain ⟨-, hpast, rfl⟩ := hfatal
    rw [eq_comm, Bool.not_eq_false', Instant.before_iff_lt] at hpast
    rw [Bool.not_eq_false', Instant.before_iff_lt]
    refine ⟨?_, rfl⟩
    calc since.moved d₁.toInt ≤ since.moved d₂.toInt := since.moved_le_moved (Int32.le_iff_toInt_le.1 hd)
      _ < t₁ := hpast
      _ ≤ t₂ := ht

/-- There are verdicts at the shorter deadline and the later time and at the longer deadline and the earlier time. The
workload is ready by both or not ready for the same reason by both, and where the second is fatal the first is. -/
def Waits (m : Manifest) (d₁ d₂ : Int32) (t₁ t₂ : Instant) : Prop :=
  ∃ v₁ v₂, m.readiness d₁ t₂ = .ok v₁ ∧ m.readiness d₂ t₁ = .ok v₂ ∧ v₁.reason? = v₂.reason? ∧
    ∀ reason, v₂ = .fatal reason → v₁ = .fatal reason

/-- For every object, any two deadlines and any two times: waiting can only make the verdict fatal, and does so for the
same reason, if and only if there is a verdict at both deadlines. -/
theorem readiness_waiting_iff (m : Manifest) (hd : d₁ ≤ d₂) (ht : t₁ ≤ t₂) :
    m.Waits d₁ d₂ t₁ t₂ ↔ ∀ cause, ¬ m.Crashes d₁ cause ∧ ¬ m.Crashes d₂ cause := by
  constructor
  · rintro ⟨v₁, v₂, h₁, h₂, -⟩ cause
    rw [← m.readiness_eq_error_iff d₁ t₂, ← m.readiness_eq_error_iff d₂ t₁, h₁, h₂]
    exact ⟨by simp, by simp⟩
  · intro h
    simp only [← m.readiness_eq_error_iff d₁ t₂, ← m.readiness_eq_error_iff d₂ t₁] at h
    cases h₁ : m.readiness d₁ t₂ with
    | error cause => exact absurd h₁ (h cause).1
    | ok v₁ =>
      cases h₂ : m.readiness d₂ t₁ with
      | error cause => exact absurd h₂ (h cause).2
      | ok v₂ =>
        refine ⟨v₁, v₂, h₁, h₂, m.readiness_reason h₁ h₂, fun reason hfatal => ?_⟩
        subst hfatal
        exact m.readiness_fatal_mono hd ht h₂ h₁

/-- A deployment that waits for its second replica and has been short of replicas since 2024-05-01T12:00:00Z. -/
def shortDeployment : Manifest where
  types := some ⟨"apps/v1", "Deployment"⟩
  metadata := { name := some "podinfo", ns := some "prod", generation := some 3 }
  body := .obj [
    ("spec", .obj [("replicas", .int 2)]),
    ("status", .obj [
      ("conditions", .arr [.obj [
        ("lastTransitionTime", .str "2024-05-01T12:00:00Z"),
        ("reason", .str "MinimumReplicasUnavailable"),
        ("status", .str "False"),
        ("type", .str "Available")]]),
      ("observedGeneration", .int 3),
      ("replicas", .int 2),
      ("updatedReplicas", .int 1)])]

/-- A second after ten minutes are over, so are the five minutes an hour later. -/
theorem readiness_waiting_iff_short : shortDeployment.Waits 300 600 ⟨1714565401, 0⟩ ⟨1714569000, 0⟩ := by
  refine (shortDeployment.readiness_waiting_iff (by decide) (by decide)).2 fun cause => ?_
  rw [← readiness_eq_error_iff _ _ ⟨1714569000, 0⟩, ← readiness_eq_error_iff _ _ ⟨1714565401, 0⟩]
  have h₁ : shortDeployment.readiness 300 ⟨1714569000, 0⟩ = .ok (.fatal (.updating 1 2)) := by decide +kernel
  have h₂ : shortDeployment.readiness 600 ⟨1714565401, 0⟩ = .ok (.fatal (.updating 1 2)) := by decide +kernel
  rw [h₁, h₂]
  exact ⟨by simp, by simp⟩

/-- Without a deadline there is a verdict on a deployment that has changed in the last second of the calendar, and with
one of ten minutes there is none. -/
theorem readiness_waiting_ends :
    lateDeployment.readiness 0 ⟨1714564800, 0⟩ = .ok (.retry (.updating 1 2)) ∧
    lateDeployment.readiness 600 ⟨1714564800, 0⟩ = .error .calendar ∧
    ¬ lateDeployment.Waits 0 600 ⟨1714564800, 0⟩ ⟨1714564800, 0⟩ := by
  have hcrash : lateDeployment.readiness 600 ⟨1714564800, 0⟩ = .error .calendar := by decide +kernel
  refine ⟨by decide +kernel, hcrash, ?_⟩
  rintro ⟨v₁, v₂, -, h₂, -⟩
  rw [hcrash] at h₂
  cases h₂

end Manifest

end Rollout
