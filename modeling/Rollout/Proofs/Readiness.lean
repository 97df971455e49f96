/-
What the verdicts on a workload say. `Manifest.Hopeless` is what no other look can mend, `Manifest.Converged` what a
workload comes to in the end, `Manifest.Crashes` where there is no verdict at all, and `Manifest.Stage` how far one gets
(`Manifest.readiness_stage`). Main statement: `Manifest.readiness_verdict`, exactly one holds: there is no verdict, or
the workload is beyond hope, or it is ready, for it is not and has converged, or it is worth another look.
-/
import Rollout.Readiness
import Mathlib.Tactic

namespace Rollout

/-! ## Arithmetic with a result -/

theorem Instant.plus?_eq_some_iff {t t' : Instant} {seconds : Int} :
    t.plus? seconds = some t' ↔ t.moved seconds = t' ∧ t'.inCalendar = true := by
  unfold plus?
  split_ifs with h
  · rw [Option.some.injEq]
    exact ⟨fun heq => ⟨heq, heq ▸ h⟩, fun heq => heq.1⟩
  · refine iff_of_false (by simp) ?_
    rintro ⟨rfl, hin⟩
    exact h hin

/-- Of two numbers the first of which is greater, the difference is missing where it is too large. -/
theorem difference?_eq_none_iff {a b : Int64} (h : b < a) :
    difference? a b = none ↔ Int64.maxValue.toInt < a.toInt - b.toInt := by
  rw [Int64.lt_iff_toInt_lt] at h
  have hrange := And.intro a.toInt_lt b.le_toInt
  unfold difference?
  rw [Int64.toInt_sub, Int64.toInt_maxValue, Int.bmod_def]
  split_ifs <;> simp <;> omega

theorem difference?_eq_some_iff {a b d : Int64} : difference? a b = some d ↔ d.toInt = a.toInt - b.toInt := by
  unfold difference?
  split_ifs with h
  · rw [Option.some.injEq, ← Int64.toInt_inj, h, eq_comm]
  · refine iff_of_false (by simp) fun hd => h ?_
    have hbounds := And.intro d.toInt_lt d.le_toInt
    rw [Int64.toInt_sub, Int.bmod_def, ← hd]
    split_ifs <;> omega

namespace Manifest

/-! ## What the verdicts depend on -/
/-- The kinds that leave out counters that are zero. -/
def typedKinds : List String := ["Deployment", "DaemonSet", "StatefulSet"]

/-- A counter that has been published, or is left out because it is zero. -/
def counted? (m : Manifest) (published : Option Int64) : Option Int64 :=
  if m.kind ∈ typedKinds then some (published.getD 0) else published

/-- The latest generation has been observed. -/
def Observed (m : Manifest) : Prop := ∃ observed, m.observedGeneration = some observed ∧ m.generation ≤ observed

/-- A deployment's first condition of a type is like this. -/
def Shows (m : Manifest) (type : String) (like : Condition → Prop) : Prop :=
  m.kind = "Deployment" ∧ ∃ c, m.condition? type = some c ∧ like c

/-- The condition says that the deployment has passed its progress deadline. -/
def PastDeadline (c : Condition) : Prop := c.reason = some "ProgressDeadlineExceeded"

/-- The condition says that too few replicas are available since then. -/
def ShortSince (since : Instant) (c : Condition) : Prop :=
  c.status = "False" ∧ c.reason = some "MinimumReplicasUnavailable" ∧ c.changedAt = some since

/-- The condition says that too few replicas are available, and has for longer than the deadline. -/
def Stuck (deadline : Int32) (now : Instant) (c : Condition) : Prop :=
  ∃ since, ShortSince since c ∧ (since.moved deadline.toInt).before now = true

/-- The latest generation has been observed, the workload has not given up, and these are its counters. -/
structure Counted (m : Manifest) (total updated : Int64) : Prop where
  seen : m.Observed
  going : ¬ m.Shows "Progressing" PastDeadline
  total : m.counted? m.totalReplicas = some total
  updated : m.counted? m.updatedReplicas = some updated

/-- There is no verdict on the workload. -/
inductive Crashes (m : Manifest) (deadline : Int32) : Crash → Prop
  /-- Some replicas are not updated, too few are available, and the calendar does not reach the time at which the
  deadline for these is over. -/
  | calendar {total updated desired : Int64} {since : Instant} : m.Counted total updated →
      m.desiredReplicas = some desired → updated < desired → m.Shows "Available" (ShortSince since) →
      since.plus? deadline.toInt = none → Crashes m deadline .calendar
  /-- Enough replicas are updated, and 64 bits do not hold how many more there are. -/
  | overflow {total updated : Int64} : m.Counted total updated →
      (∀ desired, m.desiredReplicas = some desired → desired ≤ updated) →
      Int64.maxValue.toInt < total.toInt - updated.toInt → Crashes m deadline .overflow

/-- The workload is beyond hope. -/
inductive Hopeless (m : Manifest) (deadline : Int32) (now : Instant) : Prop
  /-- It does not say which generation has been observed. -/
  | unobserved : m.observedGeneration = none → Hopeless m deadline now
  /-- It gave up. -/
  | gaveUp : m.Observed → m.Shows "Progressing" PastDeadline → Hopeless m deadline now
  /-- It lacks a counter that only some kinds leave out. -/
  | uncounted : m.Observed → m.kind ∉ typedKinds → m.totalReplicas = none ∨ m.updatedReplicas = none →
      Hopeless m deadline now
  /-- Some replicas are not updated, and too few have been available for too long. -/
  | stalled {desired updated : Int64} : m.Observed → m.desiredReplicas = some desired →
      m.counted? m.updatedReplicas = some updated → updated < desired →
      m.Shows "Available" (Stuck deadline now) → Hopeless m deadline now

/-- As many replicas are updated as are wanted, none are left of an earlier version, and the updated ones are
available, so far as that is known. -/
structure Suffices (m : Manifest) (total updated : Int64) : Prop where
  wanted : ∀ desired, m.desiredReplicas = some desired → desired ≤ updated
  replaced : total ≤ updated
  served : ∀ available, m.counted? m.availableReplicas = some available → updated ≤ available

/-- The workload has come to what its latest generation asks for. -/
def Converged (m : Manifest) : Prop :=
  m.Observed ∧ ∃ total updated, m.counted? m.totalReplicas = some total ∧
    m.counted? m.updatedReplicas = some updated ∧ m.Suffices total updated

variable {m : Manifest} {deadline : Int32} {now : Instant} {total updated : Int64}

/-! ## The parts of a verdict -/

theorem hasTypedStatus_iff : m.hasTypedStatus = true ↔ m.kind ∈ typedKinds := by
  unfold hasTypedStatus typedKinds
  simp [or_assoc]

theorem hasRichConditions_iff : m.hasRichConditions = true ↔ m.kind = "Deployment" := by
  unfold hasRichConditions
  simp

theorem knownAvailable_eq : m.knownAvailable = m.counted? m.availableReplicas := by
  unfold knownAvailable counted?
  simp only [hasTypedStatus_iff]

theorem gaveUp_iff : m.gaveUp = true ↔ m.Shows "Progressing" PastDeadline := by
  unfold gaveUp Shows PastDeadline
  rw [Bool.and_eq_true, hasRichConditions_iff, beq_iff_eq, Option.bind_eq_some_iff]

theorem shortSince?_eq_some_iff {since : Instant} :
    m.shortSince? = some since ↔ m.Shows "Available" (ShortSince since) := by
  unfold shortSince? Shows ShortSince
  rw [Option.ite_none_right_eq_some, hasRichConditions_iff, Option.bind_eq_some_iff]
  simp only [Option.ite_none_right_eq_some, and_assoc]

theorem shows_stuck_iff : m.Shows "Available" (Stuck deadline now) ↔
    ∃ since, m.shortSince? = some since ∧ (since.moved deadline.toInt).before now = true := by
  constructor
  · rintro ⟨hkind, c, hc, since, hshort, hover⟩
    exact ⟨since, shortSince?_eq_some_iff.2 ⟨hkind, c, hc, hshort⟩, hover⟩
  · rintro ⟨since, hsince, hover⟩
    obtain ⟨hkind, c, hc, hshort⟩ := shortSince?_eq_some_iff.1 hsince
    exact ⟨hkind, c, hc, since, hshort, hover⟩

/-- Whether a deployment is stalled is not known where the calendar does not reach the end of its deadline. -/
theorem isStalled_cases (m : Manifest) (deadline : Int32) (now : Instant) :
    (m.isStalled deadline now = .error .calendar ∧
      ∃ since, m.Shows "Available" (ShortSince since) ∧ since.plus? deadline.toInt = none) ∨
    ∃ stalled, m.isStalled deadline now = .ok stalled ∧
      (stalled = true ↔ m.Shows "Available" (Stuck deadline now)) := by
  rw [shows_stuck_iff]
  unfold isStalled
  cases hsince : m.shortSince? with
  | none => exact .inr ⟨false, rfl, by simp⟩
  | some since =>
    dsimp only
    cases hdue : since.plus? deadline.toInt with
    | none => exact .inl ⟨rfl, since, shortSince?_eq_some_iff.1 hsince, hdue⟩
    | some due =>
      obtain ⟨rfl, -⟩ := Instant.plus?_eq_some_iff.1 hdue
      exact .inr ⟨_, rfl, by simp⟩

/-- Where the calendar does not reach the end of its deadline, it is not known whether a deployment is stalled. -/
theorem isStalled_of_unreached {since : Instant} (hshows : m.Shows "Available" (ShortSince since))
    (hdue : since.plus? deadline.toInt = none) : m.isStalled deadline now = .error .calendar := by
  unfold isStalled
  rw [shortSince?_eq_some_iff.2 hshows]
  dsimp only
  rw [hdue]

/-- The counters are there, unless one is missing that the kind has to publish. -/
theorem rolloutCounters_cases (m : Manifest) :
    (∃ total updated, m.rolloutCounters = .ok (total, updated) ∧ m.counted? m.totalReplicas = some total ∧
      m.counted? m.updatedReplicas = some updated) ∨
    (∃ field, m.rolloutCounters = .error field) ∧ m.kind ∉ typedKinds ∧
      (m.totalReplicas = none ∨ m.updatedReplicas = none) := by
  unfold rolloutCounters counted?
  by_cases h : m.kind ∈ typedKinds
  · rw [if_pos (hasTypedStatus_iff.2 h), if_pos h, if_pos h]
    exact .inl ⟨_, _, rfl, rfl, rfl⟩
  · rw [if_neg (mt hasTypedStatus_iff.1 h), if_neg h, if_neg h]
    cases m.totalReplicas with
    | none => exact .inr ⟨⟨_, rfl⟩, h, .inl rfl⟩
    | some total =>
      cases m.updatedReplicas with
      | none => exact .inr ⟨⟨_, rfl⟩, h, .inr rfl⟩
      | some updated => exact .inl ⟨total, updated, rfl, rfl, rfl⟩

/-! ## The verdict on the counters -/

/-- Too few replicas are updated. -/
theorem countersVerdict_of_lt {desired : Int64} (hdesired : m.desiredReplicas = some desired) (h : updated < desired) :
    m.countersVerdict total updated deadline now =
      (m.isStalled deadline now).map fun stalled => .notReady (!stalled) (.updating updated desired) := by
  unfold countersVerdict
  rw [hdesired, Option.filter_some, if_pos (decide_eq_true h)]

theorem filter_lt_eq_none (h : ∀ desired, m.desiredReplicas = some desired → desired ≤ updated) :
    m.desiredReplicas.filter (updated < ·) = none := by
  rw [Option.filter_eq_none_iff]
  intro desired hd
  simpa using h desired hd

/-- Enough replicas are updated, but more are there: it is said how many. -/
theorem countersVerdict_of_le_of_lt (h : ∀ desired, m.desiredReplicas = some desired → desired ≤ updated)
    (hlt : updated < total) : m.countersVerdict total updated deadline now =
      match difference? total updated with
      | none => .error .overflow
      | some count => .ok (.retry (.terminating count)) := by
  unfold countersVerdict
  rw [filter_lt_eq_none h]
  exact if_pos hlt

/-- Enough replicas are updated, and no others are there: these have to be available. -/
theorem countersVerdict_of_le_of_le (deadline : Int32) (now : Instant)
    (h : ∀ desired, m.desiredReplicas = some desired → desired ≤ updated) (hle : total ≤ updated) :
    m.countersVerdict total updated deadline now = .ok .ready ∧ m.Suffices total updated ∨
      (∃ available, m.countersVerdict total updated deadline now = .ok (.retry (.unavailable available updated))) ∧
        ¬ m.Suffices total updated := by
  unfold countersVerdict
  rw [filter_lt_eq_none h, knownAvailable_eq]
  dsimp only
  rw [if_neg (Int64.not_lt.2 hle)]
  cases havailable : (m.counted? m.availableReplicas).filter (· < updated) with
  | none =>
    rw [Option.filter_eq_none_iff] at havailable
    exact .inl ⟨rfl, h, hle, fun available ha => by simpa using havailable available ha⟩
  | some available =>
    obtain ⟨ha, hlt⟩ := Option.filter_eq_some_iff.1 havailable
    exact .inr ⟨⟨_, rfl⟩, fun hs => absurd (hs.served available ha) (Int64.not_le.2 (of_decide_eq_true hlt))⟩

/-- Too few replicas are updated, or enough. -/
theorem updated_cases (m : Manifest) (updated : Int64) :
    (∃ desired, m.desiredReplicas = some desired ∧ updated < desired) ∨
      ∀ desired, m.desiredReplicas = some desired → desired ≤ updated := by
  by_cases h : ∃ desired, m.desiredReplicas = some desired ∧ updated < desired
  · exact .inl h
  · exact .inr fun desired hd => Int64.not_lt.1 fun hlt => h ⟨desired, hd, hlt⟩

/-! ## The verdict -/

theorem observed_iff {observed : Int64} (h : m.observedGeneration = some observed) :
    m.Observed ↔ m.generation ≤ observed := by
  unfold Observed
  rw [h]
  simp

theorem Observed.ne_none (h : m.Observed) : m.observedGeneration ≠ none := by
  obtain ⟨_, hobserved, -⟩ := h
  rw [hobserved]
  exact Option.some_ne_none _

namespace Counted

/-- No counter is missing that the kind has to publish. -/
theorem not_missing (h : m.Counted total updated) (hkind : m.kind ∉ typedKinds) :
    ¬ (m.totalReplicas = none ∨ m.updatedReplicas = none) := by
  obtain ⟨-, -, htotal, hupdated⟩ := h
  unfold counted? at htotal hupdated
  rw [if_neg hkind] at htotal hupdated
  rw [htotal, hupdated]
  simp

/-- A workload has its counters only once. -/
theorem unique {total' updated' : Int64} (h : m.Counted total updated) (h' : m.Counted total' updated') :
    total' = total ∧ updated' = updated :=
  ⟨Option.some.inj (h'.total.symm.trans h.total), Option.some.inj (h'.updated.symm.trans h.updated)⟩

/-- With its counters known, a workload that has not given up is beyond hope where it is stuck before all of its
replicas are updated. -/
theorem hopeless_iff (h : m.Counted total updated) : m.Hopeless deadline now ↔
    (∃ desired, m.desiredReplicas = some desired ∧ updated < desired) ∧ m.Shows "Available" (Stuck deadline now) := by
  constructor
  · intro hhope
    cases hhope with
    | unobserved hnone => exact absurd hnone h.seen.ne_none
    | gaveUp _ hshows => exact absurd hshows h.going
    | uncounted _ hkind hmissing => exact absurd hmissing (h.not_missing hkind)
    | stalled _ hdesired hu hlt hshows =>
      obtain rfl := Option.some.inj (hu.symm.trans h.updated)
      exact ⟨⟨_, hdesired, hlt⟩, hshows⟩
  · rintro ⟨⟨desired, hdesired, hlt⟩, hshows⟩
    exact .stalled h.seen hdesired h.updated hlt hshows

theorem converged_iff (h : m.Counted total updated) : m.Converged ↔ m.Suffices total updated := by
  constructor
  · rintro ⟨-, t, u, ht, hu, hs⟩
    obtain rfl := Option.some.inj (ht.symm.trans h.total)
    obtain rfl := Option.some.inj (hu.symm.trans h.updated)
    exact hs
  · intro hs
    exact ⟨h.seen, total, updated, h.total, h.updated, hs⟩

/-- The verdict on the counters of a workload that has not given up. -/
theorem countersVerdict_cases (h : m.Counted total updated) (deadline : Int32) (now : Instant) :
    (∃ cause, m.countersVerdict total updated deadline now = .error cause ∧ m.Crashes deadline cause) ∨
    (∃ reason, m.countersVerdict total updated deadline now = .ok (.notReady false reason)) ∧ m.Hopeless deadline now ∨
    m.countersVerdict total updated deadline now = .ok .ready ∧ ¬ m.Hopeless deadline now ∧ m.Converged ∨
    (∃ reason, m.countersVerdict total updated deadline now = .ok (.notReady true reason)) ∧
      ¬ m.Hopeless deadline now ∧ ¬ m.Converged := by
  rw [h.hopeless_iff, h.converged_iff]
  rcases m.updated_cases updated with ⟨desired, hd, hlt⟩ | hwanted
  · have hshort : ¬ m.Suffices total updated := fun hs => absurd (hs.wanted desired hd) (Int64.not_le.2 hlt)
    rw [countersVerdict_of_lt hd hlt]
    rcases m.isStalled_cases deadline now with ⟨hstalled, since, hshows, hdue⟩ | ⟨stalled, hstalled, hiff⟩
    · exact .inl ⟨.calendar, by rw [hstalled]; rfl, .calendar h hd hlt hshows hdue⟩
    · rw [hstalled, ← hiff]
      cases stalled with
      | true => exact .inr (.inl ⟨⟨_, rfl⟩, ⟨desired, hd, hlt⟩, rfl⟩)
      | false => exact .inr (.inr (.inr ⟨⟨_, rfl⟩, by simp, hshort⟩))
  · have hkept : ¬ ∃ desired, m.desiredReplicas = some desired ∧ updated < desired := by
      rintro ⟨desired, hd, hlt⟩
      exact absurd (hwanted desired hd) (Int64.not_le.2 hlt)
    by_cases hterminating : updated < total
    · have hleft : ¬ m.Suffices total updated := fun hs => absurd hs.replaced (Int64.not_le.2 hterminating)
      rw [countersVerdict_of_le_of_lt hwanted hterminating]
      cases hcount : difference? total updated with
      | none =>
        exact .inl ⟨.overflow, rfl, .overflow h hwanted ((difference?_eq_none_iff hterminating).1 hcount)⟩
      | some count => exact .inr (.inr (.inr ⟨⟨_, rfl⟩, fun hhope => hkept hhope.1, hleft⟩))
    · rcases countersVerdict_of_le_of_le deadline now hwanted (Int64.not_lt.1 hterminating) with
        ⟨hverdict, hs⟩ | ⟨⟨_, hverdict⟩, hs⟩
      · exact .inr (.inr (.inl ⟨hverdict, fun hhope => hkept hhope.1, hs⟩))
      · exact .inr (.inr (.inr ⟨⟨_, hverdict⟩, fun hhope => hkept hhope.1, hs⟩))

end Counted

/-- The stages of a verdict: what it is where it goes no further. -/
inductive Stage (m : Manifest) (deadline : Int32) (now : Instant) : Except Crash Verdict → Prop
  | unobserved : m.observedGeneration = none →
      Stage m deadline now (.ok (.fatal (.malformed m.kind "status.observedGeneration")))
  | behind {observed : Int64} : m.observedGeneration = some observed → observed < m.generation →
      Stage m deadline now (.ok (.retry .generationBehind))
  | gaveUp : m.Observed → m.Shows "Progressing" PastDeadline →
      Stage m deadline now (.ok (.fatal (.deadlineExceeded m.name)))
  | uncounted {field : String} : m.Observed → ¬ m.Shows "Progressing" PastDeadline → m.kind ∉ typedKinds →
      m.totalReplicas = none ∨ m.updatedReplicas = none → Stage m deadline now (.ok (.fatal (.malformed m.kind field)))
  | counted {total updated : Int64} : m.Counted total updated →
      Stage m deadline now (m.countersVerdict total updated deadline now)

theorem readiness_stage (m : Manifest) (deadline : Int32) (now : Instant) :
    m.Stage deadline now (m.readiness deadline now) := by
  unfold readiness
  cases hobserved : m.observedGeneration with
  | none => exact .unobserved hobserved
  | some observed =>
    dsimp only
    by_cases hbehind : observed < m.generation
    · rw [if_pos hbehind]
      exact .behind hobserved hbehind
    have hseen : m.Observed := (observed_iff hobserved).2 (Int64.not_lt.1 hbehind)
    rw [if_neg hbehind]
    by_cases hgaveUp : m.gaveUp = true
    · rw [if_pos hgaveUp]
      exact .gaveUp hseen (gaveUp_iff.1 hgaveUp)
    have hgoing : ¬ m.Shows "Progressing" PastDeadline := mt gaveUp_iff.2 hgaveUp
    rw [if_neg hgaveUp]
    rcases m.rolloutCounters_cases with ⟨total, updated, hcounters, htotal, hupdated⟩ |
      ⟨⟨field, hcounters⟩, hkind, hmissing⟩
    · rw [hcounters]
      exact .counted ⟨hseen, hgoing, htotal, hupdated⟩
    · rw [hcounters]
      exact .uncounted hseen hgoing hkind hmissing

/-- With its counters known, a workload that has not given up is judged by them. -/
theorem Counted.readiness (h : m.Counted total updated) (deadline : Int32) (now : Instant) :
    m.readiness deadline now = m.countersVerdict total updated deadline now := by
  have hstage := m.readiness_stage deadline now
  generalize m.readiness deadline now = verdict at hstage ⊢
  cases hstage with
  | unobserved hnone => exact absurd hnone h.seen.ne_none
  | behind hobserved hbehind => exact absurd ((observed_iff hobserved).1 h.seen) (Int64.not_le.2 hbehind)
  | gaveUp _ hshows => exact absurd hshows h.going
  | uncounted _ _ hkind hmissing => exact absurd hmissing (h.not_missing hkind)
  | counted h' =>
    obtain ⟨rfl, rfl⟩ := h.unique h'
    rfl

/-- Each of the four ends of a verdict is reached where it should be. -/
theorem readiness_cases (m : Manifest) (deadline : Int32) (now : Instant) :
    (∃ cause, m.readiness deadline now = .error cause ∧ m.Crashes deadline cause) ∨
    (∃ reason, m.readiness deadline now = .ok (.notReady false reason)) ∧ m.Hopeless deadline now ∨
    m.readiness deadline now = .ok .ready ∧ ¬ m.Hopeless deadline now ∧ m.Converged ∨
    (∃ reason, m.readiness deadline now = .ok (.notReady true reason)) ∧
      ¬ m.Hopeless deadline now ∧ ¬ m.Converged := by
  have hstage := m.readiness_stage deadline now
  generalize m.readiness deadline now = verdict at hstage ⊢
  cases hstage with
  | unobserved h => exact .inr (.inl ⟨⟨_, rfl⟩, .unobserved h⟩)
  | behind hobserved hbehind =>
    -- while the generation is behind nothing else counts
    have hunseen : ¬ m.Observed := fun h => absurd ((observed_iff hobserved).1 h) (Int64.not_le.2 hbehind)
    refine .inr (.inr (.inr ⟨⟨_, rfl⟩, fun h => ?_, fun h => hunseen h.1⟩))
    cases h with
    | unobserved h => rw [hobserved] at h; cases h
    | gaveUp h | uncounted h | stalled h => exact hunseen h
  | gaveUp hseen hshows => exact .inr (.inl ⟨⟨_, rfl⟩, .gaveUp hseen hshows⟩)
  | uncounted hseen _ hkind hmissing => exact .inr (.inl ⟨⟨_, rfl⟩, .uncounted hseen hkind hmissing⟩)
  | counted h => exact h.countersVerdict_cases deadline now

/-! ## Without a verdict -/

/-- There is no verdict exactly where there cannot be one. -/
theorem readiness_eq_error_iff (m : Manifest) (deadline : Int32) (now : Instant) {cause : Crash} :
    m.readiness deadline now = .error cause ↔ m.Crashes deadline cause := by
  constructor
  · intro h
    rcases m.readiness_cases deadline now with ⟨cause', h', hcrashes⟩ | ⟨⟨_, h'⟩, -⟩ | ⟨h', -⟩ | ⟨⟨_, h'⟩, -⟩
    · rw [h] at h'
      cases h'
      exact hcrashes
    all_goals rw [h] at h'; cases h'
  · intro h
    cases h with
    | calendar hcounted hdesired hlt hshows hdue =>
      rw [hcounted.readiness, countersVerdict_of_lt hdesired hlt, isStalled_of_unreached hshows hdue]
      rfl
    | overflow hcounted hwanted hlarge =>
      have hlt := Int64.lt_iff_toInt_lt.2 (Int.sub_pos.1 (lt_trans (by decide) hlarge))
      rw [hcounted.readiness, countersVerdict_of_le_of_lt hwanted hlt, (difference?_eq_none_iff hlt).2 hlarge]

/-- On what has converged there is a verdict at every deadline. -/
theorem Converged.not_crashes (h : m.Converged) (cause : Crash) : ¬ m.Crashes deadline cause := by
  intro hcrashes
  cases hcrashes with
  | calendar hcounted hdesired hlt =>
    exact absurd ((hcounted.converged_iff.1 h).wanted _ hdesired) (Int64.not_le.2 hlt)
  | overflow hcounted _ hlarge =>
    have hreplaced := Int64.le_iff_toInt_le.1 (hcounted.converged_iff.1 h).replaced
    rw [Int64.toInt_maxValue] at hlarge
    omega

/-! ## The verdict as a whole -/

theorem readiness_eq_ready_iff (m : Manifest) (deadline : Int32) (now : Instant) :
    m.readiness deadline now = .ok .ready ↔ ¬ m.Hopeless deadline now ∧ m.Converged := by
  rcases m.readiness_cases deadline now with ⟨cause, h, hcrashes⟩ | ⟨⟨_, h⟩, hhope⟩ | ⟨h, hhope⟩ | ⟨⟨_, h⟩, hhope⟩
  · rw [h]
    exact iff_of_false (by simp) fun hconverged => hconverged.2.not_crashes cause hcrashes
  · simp [h, hhope]
  · simp [h, hhope]
  · simp [h, hhope]

/-- What has converged can be beyond hope only for reasons that have nothing to do with time. -/
theorem Converged.hopeless_congr (h : m.Converged) (deadline' : Int32) (now' : Instant)
    (hhope : m.Hopeless deadline now) : m.Hopeless deadline' now' := by
  obtain ⟨-, total, updated, -, hupdated, hs⟩ := h
  cases hhope with
  | unobserved h => exact .unobserved h
  | gaveUp h hshows => exact .gaveUp h hshows
  | uncounted h hkind hmissing => exact .uncounted h hkind hmissing
  | stalled _ hdesired hu hlt =>
    rw [hupdated] at hu
    cases hu
    exact absurd (hs.wanted _ hdesired) (Int64.not_le.2 hlt)

/-- For every object, deadline and time: there is no verdict exactly where it crashes. Otherwise the verdict is fatal if
and only if the workload is beyond hope, ready if and only if it is not and has converged, and else that it is worth
another look. A workload that is ready is so at every deadline and time, and has as many replicas available as are
wanted, so far as these are known. -/
theorem readiness_verdict (m : Manifest) (deadline : Int32) (now : Instant) :
    (∀ cause, m.readiness deadline now = .error cause ↔ m.Crashes deadline cause) ∧
    ((∃ reason, m.readiness deadline now = .ok (.notReady false reason)) ↔
      m.Hopeless deadline now ∧ ∀ cause, ¬ m.Crashes deadline cause) ∧
    (m.readiness deadline now = .ok .ready ↔ ¬ m.Hopeless deadline now ∧ m.Converged) ∧
    ((∃ reason, m.readiness deadline now = .ok (.notReady true reason)) ↔
      ¬ m.Hopeless deadline now ∧ ¬ m.Converged ∧ ∀ cause, ¬ m.Crashes deadline cause) ∧
    (m.readiness deadline now = .ok .ready → (∀ deadline' now', m.readiness deadline' now' = .ok .ready) ∧
      ∀ desired available, m.desiredReplicas = some desired → m.counted? m.availableReplicas = some available →
        desired ≤ available) := by
  have hcrashes : (∀ cause, ¬ m.Crashes deadline cause) ↔ ∀ cause, m.readiness deadline now ≠ .error cause :=
    forall_congr' fun _ => not_congr (m.readiness_eq_error_iff deadline now).symm
  refine ⟨fun _ => m.readiness_eq_error_iff deadline now, ?_, m.readiness_eq_ready_iff deadline now, ?_,
    fun hready => ?_⟩
  · rw [hcrashes]
    rcases m.readiness_cases deadline now with ⟨_, h, -⟩ | ⟨⟨_, h⟩, hhope⟩ | ⟨h, hhope, _⟩ | ⟨⟨_, h⟩, hhope, _⟩
    · simp [h]
    · simp [h, hhope]
    · simp [h, hhope]
    · simp [h, hhope]
  · rw [hcrashes]
    rcases m.readiness_cases deadline now with ⟨_, h, -⟩ | ⟨⟨_, h⟩, hhope⟩ | ⟨h, hhope⟩ | ⟨⟨_, h⟩, hhope⟩
    · simp [h]
    · simp [h, hhope]
    · simp [h, hhope]
    · simp [h, hhope]
  · obtain ⟨hhope, hconverged⟩ := (m.readiness_eq_ready_iff deadline now).1 hready
    constructor
    · intro deadline' now'
      rw [readiness_eq_ready_iff]
      exact ⟨mt (hconverged.hopeless_congr deadline now) hhope, hconverged⟩
    · intro desired available hdesired havailable
      obtain ⟨-, total, updated, -, -, hs⟩ := hconverged
      exact Int64.le_trans (hs.wanted desired hdesired) (hs.served available havailable)

/-- A deployment that waits for its second replica and says that it has been short of replicas since the last second of
the calendar. -/
def lateDeployment : Manifest where
  types := some ⟨"apps/v1", "Deployment"⟩
  metadata := { name := some "podinfo", ns := some "prod", generation := some 1 }
  body := .obj [
    ("spec", .obj [("replicas", .int 2)]),
    ("status", .obj [
      ("conditions", .arr [.obj [
        ("lastTransitionTime", .str "+262142-12-31T23:59:59Z"),
        ("reason", .str "MinimumReplicasUnavailable"),
        ("status", .str "False"),
        ("type", .str "Available")]]),
      ("observedGeneration", .int 1),
      ("replicas", .int 2),
      ("updatedReplicas", .int 1)])]

theorem lateDeployment_counted : lateDeployment.Counted 2 1 :=
  ⟨⟨1, by decide +kernel, by decide +kernel⟩, mt gaveUp_iff.2 (by decide +kernel), by decide +kernel, by decide +kernel⟩

/-- It is not beyond hope and has not converged, but with a deadline of ten minutes there is no verdict on it. -/
theorem readiness_verdict_missing : ¬ lateDeployment.Hopeless 600 ⟨1714564800, 0⟩ ∧ ¬ lateDeployment.Converged ∧
    lateDeployment.readiness 600 ⟨1714564800, 0⟩ = .error .calendar := by
  refine ⟨?_, ?_, by decide +kernel⟩
  · rw [lateDeployment_counted.hopeless_iff]
    rintro ⟨-, hstuck⟩
    obtain ⟨since, hsince, hover⟩ := shows_stuck_iff.1 hstuck
    have hlast : lateDeployment.shortSince? = some ⟨8210266876799, 0⟩ := by decide +kernel
    obtain rfl := Option.some.inj (hsince.symm.trans hlast)
    exact absurd hover (by decide)
  · rw [lateDeployment_counted.converged_iff]
    intro hs
    exact absurd (hs.wanted 2 (by decide +kernel)) (by decide)

end Rollout.Manifest
