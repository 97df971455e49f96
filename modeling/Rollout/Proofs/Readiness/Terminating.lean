/-
Replicas of an earlier version that are said to be left. They are reported where enough replicas are updated and more
are there (`Manifest.Terminating`). Main statement: `Manifest.readiness_terminating_exact_iff`, the number that is given
is the exact difference of the two counters, and there is no verdict if and only if 64 bits do not hold it, which they
always do where the number of updated replicas, or of those that are wanted, is not negative.
-/
import Rollout.Proofs.Readiness

namespace Rollout.Manifest

variable {m : Manifest} {deadline : Int32} {now : Instant} {total updated count : Int64} {retriable : Bool}

/-! ## When replicas are left -/

/-- As many replicas are updated as are wanted, but there are more in all. -/
structure Terminating (m : Manifest) (total updated : Int64) : Prop where
  counted : m.Counted total updated
  wanted : ∀ desired, m.desiredReplicas = some desired → desired ≤ updated
  left : updated < total

/-- The verdict where replicas are left. -/
theorem Terminating.readiness (h : m.Terminating total updated) (deadline : Int32) (now : Instant) :
    m.readiness deadline now =
      match difference? total updated with
      | none => .error .overflow
      | some count => .ok (.retry (.terminating count)) :=
  (h.counted.readiness deadline now).trans (countersVerdict_of_le_of_lt h.wanted h.left)

theorem countersVerdict_terminating
    (h : m.countersVerdict total updated deadline now = .ok (.notReady retriable (.terminating count))) :
    (∀ desired, m.desiredReplicas = some desired → desired ≤ updated) ∧ updated < total := by
  rcases m.updated_cases updated with ⟨desired, hd, hlt⟩ | hwanted
  · rw [countersVerdict_of_lt hd hlt] at h
    cases hstalled : m.isStalled deadline now with
    | error cause => rw [hstalled] at h; cases h
    | ok stalled => rw [hstalled] at h; cases h
  · refine ⟨hwanted, ?_⟩
    by_contra hle
    rcases countersVerdict_of_le_of_le deadline now hwanted (Int64.not_lt.1 hle) with
      ⟨hverdict, -⟩ | ⟨⟨_, hverdict⟩, -⟩
    · rw [hverdict] at h; cases h
    · rw [hverdict] at h; cases h

/-- Replicas are said to be left where they are, and as many as the difference of the counters. -/
theorem readiness_terminating_iff : m.readiness deadline now = .ok (.notReady retriable (.terminating count)) ↔
    retriable = true ∧ ∃ total updated, m.Terminating total updated ∧ count.toInt = total.toInt - updated.toInt := by
  constructor
  · intro h
    have hterminating : ∃ total updated, m.Terminating total updated := by
      have hstage := m.readiness_stage deadline now
      generalize hverdict : m.readiness deadline now = verdict at hstage
      cases hstage with
      | unobserved | behind | gaveUp | uncounted => rw [hverdict] at h; cases h
      | counted hcounted =>
        obtain ⟨hwanted, hleft⟩ := countersVerdict_terminating (hverdict.symm.trans h)
        exact ⟨_, _, hcounted, hwanted, hleft⟩
    obtain ⟨total, updated, hterminating⟩ := hterminating
    rw [hterminating.readiness] at h
    cases hcount : difference? total updated with
    | none => rw [hcount] at h; cases h
    | some pending =>
      rw [hcount] at h
      cases h
      exact ⟨rfl, total, updated, hterminating, difference?_eq_some_iff.1 hcount⟩
  · rintro ⟨rfl, total, updated, hterminating, hcount⟩
    rw [hterminating.readiness, difference?_eq_some_iff.2 hcount]
    rfl

/-- Replicas are left of which 64 bits do not hold the number, wherever one does not. -/
theorem crashes_overflow_iff : m.Crashes deadline .overflow ↔
    ∃ total updated, m.Terminating total updated ∧ Int64.maxValue.toInt < total.toInt - updated.toInt := by
  constructor
  · intro h
    cases h with
    | overflow hcounted hwanted hlarge =>
      have hleft := Int64.lt_iff_toInt_lt.2 (Int.sub_pos.1 (lt_trans (by decide) hlarge))
      exact ⟨_, _, ⟨hcounted, hwanted, hleft⟩, hlarge⟩
  · rintro ⟨total, updated, h, hlarge⟩
    exact .overflow h.counted h.wanted hlarge

/-! ## How many are said to be left -/

/-- A number that is updated is not negative where that holds of it or of the number that is wanted; and from such a
number no other is too far. -/
theorem Terminating.le_maxValue (h : m.Terminating total updated)
    (hsound : 0 ≤ updated ∨ ∃ desired, m.desiredReplicas = some desired ∧ 0 ≤ desired) :
    total.toInt - updated.toInt ≤ Int64.maxValue.toInt := by
  have hupdated : 0 ≤ updated := by
    rcases hsound with hu | ⟨desired, hd, hnonneg⟩
    · exact hu
    · exact Int64.le_trans hnonneg (h.wanted desired hd)
  have hlargest : total.toInt ≤ Int64.maxValue.toInt := total.toInt_le
  rw [Int64.le_iff_toInt_le, Int64.toInt_zero] at hupdated
  omega

/-- For every object, deadline and time: a number of replicas that are said to be left is positive, and what the counter
of all is above that of the updated. There is no verdict for the size of such a number if and only if it is greater than
the largest of 64 bits; and it never is where no negative number is updated, or where a number is wanted that is not
negative. -/
theorem readiness_terminating_exact_iff (m : Manifest) (deadline : Int32) (now : Instant) :
    (∀ retriable count, m.readiness deadline now = .ok (.notReady retriable (.terminating count)) →
      0 < count ∧ ∃ total updated, m.Terminating total updated ∧ count.toInt = total.toInt - updated.toInt) ∧
    (m.readiness deadline now = .error .overflow ↔
      ∃ total updated, m.Terminating total updated ∧ Int64.maxValue.toInt < total.toInt - updated.toInt) ∧
    ∀ total updated, m.Terminating total updated →
      ((∃ count, m.readiness deadline now = .ok (.retry (.terminating count))) ↔
        total.toInt - updated.toInt ≤ Int64.maxValue.toInt) ∧
      ((0 ≤ updated ∨ ∃ desired, m.desiredReplicas = some desired ∧ 0 ≤ desired) →
        total.toInt - updated.toInt ≤ Int64.maxValue.toInt) := by
  refine ⟨fun retriable count h => ?_, ?_, fun total updated h => ⟨?_, h.le_maxValue⟩⟩
  · obtain ⟨-, total, updated, hterminating, hcount⟩ := readiness_terminating_iff.1 h
    refine ⟨?_, total, updated, hterminating, hcount⟩
    have hleft := Int64.lt_iff_toInt_lt.1 hterminating.left
    rw [Int64.lt_iff_toInt_lt, Int64.toInt_zero, hcount]
    omega
  · rw [readiness_eq_error_iff, crashes_overflow_iff]
  · rw [h.readiness, ← not_lt, ← difference?_eq_none_iff h.left]
    cases difference? total updated with
    | none => exact iff_of_false (by simp) (by simp)
    | some count => exact iff_of_true ⟨count, rfl⟩ (Option.some_ne_none count)

/-- A clone set that counts its replicas but does not say how many it wants. -/
def countedCloneSet (total updated : Int) : Manifest where
  types := some ⟨"apps.kruise.io/v1alpha1", "CloneSet"⟩
  metadata := { name := some "podinfo", ns := some "prod", generation := some 1 }
  body := .obj [
    ("spec", .obj []),
    ("status", .obj [
      ("observedGeneration", .int 1),
      ("replicas", .int total),
      ("updatedReplicas", .int updated)])]

/-- Of five replicas of which three are updated, two are left. -/
theorem readiness_terminating_exact_iff_two :
    (countedCloneSet 5 3).readiness 600 default = .ok (.retry (.terminating 2)) ∧
      ∃ total updated : Int64, (countedCloneSet 5 3).Terminating total updated ∧
        (2 : Int64).toInt = total.toInt - updated.toInt := by
  have hverdict : (countedCloneSet 5 3).readiness 600 default = .ok (.retry (.terminating 2)) := by decide +kernel
  exact ⟨hverdict, ((readiness_terminating_exact_iff _ _ _).1 true 2 hverdict).2⟩

/-- With one replica less than none updated and as many in all as can be, there is no verdict: one more would be left
than the largest number of 64 bits. -/
theorem readiness_terminating_overflows :
    (countedCloneSet 9223372036854775807 (-1)).Terminating 9223372036854775807 (-1) ∧
    (9223372036854775807 : Int64).toInt - (-1 : Int64).toInt = 9223372036854775808 ∧
    (countedCloneSet 9223372036854775807 (-1)).readiness 600 default = .error .overflow := by
  refine ⟨⟨⟨⟨1, by decide +kernel, by decide +kernel⟩, ?_, by decide +kernel, by decide +kernel⟩, ?_, by decide⟩,
    by decide, by decide +kernel⟩
  · exact mt gaveUp_iff.2 (by decide +kernel)
  · have hnone : (countedCloneSet 9223372036854775807 (-1)).desiredReplicas = none := by decide +kernel
    simp [hnone]

end Rollout.Manifest
