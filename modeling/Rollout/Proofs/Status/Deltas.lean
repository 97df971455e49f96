/-
Deltas one after the other. Main statements: `StatusDelta.applyAll_leaves`, what any number of deltas leaves of a
status, field by field: the last delta that has a say in a field decides it, and for the promoted spec and the time of
the last transition that depends on the phase and the spec in force; `StatusDelta.apply_comm_iff`, deltas that set no
field in common can be applied in either order, unless one of them promotes the spec that the other sets.
-/
import Rollout.Proofs.Status.Sync

namespace Rollout

/-! ## What is set last -/

section LastSet

variable {α β : Type} {sets : List α → α → Option β} {l : List α} {a : α}

/-- What the last entry of a list that sets a value sets it to. What an entry sets it to may depend on those before
it. -/
def lastSet? (sets : List α → α → Option β) (l : List α) : Option β :=
  ((l.mapIdx fun i a => sets (l.take i) a).filterMap id).getLast?

theorem lastSet?_append_singleton : lastSet? sets (l ++ [a]) = (sets l a).or (lastSet? sets l) := by
  have hearlier : (l.mapIdx fun i a' => sets ((l ++ [a]).take i) a') = l.mapIdx fun i a' => sets (l.take i) a' := by
    rw [List.mapIdx_eq_mapIdx_iff]
    intro i hi
    rw [List.take_append_of_le_length hi.le]
  unfold lastSet?
  rw [List.mapIdx_concat, hearlier, List.take_left]
  cases sets l a <;> simp

end LastSet

attribute [ext] CanaryStatus

namespace StatusDelta

/-! ## One delta -/

section Fields

variable (d : StatusDelta) (s : CanaryStatus) (now : Instant)

theorem phase_apply_or : (d.apply s now).phase = d.phase.or s.phase := Option.orElse_eq_or

theorem lastAppliedSpec_apply : (d.apply s now).lastAppliedSpec = d.lastAppliedSpec.or s.lastAppliedSpec :=
  Option.orElse_eq_or

theorem trackedConfigs_apply : (d.apply s now).trackedConfigs =
    d.trackedConfigs.elim s.trackedConfigs fun configs => if configs.isEmpty then none else some configs := by
  unfold apply
  cases d.trackedConfigs <;> rfl

theorem lastTransitionTime_apply : (d.apply s now).lastTransitionTime =
    if d.phase ≠ none ∧ d.phase ≠ s.phase then some now.text else s.lastTransitionTime := by
  show d.transitionTime s now = _
  rw [transitionTime_eq]
  cases d.phase with
  | none => simp
  | some phase => by_cases hsame : some phase = s.phase <;> simp [hsame]

theorem lastPromotedSpec_apply : (d.apply s now).lastPromotedSpec =
    if d.phase = some .succeeded ∨ d.phase = some .initialized then
      (d.apply s now).lastAppliedSpec.or s.lastPromotedSpec
    else s.lastPromotedSpec := by
  unfold apply reachesStablePhase
  simp only [Bool.or_eq_true, decide_eq_true_eq, Option.orElse_eq_or]

end Fields

/-! ## Deltas in order -/

/-- A status after deltas, each applied at its time. -/
def applyAll (s : CanaryStatus) (deltas : List (StatusDelta × Instant)) : CanaryStatus :=
  deltas.foldl (fun s (d, now) => d.apply s now) s

/-- The phase in force after deltas. -/
def phaseAfter (s : CanaryStatus) (deltas : List (StatusDelta × Instant)) : Option Phase :=
  (lastSet? (fun _ e => e.1.phase) deltas).or s.phase

/-- The applied spec in force after deltas. -/
def appliedAfter (s : CanaryStatus) (deltas : List (StatusDelta × Instant)) : Option String :=
  (lastSet? (fun _ e => e.1.lastAppliedSpec) deltas).or s.lastAppliedSpec

/-- A delta marks a transition at its time if its phase differs from the one in force before it. -/
def transition? (s : CanaryStatus) (earlier : List (StatusDelta × Instant)) (e : StatusDelta × Instant) :
    Option String :=
  if e.1.phase ≠ none ∧ e.1.phase ≠ phaseAfter s earlier then some e.2.text else none

/-- A delta that succeeds or initializes promotes the applied spec in force after it, if there is one. -/
def promotion? (s : CanaryStatus) (earlier : List (StatusDelta × Instant)) (e : StatusDelta × Instant) :
    Option String :=
  if e.1.phase = some .succeeded ∨ e.1.phase = some .initialized then appliedAfter s (earlier ++ [e]) else none

/-- What deltas leave of a status: of each field, what the last delta that sets it sets it to, or what it was. -/
structure Leaves (s : CanaryStatus) (deltas : List (StatusDelta × Instant)) (after : CanaryStatus) : Prop where
  phase : after.phase = phaseAfter s deltas
  canaryWeight : after.canaryWeight = (lastSet? (fun _ e => e.1.canaryWeight) deltas).getD s.canaryWeight
  failedChecks : after.failedChecks = (lastSet? (fun _ e => e.1.failedChecks) deltas).getD s.failedChecks
  iterations : after.iterations = (lastSet? (fun _ e => e.1.iterations) deltas).getD s.iterations
  lastAppliedSpec : after.lastAppliedSpec = appliedAfter s deltas
  /-- The last map, or nothing where it is empty. -/
  trackedConfigs : after.trackedConfigs =
    ((lastSet? (fun _ e => e.1.trackedConfigs) deltas).elim s.trackedConfigs fun configs =>
      if configs.isEmpty then none else some configs)
  lastTransitionTime : after.lastTransitionTime = (lastSet? (transition? s) deltas).or s.lastTransitionTime
  lastPromotedSpec : after.lastPromotedSpec = (lastSet? (promotion? s) deltas).or s.lastPromotedSpec

section Runs

variable {s : CanaryStatus} {deltas : List (StatusDelta × Instant)} {d : StatusDelta} {now : Instant}

theorem applyAll_append_singleton : applyAll s (deltas ++ [(d, now)]) = d.apply (applyAll s deltas) now := by
  unfold applyAll
  rw [List.foldl_append]
  rfl

theorem phaseAfter_append_singleton : phaseAfter s (deltas ++ [(d, now)]) = d.phase.or (phaseAfter s deltas) := by
  unfold phaseAfter
  rw [lastSet?_append_singleton, Option.or_assoc]

theorem appliedAfter_append_singleton :
    appliedAfter s (deltas ++ [(d, now)]) = d.lastAppliedSpec.or (appliedAfter s deltas) := by
  unfold appliedAfter
  rw [lastSet?_append_singleton, Option.or_assoc]

/-- Of a number that deltas set the last value counts. -/
theorem getD_or {a b : Option Int32} {c : Int32} : (a.or b).getD c = a.getD (b.getD c) := by cases a <;> rfl

/-- One more delta leaves what it sets, and of the rest what was left before it. -/
theorem Leaves.append_singleton {before : CanaryStatus} (h : Leaves s deltas before) (d : StatusDelta) (now : Instant) :
    Leaves s (deltas ++ [(d, now)]) (d.apply before now) where
  phase := by rw [phaseAfter_append_singleton, ← h.phase, phase_apply_or]
  canaryWeight := by
    rw [lastSet?_append_singleton, getD_or, ← h.canaryWeight]
    rfl
  failedChecks := by
    rw [lastSet?_append_singleton, getD_or, ← h.failedChecks]
    rfl
  iterations := by
    rw [lastSet?_append_singleton, getD_or, ← h.iterations]
    rfl
  lastAppliedSpec := by rw [appliedAfter_append_singleton, ← h.lastAppliedSpec, lastAppliedSpec_apply]
  trackedConfigs := by
    rw [lastSet?_append_singleton, trackedConfigs_apply, h.trackedConfigs]
    cases d.trackedConfigs <;> rfl
  lastTransitionTime := by
    rw [lastSet?_append_singleton, Option.or_assoc, ← h.lastTransitionTime, lastTransitionTime_apply]
    unfold transition?
    rw [← h.phase]
    split <;> rfl
  lastPromotedSpec := by
    rw [lastSet?_append_singleton, Option.or_assoc, ← h.lastPromotedSpec, lastPromotedSpec_apply,
      lastAppliedSpec_apply]
    unfold promotion?
    rw [appliedAfter_append_singleton, ← h.lastAppliedSpec]
    split <;> rfl

/-- Whatever deltas are applied to a status one after the other, each at its time, of every field the last of them that
has a say in it decides. -/
theorem applyAll_leaves (s : CanaryStatus) (deltas : List (StatusDelta × Instant)) :
    Leaves s deltas (applyAll s deltas) := by
  induction deltas using List.reverseRecOn with
  | nil => exact ⟨rfl, rfl, rfl, rfl, rfl, rfl, rfl, rfl⟩
  | append_singleton deltas last ih =>
    rw [applyAll_append_singleton]
    exact ih.append_singleton last.1 last.2

/-- A success promotes the spec that is in force then, and not the one that is synced after it. -/
example : (applyAll {} [({ phase := some .succeeded, lastAppliedSpec := some "v1" }, now),
    ({ lastAppliedSpec := some "v2" }, now)]).lastPromotedSpec = some "v1" := rfl

end Runs

/-! ## Deltas in either order -/

/-- No field is set by both deltas. -/
structure Apart (d e : StatusDelta) : Prop where
  phase : d.phase = none ∨ e.phase = none
  canaryWeight : d.canaryWeight = none ∨ e.canaryWeight = none
  failedChecks : d.failedChecks = none ∨ e.failedChecks = none
  iterations : d.iterations = none ∨ e.iterations = none
  trackedConfigs : d.trackedConfigs = none ∨ e.trackedConfigs = none
  lastAppliedSpec : d.lastAppliedSpec = none ∨ e.lastAppliedSpec = none

/-- One delta succeeds or initializes, and so promotes the applied spec, which the other sets. -/
def Promotes (d e : StatusDelta) : Prop :=
  (d.phase = some .succeeded ∨ d.phase = some .initialized) ∧ e.lastAppliedSpec ≠ none

section Commute

variable {d e : StatusDelta}

theorem Apart.symm (h : d.Apart e) : e.Apart d :=
  ⟨h.phase.symm, h.canaryWeight.symm, h.failedChecks.symm, h.iterations.symm, h.trackedConfigs.symm,
    h.lastAppliedSpec.symm⟩

theorem or_left_comm {α : Type} {a b : Option α} (h : a = none ∨ b = none) (c : Option α) :
    a.or (b.or c) = b.or (a.or c) := by
  rcases h with rfl | rfl <;> rfl

theorem getD_left_comm {α : Type} {a b : Option α} (h : a = none ∨ b = none) (c : α) :
    a.getD (b.getD c) = b.getD (a.getD c) := by
  rcases h with rfl | rfl <;> rfl

/-- The delta without a phase comes before or after the one that may have one. -/
theorem lastTransitionTime_comm (h : d.phase = none) (s : CanaryStatus) (t u : Instant) :
    (e.apply (d.apply s t) u).lastTransitionTime = (d.apply (e.apply s u) t).lastTransitionTime := by
  simp [lastTransitionTime_apply, phase_apply_or, h]

/-- So does the delta without an applied spec of its own, if it is not the one that promotes. -/
theorem lastPromotedSpec_comm (hphase : d.phase = none) (h : ¬ e.Promotes d) (s : CanaryStatus) (t u : Instant) :
    (e.apply (d.apply s t) u).lastPromotedSpec = (d.apply (e.apply s u) t).lastPromotedSpec := by
  simp only [lastPromotedSpec_apply, lastAppliedSpec_apply, hphase, reduceCtorEq, or_self, if_false]
  split
  · rename_i hstable
    have hnone : d.lastAppliedSpec = none := by
      by_contra hsome
      exact h ⟨hstable, hsome⟩
    rw [hnone, Option.none_or]
  · rfl

/-- Deltas that set no field in common can be applied in either order, if neither promotes what the other sets. -/
theorem apply_comm (h : d.Apart e) (hd : ¬ d.Promotes e) (he : ¬ e.Promotes d) (s : CanaryStatus) (t u : Instant) :
    e.apply (d.apply s t) u = d.apply (e.apply s u) t := by
  -- one of the two has no phase, and leaves the fields that depend on it to the other
  have hderived : (e.apply (d.apply s t) u).lastTransitionTime = (d.apply (e.apply s u) t).lastTransitionTime ∧
      (e.apply (d.apply s t) u).lastPromotedSpec = (d.apply (e.apply s u) t).lastPromotedSpec := by
    rcases h.phase with hphase | hphase
    · exact ⟨lastTransitionTime_comm hphase s t u, lastPromotedSpec_comm hphase he s t u⟩
    · exact ⟨(lastTransitionTime_comm hphase s u t).symm, (lastPromotedSpec_comm hphase hd s u t).symm⟩
  apply CanaryStatus.ext
  case phase =>
    simp only [phase_apply_or]
    exact or_left_comm h.phase.symm s.phase
  case canaryWeight => exact getD_left_comm h.canaryWeight.symm s.canaryWeight
  case failedChecks => exact getD_left_comm h.failedChecks.symm s.failedChecks
  case iterations => exact getD_left_comm h.iterations.symm s.iterations
  case trackedConfigs =>
    simp only [trackedConfigs_apply]
    rcases h.trackedConfigs with hnone | hnone <;> rw [hnone] <;> rfl
  case lastAppliedSpec =>
    simp only [lastAppliedSpec_apply]
    exact or_left_comm h.lastAppliedSpec.symm s.lastAppliedSpec
  case lastPromotedSpec => exact hderived.2
  case lastTransitionTime => exact hderived.1

/-- Where one promotes what the other sets, a status without specs shows which came first. -/
theorem apply_not_comm (h : d.Apart e) (hd : d.Promotes e) (t u : Instant) :
    e.apply (d.apply {} t) u ≠ d.apply (e.apply {} u) t := by
  obtain ⟨hstable, happlied⟩ := hd
  have hunset : d.lastAppliedSpec = none := h.lastAppliedSpec.resolve_right happlied
  have hphase : e.phase = none := h.phase.resolve_left fun hnone => by simp [hnone] at hstable
  intro hsame
  have hpromoted := congrArg CanaryStatus.lastPromotedSpec hsame
  simp only [lastPromotedSpec_apply, lastAppliedSpec_apply, if_pos hstable, hphase, hunset, reduceCtorEq, or_self,
    if_false, Option.none_or, Option.or_none] at hpromoted
  exact happlied hpromoted.symm

/-- Deltas that set no field in common leave the same status in either order, whatever it was before and whenever each
is applied, exactly if neither succeeds or initializes while the other sets the applied spec. -/
theorem apply_comm_iff (h : d.Apart e) :
    (∀ s t u, e.apply (d.apply s t) u = d.apply (e.apply s u) t) ↔ ¬ (d.Promotes e ∨ e.Promotes d) := by
  constructor
  · rintro hcomm (hd | he)
    · exact apply_not_comm h hd default default (hcomm {} default default)
    · exact apply_not_comm h.symm he default default (hcomm {} default default).symm
  · intro hnot s t u
    exact apply_comm h (fun hd => hnot (.inl hd)) (fun he => hnot (.inr he)) s t u

/-- A success and a synced spec do not commute, a start and a synced spec do. -/
theorem apply_comm_iff_synced :
    (¬ ∀ s t u, apply { lastAppliedSpec := some "v2" } (apply { phase := some .succeeded } s t) u =
      apply { phase := some .succeeded } (apply { lastAppliedSpec := some "v2" } s u) t) ∧
    ∀ s t u, apply { lastAppliedSpec := some "v2" } (apply { phase := some .progressing } s t) u =
      apply { phase := some .progressing } (apply { lastAppliedSpec := some "v2" } s u) t := by
  constructor
  · rw [apply_comm_iff ⟨.inr rfl, .inl rfl, .inl rfl, .inl rfl, .inl rfl, .inl rfl⟩]
    simp [Promotes]
  · rw [apply_comm_iff ⟨.inr rfl, .inl rfl, .inl rfl, .inl rfl, .inl rfl, .inl rfl⟩]
    simp [Promotes]

end Commute

end StatusDelta

end Rollout
