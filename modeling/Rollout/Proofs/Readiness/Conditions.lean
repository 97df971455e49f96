/-
What the conditions of a deployment do to its verdict. The list of conditions is read as a whole: an entry that can be
read counts for its own type only (`Manifest.condition?_insert`), and one that cannot takes all the others with it
(`Manifest.conditions_of_unreadable`), and with them every reason to give a deployment up or to have no verdict on it
for the calendar (`Manifest.readiness_cleared_iff`). Main statement: `Manifest.readiness_foreign_iff`, an entry of
another type leaves what the verdict is, or that there is none, if and only if it can be read or there was nothing for
it to hide.
-/
import Rollout.Proofs.Json.Path
import Rollout.Proofs.Readiness

namespace Rollout

open Json

/-! ## Reading a list of conditions -/

/-- An object as an entry of the conditions, of a type that no verdict asks for. -/
structure Json.IsForeign (e : Json) : Prop where
  object : ∃ members, e = .obj members
  progressing : e.get? "type" ≠ some (.str "Progressing")
  available : e.get? "type" ≠ some (.str "Available")

/-- An entry of a type of its own. -/
theorem Json.isForeign_of_type {members : List (String × Json)} {type : String}
    (h : (obj members).get? "type" = some (.str type)) (hprogressing : type ≠ "Progressing")
    (havailable : type ≠ "Available") : (obj members).IsForeign := by
  refine ⟨⟨members, rfl⟩, ?_, ?_⟩
  · rw [h]
    simpa using hprogressing
  · rw [h]
    simpa using havailable

namespace Condition

theorem get?_type {members : List (String × Json)} {c : Condition} (h : ofJson? (.obj members) = some c) :
    (obj members).get? "type" = some (.str c.type) := by
  unfold ofJson? at h
  simp only [record?, Option.bind_eq_bind, Option.bind_eq_some_iff, Option.pure_def, Option.some.injEq] at h
  obtain ⟨_, rfl, type, htype, _, -, _, -, _, -, _, -, _, -, rfl⟩ := h
  obtain ⟨j, hj, htext⟩ := Option.bind_eq_some_iff.1 htype
  cases j
  case str s => cases htext; exact hj
  all_goals cases htext

/-- A foreign entry is of another type than the conditions that are asked for. -/
theorem type_ne {e : Json} (he : e.IsForeign) {c : Condition} (hc : ofJson? e = some c) :
    c.type ≠ "Progressing" ∧ c.type ≠ "Available" := by
  obtain ⟨⟨members, rfl⟩, hprogressing, havailable⟩ := he
  rw [get?_type hc] at hprogressing havailable
  exact ⟨by rintro h; exact hprogressing (by rw [h]), by rintro h; exact havailable (by rw [h])⟩

end Condition

/-- Of a list that is read as a whole, an entry that is read and passed over makes no difference to what is found. -/
theorem Json.find?_list_insert {α : Type} {decode : Json → Option α} {e : Json} {a : α} (he : decode e = some a)
    {p : α → Bool} (hp : p a = false) (before after : List Json) :
    ((list? decode (.arr (before ++ e :: after))).getD []).find? p =
      ((list? decode (.arr (before ++ after))).getD []).find? p := by
  simp only [list?, List.mapM_append, List.mapM_cons, he, Option.bind_eq_bind, Option.bind_some]
  cases before.mapM decode with
  | none => rfl
  | some front =>
    cases after.mapM decode with
    | none => rfl
    | some back => simp [List.find?_append, hp]

/-- One entry that cannot be read spoils the list. -/
theorem Json.list?_unreadable {α : Type} {decode : Json → Option α} {e : Json} (he : decode e = none)
    (before after : List Json) : list? decode (.arr (before ++ e :: after)) = none := by
  simp only [list?, List.mapM_append, List.mapM_cons, he, Option.bind_eq_bind, Option.bind_none]
  cases before.mapM decode <;> rfl

namespace Manifest

/-! ## Objects that differ in their conditions -/

/-- The object with these conditions listed in its status. -/
def withConditions (m : Manifest) (items : List Json) : Manifest :=
  { m with body := m.body.update (·.set "conditions" (.arr items)) ["status"] }

/-- The entries of the conditions, as they are listed. -/
def ListsConditions (m : Manifest) (items : List Json) : Prop :=
  m.body.path? ["status", "conditions"] = some (.arr items)

/-- All that a verdict looks at, apart from the conditions, is the same. -/
structure Agrees (m m' : Manifest) : Prop where
  kind : m'.kind = m.kind
  name : m'.name = m.name
  generation : m'.generation = m.generation
  numbers : ∀ first last, (first, last) ≠ ("status", "conditions") → m'.number? [first, last] = m.number? [first, last]

variable {m m' : Manifest} {items before after : List Json} {e : Json} {deadline : Int32} {now : Instant}

theorem Agrees.symm (h : m.Agrees m') : m'.Agrees m :=
  ⟨h.kind.symm, h.name.symm, h.generation.symm, fun first last hne => (h.numbers first last hne).symm⟩

theorem listsConditions_withConditions (m : Manifest) (items : List Json) :
    (m.withConditions items).ListsConditions items := by
  unfold ListsConditions withConditions
  rw [path?_cons, update, get?_set, if_pos rfl, Option.bind_some, path?_singleton, update, get?_set, if_pos rfl]

theorem agrees_withConditions (m : Manifest) (items : List Json) : m.Agrees (m.withConditions items) := by
  refine ⟨rfl, rfl, rfl, fun first last hne => ?_⟩
  unfold number? withConditions
  rw [path?_cons, path?_cons, update, get?_set]
  by_cases hfirst : first = "status"
  · subst hfirst
    have hlast : last ≠ "conditions" := fun hlast => hne (by rw [hlast])
    rw [if_pos rfl, Option.bind_some, path?_singleton, update, get?_set, if_neg hlast, get?_eq_lookup,
      membersOrNone_obj, ← get?_eq_lookup]
    cases m.body.get? "status" with
    | none => rfl
    | some status => rw [Option.getD_some, Option.bind_some, path?_singleton]
  · rw [if_neg hfirst]

theorem Agrees.observedGeneration (h : m.Agrees m') : m'.observedGeneration = m.observedGeneration :=
  h.numbers _ _ (by decide)

theorem Agrees.observed_iff (h : m.Agrees m') : m'.Observed ↔ m.Observed := by
  unfold Observed
  rw [h.observedGeneration, h.generation]

theorem Agrees.counters (h : m.Agrees m') : m'.desiredReplicas = m.desiredReplicas ∧
    m'.totalReplicas = m.totalReplicas ∧ m'.updatedReplicas = m.updatedReplicas ∧
    m'.availableReplicas = m.availableReplicas := by
  unfold desiredReplicas totalReplicas updatedReplicas availableReplicas Manifest.counters
  rw [h.kind]
  split_ifs
  · exact ⟨h.numbers _ _ (by decide), h.numbers _ _ (by decide), h.numbers _ _ (by decide), h.numbers _ _ (by decide)⟩
  · exact ⟨h.numbers _ _ (by decide), h.numbers _ _ (by decide), h.numbers _ _ (by decide), h.numbers _ _ (by decide)⟩

theorem Agrees.rolloutCounters (h : m.Agrees m') : m'.rolloutCounters = m.rolloutCounters := by
  obtain ⟨-, htotal, hupdated, -⟩ := h.counters
  unfold Manifest.rolloutCounters hasTypedStatus
  rw [h.kind, htotal, hupdated]

/-- Of the conditions the verdict on the counters depends on whether the deployment is stalled, and only while
replicas are being updated. -/
theorem Agrees.countersVerdict (h : m.Agrees m') {total updated : Int64}
    (hstalled : ∀ desired, m.desiredReplicas = some desired → updated < desired →
      m'.isStalled deadline now = m.isStalled deadline now) :
    m'.countersVerdict total updated deadline now = m.countersVerdict total updated deadline now := by
  obtain ⟨hdesired, -, -, havailable⟩ := h.counters
  unfold Manifest.countersVerdict knownAvailable hasTypedStatus
  rw [h.kind, hdesired, havailable]
  cases hshort : m.desiredReplicas.filter (updated < ·) with
  | none => rfl
  | some desired =>
    obtain ⟨hd, hlt⟩ := Option.filter_eq_some_iff.1 hshort
    dsimp only
    rw [hstalled desired hd (of_decide_eq_true hlt)]

/-- The verdict is the same where the two conditions that are asked for are. -/
theorem Agrees.readiness (h : m.Agrees m') (hprogressing : m'.condition? "Progressing" = m.condition? "Progressing")
    (havailable : m'.condition? "Available" = m.condition? "Available") (deadline : Int32) (now : Instant) :
    m'.readiness deadline now = m.readiness deadline now := by
  have hgaveUp : m'.gaveUp = m.gaveUp := by
    unfold gaveUp hasRichConditions
    rw [h.kind, hprogressing]
  have hstalled : m'.isStalled deadline now = m.isStalled deadline now := by
    unfold isStalled shortSince? hasRichConditions
    rw [h.kind, havailable]
  have hcounters : ∀ total updated, m'.countersVerdict total updated deadline now =
      m.countersVerdict total updated deadline now := fun _ _ => h.countersVerdict fun _ _ _ => hstalled
  unfold Manifest.readiness
  simp only [h.observedGeneration, h.generation, h.kind, h.name, hgaveUp, h.rolloutCounters, hcounters]

/-! ## What is found in a list -/

theorem conditions_eq (h : m.ListsConditions items) :
    m.conditions = (list? Condition.ofJson? (.arr items)).getD [] := by
  unfold conditions
  rw [h, Option.bind_some]

/-- An entry that can be read counts for its own type only. -/
theorem condition?_insert (h : m.ListsConditions (before ++ after)) (h' : m'.ListsConditions (before ++ e :: after))
    {c : Condition} (hc : Condition.ofJson? e = some c) {type : String} (htype : c.type ≠ type) :
    m'.condition? type = m.condition? type := by
  unfold condition?
  rw [conditions_eq h, conditions_eq h']
  exact find?_list_insert hc (by simpa using htype) before after

/-- Next to an entry that cannot be read there are no conditions. -/
theorem conditions_of_unreadable (h : m.ListsConditions (before ++ e :: after)) (he : Condition.ofJson? e = none) :
    m.conditions = [] := by
  rw [conditions_eq h, list?_unreadable he]
  rfl

/-! ## Without conditions -/

/-- The deployment is not beyond hope, and it is not that the calendar does not reach the time at which it would be. -/
structure Spared (m : Manifest) (deadline : Int32) (now : Instant) : Prop where
  going : ∀ reason, m.readiness deadline now ≠ .ok (.fatal reason)
  reached : m.readiness deadline now ≠ .error .calendar

/-- What has no conditions and need not publish its counters is spared once a generation of it has been observed. -/
theorem spared_of_no_conditions (hkind : m.kind = "Deployment") (hconditions : m.conditions = [])
    (hgeneration : m.observedGeneration ≠ none) : m.Spared deadline now := by
  have hshows : ∀ type like, ¬ m.Shows type like := by
    rintro type like ⟨-, c, hc, -⟩
    unfold condition? at hc
    rw [hconditions] at hc
    cases hc
  constructor
  · intro reason hfatal
    have hhope : m.Hopeless deadline now := ((m.readiness_verdict deadline now).2.1.1 ⟨reason, hfatal⟩).1
    cases hhope with
    | unobserved h => exact hgeneration h
    | gaveUp _ h => exact hshows _ _ h
    | uncounted _ h => exact h (by rw [hkind]; decide)
    | stalled _ _ _ _ h => exact hshows _ _ h
  · rw [Ne, readiness_eq_error_iff]
    intro hcrashes
    cases hcrashes with
    | calendar _ _ _ h => exact hshows _ _ h

/-- Without conditions nothing is given up or stalled. -/
theorem flags_of_no_conditions (hconditions : m.conditions = []) (deadline : Int32) (now : Instant) :
    m.gaveUp = false ∧ m.isStalled deadline now = .ok false := by
  have hcleared : ∀ type, m.condition? type = none := by
    intro type
    unfold condition?
    rw [hconditions]
    rfl
  refine ⟨?_, ?_⟩
  · unfold gaveUp
    rw [hcleared]
    exact Bool.and_false _
  · unfold isStalled shortSince?
    rw [hcleared, Option.bind_none, ite_self]

/-- What has lost its conditions is judged as before if it was spared. -/
theorem Agrees.readiness_cleared (h : m.Agrees m') (hconditions : m'.conditions = [])
    (hspared : m.Spared deadline now) : m'.readiness deadline now = m.readiness deadline now := by
  obtain ⟨hgaveUp, hstalled⟩ := flags_of_no_conditions hconditions deadline now
  obtain ⟨hgoing, hreached⟩ := hspared
  unfold Manifest.readiness at hgoing hreached ⊢
  rw [h.observedGeneration, h.generation, hgaveUp, h.rolloutCounters, h.kind]
  cases hobserved : m.observedGeneration with
  | none => rfl
  | some observed =>
    rw [hobserved] at hgoing hreached
    dsimp only at hgoing hreached ⊢
    by_cases hbehind : observed < m.generation
    · rw [if_pos hbehind, if_pos hbehind]
    rw [if_neg hbehind, if_neg Bool.false_ne_true]
    rw [if_neg hbehind] at hgoing hreached ⊢
    by_cases hgone : m.gaveUp = true
    · rw [if_pos hgone] at hgoing
      exact absurd rfl (hgoing _)
    rw [if_neg hgone] at hgoing hreached ⊢
    cases hcounters : m.rolloutCounters with
    | error field => rfl
    | ok counters =>
      rw [hcounters] at hgoing hreached
      refine h.countersVerdict fun desired hdesired hlt => ?_
      -- while replicas are being updated, what is stalled is given up, and what cannot be told has no verdict
      rw [hstalled]
      have hverdict := hgoing (.updating counters.2 desired)
      dsimp only at hverdict hreached
      rw [countersVerdict_of_lt hdesired hlt] at hverdict hreached
      rcases m.isStalled_cases deadline now with ⟨hflag, -⟩ | ⟨stalled, hflag, -⟩
      · rw [hflag] at hreached
        exact absurd rfl hreached
      · rw [hflag] at hverdict ⊢
        cases stalled with
        | false => rfl
        | true => exact absurd rfl hverdict

/-- A deployment that has lost its conditions is judged as before, unless its verdict came from them. -/
theorem readiness_cleared_iff (h : m.Agrees m') (hkind : m.kind = "Deployment") (hconditions : m'.conditions = []) :
    m'.readiness deadline now = m.readiness deadline now ↔ m.observedGeneration = none ∨ m.Spared deadline now := by
  by_cases hgeneration : m.observedGeneration = none
  · refine iff_of_true ?_ (.inl hgeneration)
    unfold readiness
    rw [h.observedGeneration, hgeneration, h.kind]
  · constructor
    · intro heq
      have hspared : m'.Spared deadline now := spared_of_no_conditions (h.kind.trans hkind) hconditions
        (by rw [h.observedGeneration]; exact hgeneration)
      exact .inr ⟨heq ▸ hspared.going, heq ▸ hspared.reached⟩
    · intro hspared
      exact h.readiness_cleared hconditions (hspared.resolve_left hgeneration)

/-! ## Foreign entries -/

/-- An entry next to these conditions leaves the verdict on the object, or that there is none, as it is. -/
def Tolerates (m : Manifest) (deadline : Int32) (now : Instant) (e : Json) : Prop :=
  (Condition.ofJson? e).isSome = true ∨ m.observedGeneration = none ∨ m.Spared deadline now

/-- Of two deployments that differ in one foreign entry of their conditions. -/
theorem readiness_entry_iff (hagrees : m.Agrees m') (hkind : m.kind = "Deployment")
    (h : m.ListsConditions (before ++ after)) (h' : m'.ListsConditions (before ++ e :: after)) (he : e.IsForeign) :
    m'.readiness deadline now = m.readiness deadline now ↔ m.Tolerates deadline now e := by
  unfold Tolerates
  cases hc : Condition.ofJson? e with
  | some c =>
    obtain ⟨hprogressing, havailable⟩ := Condition.type_ne he hc
    exact iff_of_true (hagrees.readiness (condition?_insert h h' hc hprogressing) (condition?_insert h h' hc havailable)
      deadline now) (.inl rfl)
  | none =>
    rw [readiness_cleared_iff hagrees hkind (conditions_of_unreadable h' hc)]
    simp

/-- For every deployment, deadline and time: a foreign entry that is put between two others, or taken from between
them, leaves the verdict as it is, or that there is none, if and only if the deployment without it tolerates it. -/
theorem readiness_foreign_iff (m : Manifest) (deadline : Int32) (now : Instant) (before after : List Json) {e : Json}
    (hkind : m.kind = "Deployment") (he : e.IsForeign) :
    (m.ListsConditions (before ++ after) →
      ((m.withConditions (before ++ e :: after)).readiness deadline now = m.readiness deadline now ↔
        m.Tolerates deadline now e)) ∧
    (m.ListsConditions (before ++ e :: after) →
      ((m.withConditions (before ++ after)).readiness deadline now = m.readiness deadline now ↔
        (m.withConditions (before ++ after)).Tolerates deadline now e)) := by
  constructor
  · intro h
    exact readiness_entry_iff (m.agrees_withConditions _) hkind h (m.listsConditions_withConditions _) he
  · intro h
    rw [eq_comm]
    exact readiness_entry_iff (m.agrees_withConditions _).symm hkind (m.listsConditions_withConditions _) h he

/-- A deployment of two replicas that was given up at its progress deadline. -/
def overdueDeployment : Manifest where
  types := some ⟨"apps/v1", "Deployment"⟩
  metadata := { name := some "podinfo", ns := some "prod", generation := some 1 }
  body := .obj [
    ("spec", .obj [("replicas", .int 2)]),
    ("status", .obj [
      ("availableReplicas", .int 2),
      ("conditions", .arr [.obj [
        ("reason", .str "ProgressDeadlineExceeded"),
        ("status", .str "False"),
        ("type", .str "Progressing")]]),
      ("observedGeneration", .int 1),
      ("replicas", .int 2),
      ("updatedReplicas", .int 2)])]

/-- A condition of a controller of its own, which can be read. -/
def guardCondition : Json := .obj [("status", .str "True"), ("type", .str "Guarded")]

/-- The same condition without its status, which can not. -/
def brokenCondition : Json := .obj [("type", .str "Guarded")]

theorem guardCondition_isForeign : guardCondition.IsForeign := isForeign_of_type rfl (by decide) (by decide)

theorem brokenCondition_isForeign : brokenCondition.IsForeign := isForeign_of_type rfl (by decide) (by decide)

/-- Next to a condition that can be read the deployment stays given up, and next to one that can not it does not. -/
theorem readiness_foreign_iff_overdue : ∃ progressing : Json, overdueDeployment.ListsConditions [progressing] ∧
    (overdueDeployment.withConditions [progressing, guardCondition]).readiness 600 default =
      overdueDeployment.readiness 600 default ∧
    (overdueDeployment.withConditions [progressing, brokenCondition]).readiness 600 default ≠
      overdueDeployment.readiness 600 default := by
  have hlists : overdueDeployment.ListsConditions _ := rfl
  refine ⟨_, hlists, ?_, ?_⟩
  · refine ((readiness_foreign_iff _ _ _ [_] [] (by decide) guardCondition_isForeign).1 hlists).2 (.inl ?_)
    decide +kernel
  · refine ((readiness_foreign_iff _ _ _ [_] [] (by decide) brokenCondition_isForeign).1 hlists).not.2 ?_
    rintro (hread | hunobserved | hspared)
    · exact absurd hread (by decide +kernel)
    · exact absurd hunobserved (by decide +kernel)
    · exact hspared.going (.deadlineExceeded "podinfo") (by decide +kernel)

/-- So a foreign condition can make a deployment ready that has exceeded its progress deadline. -/
theorem readiness_foreign_hides : ∃ progressing : Json, overdueDeployment.ListsConditions [progressing] ∧
    brokenCondition.IsForeign ∧
    overdueDeployment.readiness 600 default = .ok (.fatal (.deadlineExceeded "podinfo")) ∧
    (overdueDeployment.withConditions [progressing, brokenCondition]).readiness 600 default = .ok .ready :=
  ⟨_, rfl, brokenCondition_isForeign, by decide +kernel, by decide +kernel⟩

end Manifest

end Rollout
