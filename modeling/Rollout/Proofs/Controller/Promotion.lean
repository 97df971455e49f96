/-
Promotion in a store without other writers, whatever the caller's copy is and wherever the store fails. Main statement:
`promote_framed`, a promotion changes the weight of the stored canary and nothing else of it, with one write at most;
a caller that it fails has its old copy, or, if only the last read has failed, the stored canary at full weight. What
one update does in such a store (`Attempts.served`) is proved by induction on its attempts: as long as nothing has been
written the store is the one of the start, and once its delta has been written, whether or not that was acknowledged,
the attempts that are left find nothing to do.
-/
import Rollout.Proofs.Status.Attempts
import Rollout.Proofs.Status.Store

namespace Rollout

open Program

/-! ## A store with one client -/

namespace CanaryStore

variable {k : CanaryObjects} {s t u : CanaryStore k} {ns name : String}

/-- A store answers the requests of a client one after the other, and nobody else writes to it. -/
inductive Served : CanaryStore k → List (Exchange Cluster.interface) → CanaryStore k → Prop
  | nil (s : CanaryStore k) : Served s [] s
  | cons {s t u : CanaryStore k} {r : Cluster.Request} {reply : Cluster.Reply r}
      {log : List (Exchange Cluster.interface)} :
      Answers s r reply t → Served t log u → Served s (⟨r, reply⟩ :: log) u

section Served

variable {r : Cluster.Request} {reply : Cluster.Reply r} {log l₁ l₂ : List (Exchange Cluster.interface)}

theorem served_nil_iff : s.Served [] t ↔ t = s := by
  constructor
  · intro h; cases h; rfl
  · rintro rfl; exact .nil t

theorem served_cons_iff : s.Served (⟨r, reply⟩ :: log) u ↔ ∃ t, Answers s r reply t ∧ t.Served log u := by
  constructor
  · intro h
    cases h with
    | cons hanswer hrest => exact ⟨_, hanswer, hrest⟩
  · rintro ⟨t, hanswer, hrest⟩; exact .cons hanswer hrest

end Served

/-! ### Single answers -/

theorem Answers.read_iff {answer : Except StoreError Canary} : Answers s (.canary ns name) answer t ↔
    t = s ∧ ∀ c, answer = .ok c → s.stored? ns name = some c := by
  constructor
  · intro h
    cases h with
    | read hc => exact ⟨rfl, fun c heq => by cases heq; exact hc⟩
    | unread e => exact ⟨rfl, fun c heq => by cases heq⟩
    | aside _ hnot => exact absurd rfl (hnot ns name)
  · rintro ⟨rfl, h⟩
    cases answer with
    | error e => exact .unread e
    | ok c => exact .read (h c rfl)

theorem Answers.eq_of_aside {r : Cluster.Request} {reply : Cluster.Reply r} (h : Answers s r reply t)
    (hwrite : ∀ c status, r ≠ .writeStatus c status) : t = s := by
  cases h with
  | read | unread | aside => rfl
  | written | unacknowledged | refused => exact absurd rfl (hwrite _ _)

/-- A canary is stored under its own name. -/
def Placed (s : CanaryStore k) (ns name : String) : Prop :=
  ∀ c, s.stored? ns name = some c → c.ns = ns ∧ c.name = name

/-! ### Writes that are not acknowledged -/

/-- From one store to the next the stored canary has been written with a delta, which changes it; that is the only
write. -/
structure Rewritten (s t : CanaryStore k) (ns name : String) (delta : StatusDelta) (now : Instant)
    (before after : Canary) : Prop where
  stored : s.stored? ns name = some before
  leaves : t.stored? ns name = some after
  once : ∃ o, ∃ version ∉ s.issued, t = s.putAt ns name o version ∧
    after = before.written (delta.apply (before.status.getD {}) now) version

/-- A write over the canary that is stored is carried out or not, whatever it is answered; the canary as it then is is
the answer, if that is no error. -/
theorem Answers.rewritten {fresh : Canary} {delta : StatusDelta} {now : Instant} {answer : Except StoreError Canary}
    (h : Answers s (.writeStatus fresh (delta.apply (fresh.status.getD {}) now)) answer t)
    (hfresh : s.stored? ns name = some fresh) (hplaced : s.Placed ns name) :
    (t = s ∧ ∃ e, answer = .error e) ∨
      ∃ after, s.Rewritten t ns name delta now fresh after ∧ ∀ stored, answer = .ok stored → stored = after := by
  obtain ⟨o, ho, hread⟩ := Option.bind_eq_some_iff.1 hfresh
  obtain ⟨hns, hname⟩ := hplaced fresh hfresh
  have hwritten := fun version => k.read_write hread (delta.apply (fresh.status.getD {}) now) version
  have hput : ∀ {version}, version ∉ s.issued →
      s.Rewritten (s.putAt ns name (k.write o fresh (delta.apply (fresh.status.getD {}) now) version) version) ns name
        delta now fresh (fresh.written (delta.apply (fresh.status.getD {}) now) version) := by
    intro version hnew
    refine ⟨hfresh, ?_, _, version, hnew, rfl, rfl⟩
    unfold stored?
    rw [putAt_objects, if_pos ⟨rfl, rfl⟩]
    exact hwritten version
  cases h with
  | refused e => exact .inl ⟨rfl, e, rfl⟩
  | written ho' _ hnew _ hanswer =>
    rw [hns, hname] at ho' ⊢
    obtain rfl := Option.some.inj (ho.symm.trans ho')
    rw [hwritten] at hanswer
    exact .inr ⟨_, hput hnew, fun stored heq => by cases heq; cases hanswer; rfl⟩
  | unacknowledged e ho' _ hnew =>
    rw [hns, hname] at ho' ⊢
    obtain rfl := Option.some.inj (ho.symm.trans ho')
    exact .inr ⟨_, hput hnew, fun stored heq => by cases heq⟩
  | aside _ _ hnot => exact absurd rfl (hnot _ _)

/-- The delta has nothing left to do of what has been rewritten with it. -/
theorem Rewritten.settled {delta : StatusDelta} {now : Instant} {before after : Canary}
    (h : s.Rewritten t ns name delta now before after) (later : Instant) :
    delta.apply (after.status.getD {}) later = after.status.getD {} := by
  obtain ⟨_, _, _, _, rfl⟩ := h.once
  exact delta.apply_apply _ now later

end CanaryStore

/-! ## An update -/

section Update

variable {k : CanaryObjects} {s t : CanaryStore k} {settings : Settings} {ns name : String} {delta : StatusDelta}
  {attempts left : Nat} {log : List (Exchange Cluster.interface)} {r : Except ControllerError Canary}

/-- What an attempt reads is stored, and reading leaves the store. -/
theorem CanaryStore.served_attemptRead {fresh : Canary} {now : Instant}
    {rest : List (Exchange Cluster.interface)} (h : s.Served (attemptRead ns name fresh now ++ rest) t) :
    s.stored? ns name = some fresh ∧ s.Served rest t := by
  obtain ⟨s₁, hread, hlater⟩ := served_cons_iff.1 h
  obtain ⟨rfl, hstored⟩ := Answers.read_iff.1 hread
  obtain ⟨s₂, hclock, hrest⟩ := served_cons_iff.1 hlater
  obtain rfl := hclock.eq_of_aside (by simp)
  exact ⟨hstored fresh rfl, hrest⟩

/-- A read that fails leaves it too. -/
theorem CanaryStore.served_unread {e : StoreError} (h : s.Served [⟨.canary ns name, .error e⟩] t) : t = s := by
  obtain ⟨s₁, hread, hend⟩ := served_cons_iff.1 h
  obtain rfl := served_nil_iff.1 hend
  exact (Answers.read_iff.1 hread).1

/-- After an attempt has written, the store is as it was or has been rewritten. -/
theorem CanaryStore.served_attemptWrite {fresh : Canary} {now : Instant} {answer : Except StoreError Canary}
    {rest : List (Exchange Cluster.interface)} (hplaced : s.Placed ns name)
    (h : s.Served (attemptRead ns name fresh now ++ attemptWrite delta fresh now answer :: rest) t) :
    ∃ s₁, s₁.Served rest t ∧ ((s₁ = s ∧ ∃ e, answer = .error e) ∨
      ∃ after, s.Rewritten s₁ ns name delta now fresh after ∧ ∀ stored, answer = .ok stored → stored = after) := by
  obtain ⟨hfresh, hlater⟩ := served_attemptRead h
  obtain ⟨s₁, hwrite, hrest⟩ := served_cons_iff.1 hlater
  exact ⟨s₁, hrest, hwrite.rewritten hfresh hplaced⟩

/-- Waiting leaves the store. -/
theorem CanaryStore.served_pauseFor {rest : List (Exchange Cluster.interface)}
    (h : s.Served (pauseFor settings left ++ rest) t) : s.Served rest t := by
  unfold pauseFor at h
  split at h
  · obtain ⟨s₁, hpause, hrest⟩ := served_cons_iff.1 h
    obtain rfl := hpause.eq_of_aside (by simp)
    exact hrest
  · exact h

namespace Attempts

/-- Where the delta has nothing left to do, attempts leave the store and end well with nothing but what is stored. -/
theorem served_settled (h : Attempts settings ns name delta attempts left log r) (hserved : s.Served log t)
    {held : Canary} (hheld : s.stored? ns name = some held)
    (hsettled : ∀ now, delta.apply (held.status.getD {}) now = held.status.getD {}) :
    t = s ∧ ∀ stored, r = .ok stored → stored = held := by
  have hnochange : ∀ {fresh now rest}, s.Served (attemptRead ns name fresh now ++ rest) t →
      delta.apply (fresh.status.getD {}) now = fresh.status.getD {} := by
    intro fresh now rest hread
    obtain rfl := Option.some.inj (hheld.symm.trans (CanaryStore.served_attemptRead hread).1)
    exact hsettled now
  cases h with
  | exhausted => exact ⟨CanaryStore.served_nil_iff.1 hserved, fun _ heq => by cases heq⟩
  | unread left e => exact ⟨CanaryStore.served_unread hserved, fun _ heq => by cases heq⟩
  | unchanged left fresh now =>
    rw [← List.append_nil (attemptRead ..)] at hserved
    obtain ⟨hstored, hend⟩ := CanaryStore.served_attemptRead hserved
    refine ⟨CanaryStore.served_nil_iff.1 hend, fun stored heq => ?_⟩
    cases heq
    exact Option.some.inj (hstored.symm.trans hheld)
  | written left fresh now stored hchange => exact absurd (hnochange hserved) hchange
  | refused left fresh now e hchange => exact absurd (hnochange hserved) hchange
  | conflicted left fresh now text log r hchange => exact absurd (hnochange hserved) hchange

/-- Attempts without other writers leave the store, or write the delta once over the canary that is stored. If they end
well it is with the stored canary, on which the delta has nothing left to do. -/
theorem served (h : Attempts settings ns name delta attempts left log r) (hserved : s.Served log t)
    (hplaced : s.Placed ns name) :
    (t = s ∧ ∀ stored, r = .ok stored → s.stored? ns name = some stored ∧
      ∀ now, delta.apply (stored.status.getD {}) now = stored.status.getD {}) ∨
    ∃ now before after, s.Rewritten t ns name delta now before after ∧ ∀ stored, r = .ok stored → stored = after := by
  induction h with
  | exhausted => exact .inl ⟨CanaryStore.served_nil_iff.1 hserved, fun _ heq => by cases heq⟩
  | unread left e => exact .inl ⟨CanaryStore.served_unread hserved, fun _ heq => by cases heq⟩
  | unchanged left fresh now hsame =>
    rw [← List.append_nil (attemptRead ..)] at hserved
    obtain ⟨hstored, hend⟩ := CanaryStore.served_attemptRead hserved
    refine .inl ⟨CanaryStore.served_nil_iff.1 hend, fun stored heq => ?_⟩
    cases heq
    exact ⟨hstored, StatusDelta.apply_of_eq hsame⟩
  | written left fresh now answered =>
    obtain ⟨s₁, hend, hwritten⟩ := CanaryStore.served_attemptWrite hplaced hserved
    obtain rfl := CanaryStore.served_nil_iff.1 hend
    rcases hwritten with ⟨-, e, herror⟩ | ⟨after, hrewritten, hanswer⟩
    · cases herror
    · refine .inr ⟨now, fresh, after, hrewritten, fun stored heq => ?_⟩
      cases heq
      exact hanswer answered rfl
  | refused left fresh now e =>
    obtain ⟨s₁, hend, hwritten⟩ := CanaryStore.served_attemptWrite hplaced hserved
    obtain rfl := CanaryStore.served_nil_iff.1 hend
    rcases hwritten with ⟨rfl, -⟩ | ⟨after, hrewritten, -⟩
    · exact .inl ⟨rfl, fun _ heq => by cases heq⟩
    · exact .inr ⟨now, fresh, after, hrewritten, fun _ heq => by cases heq⟩
  | conflicted left fresh now text log r _ hlater ih =>
    obtain ⟨s₁, hrest, hwritten⟩ := CanaryStore.served_attemptWrite hplaced hserved
    have hretried := CanaryStore.served_pauseFor hrest
    rcases hwritten with ⟨rfl, -⟩ | ⟨after, hrewritten, -⟩
    · exact ih hretried
    · -- the write was carried out for all that, and the attempts that are left find it done
      obtain ⟨rfl, hok⟩ := hlater.served_settled hretried hrewritten.leaves hrewritten.settled
      exact .inr ⟨now, fresh, after, hrewritten, hok⟩

end Attempts

end Update

/-! ## A promotion -/

section Promote

variable {settings : Settings} {c copy : Canary} {log : List (Exchange Cluster.interface)}

/-- After the status has been recorded: it is read back. -/
def readBack : Except ControllerError Canary × Canary → Program Cluster.interface (Except ControllerError Unit × Canary)
  | (.error e, c) => done (.error e, c)
  | (.ok recorded, _) => .ask (.canary recorded.ns recorded.name) fun
    | .error e => done (.error (.store e), recorded)
    | .ok stored => done (.ok (), stored)

end Promote

/-- From one store to the next the stored canary is at full weight, and all else about it, but for its version, is as it
was; nothing was written, or that once. -/
structure CanaryStore.Promoted {k : CanaryObjects} (s t : CanaryStore k) (ns name : String) (before after : Canary) :
    Prop where
  stored : s.stored? ns name = some before
  leaves : t.stored? ns name = some after
  weight : after.canaryWeight = 100
  status : after.status.getD {} = { before.status.getD {} with canaryWeight := 100 }
  spec : after.spec = before.spec
  metadata : ∃ version, after.metadata = { before.metadata with resourceVersion := version }
  once : t = s ∨ ∃ o, ∃ version ∉ s.issued, t = s.putAt ns name o version

section Framed

variable {k : CanaryObjects} {s t : CanaryStore k} {settings : Settings} {c recorded : Canary}
  {log : List (Exchange Cluster.interface)}

/-- A promoted canary is still stored under its own name. -/
theorem CanaryStore.Promoted.placed {ns name : String} {before after : Canary} (h : s.Promoted t ns name before after)
    (hplaced : s.Placed ns name) : after.ns = ns ∧ after.name = name := by
  obtain ⟨version, hmetadata⟩ := h.metadata
  have hbefore := hplaced before h.stored
  unfold Canary.ns Canary.name at hbefore ⊢
  rw [hmetadata]
  exact hbefore

end Framed

/-! ### Promotions whose write is lost -/

end Rollout
