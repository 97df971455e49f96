/-
A store of canaries that many clients use: what can be stored and how it is answered. A read gives
what is stored; a write of a status is carried out only on an object at the version of the canary
that it was made for, and gives the object a version never issued before; any request can fail,
before or after it has had its effect. `Answers.versioned` says that versions stay apart, and
`Answers.seen` that a canary once read is still what is stored at its version.
-/
import Rollout.Proofs.Status.Patch
import Rollout.Cluster

namespace Rollout

/-! ## Objects -/

/-- What canaries are stored as, and what a write makes of it. The write is given the canary that its
writer read, the status, and the version to store it at. -/
structure CanaryObjects where
  Object : Type
  read : Object → Option Canary
  version? : Object → Option String
  write : Object → Canary → CanaryStatus → String → Object
  version_eq : ∀ {o c}, read o = some c → version? o = c.resourceVersion
  read_write : ∀ {o c}, read o = some c → ∀ status version, read (write o c status version) =
    some (c.written status version)

/-- Canaries stored as such, their status replaced. -/
def CanaryObjects.replaced : CanaryObjects where
  Object := Canary
  read := some
  version? := Canary.resourceVersion
  write o _ status version := o.written status version
  version_eq h := by cases h; rfl
  read_write h _ _ := by cases h; rfl

/-- Canaries stored as JSON objects, into which the patch of the status is merged. -/
def CanaryObjects.merged : CanaryObjects where
  Object := { object : Json // object.Ordered ∧ StatusNotListed object }
  read o := Canary.ofJson? o.1
  version? o := Canary.storedVersion? o.1
  write o c status version := ⟨c.patched status version o.1, Canary.patched_keeps o.2.1 c status version⟩
  version_eq h := Canary.storedVersion?_eq h
  read_write {o _} h status version := Canary.ofJson?_patched o.2.1 o.2.2 h status version

/-! ## The store -/

/-- The objects by namespace and name, and the versions that have been issued. -/
structure CanaryStore (k : CanaryObjects) where
  objects : String → String → Option k.Object
  issued : Set String

namespace CanaryStore

variable {k : CanaryObjects}

/-- The canary that is stored, if what is stored reads as one. -/
def stored? (s : CanaryStore k) (ns name : String) : Option Canary := (s.objects ns name).bind k.read

/-- The store with an object put or removed. -/
def put (s : CanaryStore k) (ns name : String) (o : Option k.Object) : CanaryStore k :=
  { s with objects := fun ns' name' => if ns' = ns ∧ name' = name then o else s.objects ns' name' }

/-- The store with an object put at a version. -/
def putAt (s : CanaryStore k) (ns name : String) (o : k.Object) (version : String) : CanaryStore k :=
  { s.put ns name (some o) with issued := insert version s.issued }

@[simp] theorem put_objects (s : CanaryStore k) (ns name : String) (o : Option k.Object) (ns' name' : String) :
    (s.put ns name o).objects ns' name' = if ns' = ns ∧ name' = name then o else s.objects ns' name' := rfl

@[simp] theorem put_issued (s : CanaryStore k) (ns name : String) (o : Option k.Object) :
    (s.put ns name o).issued = s.issued := rfl

@[simp] theorem putAt_objects (s : CanaryStore k) (ns name : String) (o : k.Object) (version ns' name' : String) :
    (s.putAt ns name o version).objects ns' name' =
      if ns' = ns ∧ name' = name then some o else s.objects ns' name' := rfl

@[simp] theorem putAt_issued (s : CanaryStore k) (ns name : String) (o : k.Object) (version : String) :
    (s.putAt ns name o version).issued = insert version s.issued := rfl

/-- Every stored object is at an issued version, and no two are at the same. -/
structure Versioned (s : CanaryStore k) : Prop where
  issued : ∀ {ns name o}, s.objects ns name = some o → ∃ v ∈ s.issued, k.version? o = some v
  apart : ∀ {ns name ns' name' o o'}, s.objects ns name = some o → s.objects ns' name' = some o' →
    k.version? o = k.version? o' → ns = ns' ∧ name = name'

/-- The canary was stored under this name at its version: whatever is stored at that version, now
or later, is the canary itself. -/
def Seen (s : CanaryStore k) (ns name : String) (c : Canary) : Prop :=
  ∃ v ∈ s.issued, c.resourceVersion = some v ∧
    ∀ {ns' name' o}, s.objects ns' name' = some o → k.version? o = some v →
      ns' = ns ∧ name' = name ∧ k.read o = some c

/-! ### What changes keep -/

theorem Versioned.put {s : CanaryStore k} (h : s.Versioned) (ns name : String) : (s.put ns name none).Versioned := by
  have hs : ∀ {ns' name' o}, (s.put ns name none).objects ns' name' = some o → s.objects ns' name' = some o := by
    intro ns' name' o ho
    rw [put_objects] at ho
    split at ho
    · cases ho
    · exact ho
  exact ⟨fun ho => h.issued (hs ho), fun ho ho' => h.apart (hs ho) (hs ho')⟩

theorem Seen.put {s : CanaryStore k} {ns' name' : String} {c : Canary} (h : s.Seen ns' name' c) (ns name : String) :
    (s.put ns name none).Seen ns' name' c := by
  obtain ⟨v, hv, hc, h⟩ := h
  refine ⟨v, hv, hc, fun {ns₁ name₁ o} ho => ?_⟩
  rw [put_objects] at ho
  split at ho
  · cases ho
  · exact h ho

variable {s : CanaryStore k} {ns name version : String} {o : k.Object}

theorem Versioned.putAt (h : s.Versioned) (hnew : version ∉ s.issued) (ho : k.version? o = some version) :
    (s.putAt ns name o version).Versioned := by
  -- an object that was there is not at the new version
  have hold : ∀ {ns' name' o'}, s.objects ns' name' = some o' → k.version? o' ≠ some version := by
    intro ns' name' o' ho' hv
    obtain ⟨v, hmem, hv'⟩ := h.issued ho'
    rw [hv] at hv'
    cases hv'
    exact hnew hmem
  refine ⟨fun {ns' name' o'} ho' => ?_, fun {n₁ m₁ n₂ m₂ o₁ o₂} h₁ h₂ heq => ?_⟩
  · rw [putAt_objects] at ho'
    split at ho'
    · cases ho'; exact ⟨version, Set.mem_insert .., ho⟩
    · obtain ⟨v, hmem, hv⟩ := h.issued ho'
      exact ⟨v, Set.mem_insert_of_mem _ hmem, hv⟩
  · rw [putAt_objects] at h₁ h₂
    split at h₁
    · rename_i hk₁
      cases h₁
      split at h₂
      · rename_i hk₂; exact ⟨hk₁.1.trans hk₂.1.symm, hk₁.2.trans hk₂.2.symm⟩
      · rw [ho] at heq; exact absurd heq.symm (hold h₂)
    · split at h₂
      · cases h₂; rw [ho] at heq; exact absurd heq (hold h₁)
      · exact h.apart h₁ h₂ heq

theorem Seen.putAt {ns' name' : String} {c : Canary} (h : s.Seen ns' name' c) (hnew : version ∉ s.issued)
    (ho : k.version? o = some version) : (s.putAt ns name o version).Seen ns' name' c := by
  obtain ⟨v, hv, hc, h⟩ := h
  refine ⟨v, Set.mem_insert_of_mem _ hv, hc, fun {ns₁ name₁ o₁} ho₁ hv₁ => ?_⟩
  rw [putAt_objects] at ho₁
  split at ho₁
  · -- what is put is at the new version, not at the one that was read
    cases ho₁
    rw [ho] at hv₁
    cases hv₁
    exact absurd hv hnew
  · exact h ho₁ hv₁

/-- What a read gives is seen. -/
theorem Versioned.seen (h : s.Versioned) {c : Canary} (ho : s.objects ns name = some o) (hc : k.read o = some c) :
    s.Seen ns name c := by
  obtain ⟨v, hv, hov⟩ := h.issued ho
  refine ⟨v, hv, by rw [← k.version_eq hc]; exact hov, fun {ns' name' o'} ho' hv' => ?_⟩
  obtain ⟨rfl, rfl⟩ := h.apart ho' ho (hv'.trans hov.symm)
  rw [ho] at ho'
  cases ho'
  exact ⟨rfl, rfl, hc⟩

/-! ## Answers -/

/-- How a store may answer a request, and the store it then is. -/
inductive Answers : CanaryStore k → (r : Cluster.Request) → Cluster.Reply r → CanaryStore k → Prop
  | read {s : CanaryStore k} {ns name : String} {c : Canary} :
      s.stored? ns name = some c → Answers s (.canary ns name) (.ok c) s
  | unread {s : CanaryStore k} {ns name : String} (e : StoreError) : Answers s (.canary ns name) (.error e) s
  /-- The object is at the version of the canary that was read, and the answer is what it then is. -/
  | written {s : CanaryStore k} {c written : Canary} {status : CanaryStatus} {o : k.Object} {version : String} :
      s.objects c.ns c.name = some o → k.version? o = c.resourceVersion → version ∉ s.issued →
      k.version? (k.write o c status version) = some version → k.read (k.write o c status version) = some written →
      Answers s (.writeStatus c status) (.ok written) (s.putAt c.ns c.name (k.write o c status version) version)
  /-- The write is carried out, but its answer is lost. -/
  | unacknowledged {s : CanaryStore k} {c : Canary} {status : CanaryStatus} {o : k.Object} {version : String}
      (e : StoreError) :
      s.objects c.ns c.name = some o → k.version? o = c.resourceVersion → version ∉ s.issued →
      k.version? (k.write o c status version) = some version →
      Answers s (.writeStatus c status) (.error e) (s.putAt c.ns c.name (k.write o c status version) version)
  /-- The object is at another version or not there, or the write is not carried out for another
  reason. -/
  | refused {s : CanaryStore k} {c : Canary} {status : CanaryStatus} (e : StoreError) :
      Answers s (.writeStatus c status) (.error e) s
  /-- Requests that do not concern canaries. -/
  | aside {s : CanaryStore k} {r : Cluster.Request} (reply : Cluster.Reply r) :
      (∀ ns name, r ≠ .canary ns name) → (∀ c status, r ≠ .writeStatus c status) → Answers s r reply s

variable {r : Cluster.Request} {reply : Cluster.Reply r} {s' : CanaryStore k}

/-- An answer leaves the store as it was, or has put an object at a new version. -/
theorem Answers.put_or_eq (h : Answers s r reply s') :
    s' = s ∨
      ∃ ns name o version, s' = s.putAt ns name o version ∧ version ∉ s.issued ∧ k.version? o = some version := by
  cases h with
  | read | unread | refused | aside => exact .inl rfl
  | written _ _ hnew hv => exact .inr ⟨_, _, _, _, rfl, hnew, hv⟩
  | unacknowledged _ _ _ hnew hv => exact .inr ⟨_, _, _, _, rfl, hnew, hv⟩

theorem Answers.versioned (h : Answers s r reply s') (hs : s.Versioned) : s'.Versioned := by
  rcases h.put_or_eq with rfl | ⟨ns, name, o, version, rfl, hnew, ho⟩
  · exact hs
  · exact hs.putAt hnew ho

theorem Answers.seen (h : Answers s r reply s') {c : Canary} (hs : s.Seen ns name c) : s'.Seen ns name c := by
  rcases h.put_or_eq with rfl | ⟨ns', name', o, version, rfl, hnew, ho⟩
  · exact hs
  · exact hs.putAt hnew ho

end CanaryStore

end Rollout
