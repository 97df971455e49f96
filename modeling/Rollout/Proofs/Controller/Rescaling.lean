/-
A workload that is scaled through its replica count. Whatever strikes, a request to scale it leaves it to be
found with the members that its specification had, up to the count (`counted_resizedTo`), be it carried out at
once or through the API. Main statement: `resized_keeps_version_iff`, after any number of such requests the
workload still is the version that it was if it has a pod template or is back at its count; without a template
the count is part of the version, and a controller takes its own scaling for a change of the target
(`resized_changes_version`).
-/
import Rollout.Proofs.Controller.OwnScaling

namespace Rollout

open Program Json Api Store World WorkloadChange

/-! ## The count of a specification -/

/-- The second members are the first with another replica count at most. -/
def Recounted (spec spec' : List (String × Json)) : Prop :=
  Assoc.erase "replicas" spec' = Assoc.erase "replicas" spec

section Recounted

variable {spec spec' : List (String × Json)}

theorem recounted_insert (ho : Assoc.Ordered spec) (count : Json) :
    Recounted spec (Assoc.insert "replicas" count spec) :=
  ho.erase_insert "replicas" count

theorem Recounted.lookup (h : Recounted spec spec') (ho : Assoc.Ordered spec) (ho' : Assoc.Ordered spec') {key : String}
    (hkey : key ≠ "replicas") : spec'.lookup key = spec.lookup key := by
  have herased := congrArg (List.lookup key) h
  rwa [Assoc.lookup_erase ho', Assoc.lookup_erase ho, if_neg hkey, if_neg hkey] at herased

/-- With the same count the members are the same. -/
theorem Recounted.eq (h : Recounted spec spec') (ho : Assoc.Ordered spec) (ho' : Assoc.Ordered spec')
    (hcount : spec'.lookup "replicas" = spec.lookup "replicas") : spec' = spec := by
  refine ho'.ext ho fun key => ?_
  by_cases hkey : key = "replicas"
  · rw [hkey, hcount]
  · exact h.lookup ho ho' hkey

end Recounted

/-! ## What makes a version -/

/-- The parking entry is looked for under the specification only. -/
theorem get?_withoutParking (template : Json) {key : String} (hkey : key ≠ "spec") :
    (withoutParking template).get? key = template.get? key := by
  unfold withoutParking
  split
  · split
    · split <;> rw [get?_set, if_neg hkey]
    · rfl
  · rfl

namespace Manifest

variable {m m' : Manifest} {spec spec' : List (String × Json)}

theorem versionedSpec?_eq (h : m.spec? = some (.obj spec)) :
    m.versionedSpec? = some (withoutParking ((spec.lookup "template").getD (.obj spec))) := by
  unfold versionedSpec?
  rw [h]
  rfl

/-- A workload that is scaled stays the version that it was where it has a template or the same count. -/
theorem versionedSpec?_eq_iff (h : m.spec? = some (.obj spec)) (h' : m'.spec? = some (.obj spec'))
    (ho : Assoc.Ordered spec) (ho' : Assoc.Ordered spec') (hcounted : Recounted spec spec') :
    m'.versionedSpec? = m.versionedSpec? ↔
      (spec.lookup "template").isSome ∨ spec'.lookup "replicas" = spec.lookup "replicas" := by
  have htemplate := hcounted.lookup ho ho' (show "template" ≠ "replicas" by decide)
  rw [versionedSpec?_eq h, versionedSpec?_eq h', htemplate]
  constructor
  · intro hsame
    cases hfound : spec.lookup "template" with
    | some template => exact .inl rfl
    | none =>
      -- the whole specification makes the version, the count with it
      rw [hfound, Option.getD_none, Option.getD_none] at hsame
      have hcount := congrArg (·.get? "replicas") (Option.some.inj hsame)
      rw [get?_withoutParking _ (by decide), get?_withoutParking _ (by decide)] at hcount
      exact .inr hcount
  · rintro (hsome | hcount)
    · obtain ⟨template, hfound⟩ := Option.isSome_iff_exists.1 hsome
      rw [hfound, Option.getD_some, Option.getD_some]
    · rw [hcounted.eq ho ho' hcount]

end Manifest

/-! ## Requests to scale -/

/-- The world after a request of the Deployment controller that a workload be scaled. -/
def World.resizedTo (b : Backend) (ref : WorkloadRef) (w : World) (count : Int32) : World :=
  ((b.answer (.change ref (Controller.deployment.resize count))).run w).2

/-- The world after such requests for some counts in turn. -/
def World.resized (b : Backend) (ref : WorkloadRef) (w : World) (counts : List Int32) : World :=
  counts.foldl (World.resizedTo b ref) w

/-- All objects are in order, and the workload is found with these members in its specification, up to
its count. -/
structure World.Counted (b : Backend) (ref : WorkloadRef) (spec : List (String × Json)) (w : World) : Prop where
  ordered : ∀ r j, w.store.get? r = some j → j.Ordered
  found : ∃ m spec', w.found b ref = .ok m ∧ m.spec? = some (.obj spec') ∧ Recounted spec spec'

/-- What counts of the patch for a replica count, merged in: the specification has another count at most. -/
theorem get?_merge_count {count : Json} (hcount : ∀ changes, count ≠ .obj changes) (hnull : count ≠ .null)
    {changes' spec : List (String × Json)} {part : Option String}
    (hrelevant : relevant part (nested ["spec"] (obj [("replicas", count)])) = obj changes') {j : Json}
    (ho : j.Ordered) (hspec : j.get? "spec" = some (.obj spec)) :
    (merge (obj changes') j).get? "spec" = some (.obj spec) ∨
      (merge (obj changes') j).get? "spec" = some (.obj (Assoc.insert "replicas" count spec)) := by
  have hput : (merge (obj [("spec", obj [("replicas", count)])]) j).get? "spec" =
      some (.obj (Assoc.insert "replicas" count spec)) := by
    rw [get?_merge (List.pairwise_singleton _ _) ho, List.lookup_cons_self, hspec]
    dsimp only
    rw [changed?_obj, Option.getD_some, merge_obj, mergeMembers_cons hnull, merge_of_not_obj hcount]
    rfl
  cases part with
  | none =>
    cases hrelevant.symm.trans (show _ = obj [("spec", obj [("replicas", count)])] from rfl)
    exact .inr hput
  | some part =>
    rcases relevant_some part (nested ["spec"] (obj [("replicas", count)])) with ⟨-, heq⟩ | ⟨-, heq⟩
    · -- the status is no part of the specification
      cases hrelevant.symm.trans heq
      refine .inl ?_
      rw [get?_merge (List.pairwise_singleton _ _) ho]
      exact hspec
    · cases hrelevant.symm.trans (heq.trans (show _ = obj [("spec", obj [("replicas", count)])] from rfl))
      exact .inr hput

section Step

variable {b : Backend} {ref : WorkloadRef} {w w' : World} {m : Manifest} {spec : List (String × Json)}
  (ho : ∀ r j, w.store.get? r = some j → j.Ordered)

include ho

/-- The members of the specification of what is found are in order. -/
theorem ordered_spec_of_found (hm : w.found b ref = .ok m) (hspec : m.spec? = some (.obj spec)) :
    Assoc.Ordered spec := by
  obtain ⟨r, hordered, hread⟩ := World.exists_read hm ho
  have hmember := hordered.get? (k := "spec")
  rw [← Manifest.get?_body hread, show m.body.get? "spec" = _ from hspec] at hmember
  exact (ordered_obj_iff.1 hmember).1

variable (hspec : m.spec? = some (.obj spec))

include hspec

theorem World.Counted.of_content (hm : w.found b ref = .ok m) (h : w'.content = w.content) :
    w'.Counted b ref spec where
  ordered r j hj := ho r j (by rwa [store_eq_of_content h] at hj)
  found := ⟨m, spec, World.found_congr h hm, hspec, rfl⟩

theorem counted_resizedTo_direct (hm : w.found .direct ref = .ok m) (count : Int32) :
    (w.resizedTo .direct ref count).Counted .direct ref spec := by
  let change := Controller.deployment.resize count
  have hmembers := ordered_spec_of_found ho hm hspec
  have hrun := content_answer_change w ref change
  have hresized : w.resizedTo .direct ref count = ((World.answer (.change ref change)).run w).2 := rfl
  rw [← hresized] at hrun
  generalize w.resizedTo .direct ref count = w' at hrun ⊢
  rcases hrun with hcontent | ⟨j, m', hj, hread, hput⟩
  · exact .of_content ho hspec hm hcontent
  · obtain ⟨j', hj', hread'⟩ := World.found_direct_iff.1 hm
    cases hj.symm.trans hj'
    cases hread.symm.trans hread'
    obtain ⟨members, hwritten, hordered⟩ := Manifest.ordered_toJson hread (ho ref j hj)
    have happlied : (change.apply m.toJson).Ordered := by
      rw [hwritten]
      exact change.ordered_apply hordered
    have hstored : w'.store.get? ref = some (stamped (w.store.version + 1) (change.apply m.toJson)) := by
      rw [store_eq_of_content hput, get?_put, if_pos rfl]
    obtain ⟨m', hm'⟩ := m.exists_ofJson?_stamped change.edit (show "spec" ≠ "metadata" by decide) []
      (w.store.version + 1)
    have hcounted : m'.spec? = some (.obj (Assoc.insert "replicas" (.int count.toInt) spec)) := by
      show m'.body.get? "spec" = _
      rw [Manifest.get?_body hm', get?_stamped _ (by decide), update, get?_set, if_pos rfl,
        ← path?_singleton m.toJson, Manifest.path?_toJson hread, path?_singleton, ← Manifest.get?_body hread,
        show m.body.get? "spec" = _ from hspec]
      rfl
    exact ⟨ordered_of_put ho happlied hput, m', _, World.found_direct_iff.2 ⟨_, hstored, hm'⟩, hcounted,
      recounted_insert hmembers _⟩

theorem counted_resizedTo_api (hm : w.found .api ref = .ok m) (count : Int32) :
    (w.resizedTo .api ref count).Counted .api ref spec := by
  obtain ⟨a, path, j, r, hl, hstored, hr, hread⟩ := World.found_api_iff.1 hm
  obtain ⟨⟨spot, part⟩, hn, hj⟩ := Option.bind_eq_some_iff.1 hstored
  have hordered := ho spot j hj
  have hmembers := ordered_spec_of_found ho hm hspec
  have hrun := content_resize_api ho hl hn hj hr hread .deployment count
  have hresized : w.resizedTo .api ref count =
    ((Backend.answer .api (.change ref (Controller.deployment.resize count))).run w).2 := rfl
  rw [← hresized] at hrun
  generalize w.resizedTo .api ref count = w' at hrun ⊢
  rcases hrun with hsame | ⟨changes, changes', hchanges, hrelevant, hsound, hput⟩
  · exact .of_content ho hspec hm hsame
  · have hkinds : w'.kinds = w.kinds := (kinds_eq_of_content hput).trans rfl
    obtain ⟨-, r', m', hr', hm'⟩ := Readable.patched ⟨r, m, hr, hread⟩ hordered hsound (w.store.version + 1)
    have hfound : w'.stored? path = some (stamped (w.store.version + 1) (merge (obj changes') j)) := by
      unfold stored?
      rw [(named?_congr hkinds path).trans hn, Option.bind_some, store_eq_of_content hput, get?_put, if_pos rfl]
    have hlocated := World.found_api_iff.2 ⟨a, path, _, r', hl.congr hkinds, hfound, hr', hm'⟩
    -- the specification that is stored, as it is read before and after
    obtain ⟨members, hmember, hresent⟩ : ∃ members, j.get? "spec" = some (.obj members) ∧
        resentMembers? members = some spec := by
      have hrel := hr.path? ["spec"]
      rw [path?_singleton, path?_singleton, ← Manifest.get?_body hread,
        show m.body.get? "spec" = _ from hspec] at hrel
      obtain ⟨member, hmember, hreads⟩ := exists_of_some_rel hrel
      obtain ⟨members, rfl, hresent⟩ := hreads.exists_obj
      exact ⟨members, hmember, hresent⟩
    have hrel' := hr'.path? ["spec"]
    rw [path?_stamped _ (by decide), path?_singleton, path?_singleton, ← Manifest.get?_body hm'] at hrel'
    have hshown : ∀ {stored spec' : List (String × Json)},
        (merge (obj changes') j).get? "spec" = some (.obj stored) → resentMembers? stored = some spec' →
          m'.spec? = some (.obj spec') := by
      intro stored spec' hstored hresent'
      rw [hstored] at hrel'
      obtain ⟨found, hfound, hreads⟩ := exists_of_rel_some hrel'
      rw [hreads.unique (readAs_obj_iff.2 ⟨spec', hresent', rfl⟩)] at hfound
      exact hfound
    refine ⟨ordered_of_put ho (Ordered.merge hsound.ordered hordered) hput, m', ?_⟩
    obtain rfl : changes = [("replicas", .int count.toInt)] := hchanges.resolve_right fun h => by cases h.2.2
    rcases get?_merge_count (by simp) (by simp) hrelevant hordered hmember with hkept | hcounted
    · exact ⟨spec, hlocated, hshown hkept hresent, rfl⟩
    · have hcount : (int count.toInt).ReadAs (int count.toInt) := rfl
      exact ⟨_, hlocated, hshown hcounted (resentMembers?_insert hcount hresent), recounted_insert hmembers _⟩

/-- Whatever strikes, a request to scale leaves the specification of the workload, up to its count. -/
theorem counted_resizedTo (hm : w.found b ref = .ok m) (count : Int32) :
    (w.resizedTo b ref count).Counted b ref spec := by
  cases b with
  | direct => exact counted_resizedTo_direct ho hspec hm count
  | api => exact counted_resizedTo_api ho hspec hm count

end Step

/-! ## Any number of requests -/

section Run

variable {b : Backend} {ref : WorkloadRef} {spec : List (String × Json)}

theorem World.Counted.resizedTo {w : World} (h : w.Counted b ref spec) (count : Int32) :
    (w.resizedTo b ref count).Counted b ref spec := by
  obtain ⟨m, spec', hm, hspec', hcounted⟩ := h.found
  obtain ⟨ho, m', spec'', hm', hspec'', hcounted'⟩ := counted_resizedTo h.ordered hspec' hm count
  exact ⟨ho, m', spec'', hm', hspec'', Eq.trans hcounted' hcounted⟩

theorem World.Counted.resized {w : World} (h : w.Counted b ref spec) (counts : List Int32) :
    (w.resized b ref counts).Counted b ref spec := by
  induction counts generalizing w with
  | nil => exact h
  | cons count rest ih => exact ih (h.resizedTo count)

end Run

/-- A workload of any kind is scaled by the Deployment controller. For any way in which the requests are carried
out, any stored objects in order, and any workload that can be read and whose specification is an object: after
requests for any counts, whatever has struck meanwhile, the workload can be read, and what makes its version is
what made it before exactly if it has a pod template or its count is what it was. In that case it has the hash
that it had, and every controller answers as before whether the target of a canary has changed. -/
theorem resized_keeps_version_iff {b : Backend} {ref : WorkloadRef} {w : World} {m : Manifest}
    {spec : List (String × Json)} (ho : ∀ r j, w.store.get? r = some j → j.Ordered) (hm : w.found b ref = .ok m)
    (hspec : m.spec? = some (.obj spec)) (counts : List Int32) :
    ∃ m', (w.resized b ref counts).found b ref = .ok m' ∧
      (m'.versionedSpec? = m.versionedSpec? ↔
        m.template?.isSome ∨ m'.body.path? ["spec", "replicas"] = m.body.path? ["spec", "replicas"]) ∧
      (m.template?.isSome ∨ m'.body.path? ["spec", "replicas"] = m.body.path? ["spec", "replicas"] →
        m'.specHash? = m.specHash? ∧ ∀ (k : Controller) (c : Canary), c.target? = some ref →
          (w.resized b ref counts).targetChanged b k c = w.targetChanged b k c) := by
  have hcounted : w.Counted b ref spec := ⟨ho, m, spec, hm, hspec, rfl⟩
  obtain ⟨ho', m', spec', hm', hspec', hrecounted⟩ := hcounted.resized counts
  have hmember : ∀ {found : Manifest} {members : List (String × Json)}, found.spec? = some (.obj members) →
      ∀ key, found.body.path? ["spec", key] = members.lookup key := by
    intro found members hfound key
    rw [path?_cons, show found.body.get? "spec" = _ from hfound, Option.bind_some, path?_singleton]
    rfl
  have hiff := Manifest.versionedSpec?_eq_iff hspec hspec' (ordered_spec_of_found ho hm hspec)
    (ordered_spec_of_found ho' hm' hspec') hrecounted
  rw [← hmember hspec, ← hmember hspec, ← hmember hspec'] at hiff
  refine ⟨m', hm', hiff, fun hkept => ?_⟩
  have hhash : m'.specHash? = m.specHash? := congrArg (·.map Fingerprint.ofJson) (hiff.2 hkept)
  refine ⟨hhash, fun k c hc => ?_⟩
  obtain ⟨verdict, hverdict⟩ := exists_targetChanged_eq k c
  rw [hverdict, hverdict, targetHash_eq hc hm', targetHash_eq hc hm, hhash]

/-! ### A world with a workload without a template -/

/-- A workload of a kind whose specification has no pod template. -/
def wrapperRef : WorkloadRef := ⟨"core.oam.dev/v1alpha1", "PodSpecWorkload", "podinfo", "prod"⟩

/-- It runs three pods. -/
def wrapperSpec : List (String × Json) :=
  [("podSpec", .obj [("containers", .arr [])]), ("replicas", .int 3)]

/-- The first request to patch it is to fail. -/
def wrapperWorld : World where
  store := { objects := [(wrapperRef, .obj [("apiVersion", .str "core.oam.dev/v1alpha1"),
    ("kind", .str "PodSpecWorkload"), ("metadata", .obj [("name", .str "podinfo"), ("namespace", .str "prod")]),
    ("spec", .obj wrapperSpec)])] }
  now := default
  kinds := World.commonKinds
  faults := [⟨"patch", some "podinfo", .status 500, some 1⟩]

/-- A canary with this target, whose hash it has recorded. -/
def wrapperCanary : Canary where
  metadata := { name := some "podinfo", ns := some "prod" }
  spec := { targetRef := ⟨"core.oam.dev/v1alpha1", "PodSpecWorkload", "podinfo", none⟩ }
  status := some { phase := some .initialized, lastAppliedSpec := some (Fingerprint.ofJson (.obj wrapperSpec)) }

theorem ordered_wrapperWorld (r : WorkloadRef) (j : Json) (hj : wrapperWorld.store.get? r = some j) : j.Ordered := by
  obtain ⟨before, after, hobjects, -⟩ := List.lookup_eq_some_iff.1 hj
  have hmem : (r, j) ∈ wrapperWorld.store.objects := by rw [hobjects]; simp
  rw [← show (r, j).2 = j from rfl, List.mem_singleton.1 hmem]
  simp only [wrapperSpec, Ordered, OrderedMembers, OrderedItems]
  decide

/-- The specification is an object with this replica count. -/
def counts (count : Int) (m : Manifest) : Bool :=
  match m.spec? with
  | some (.obj spec) =>
    match spec.lookup "replicas" with
    | some (.int n) => n = count
    | _ => false
  | _ => false

theorem exists_spec_of_counts {count : Int} {m : Manifest} (h : counts count m = true) :
    ∃ spec, m.spec? = some (.obj spec) ∧ m.body.path? ["spec", "replicas"] = some (.int count) := by
  unfold counts at h
  split at h
  · rename_i spec hspec
    split at h
    · rename_i n hn
      refine ⟨spec, hspec, ?_⟩
      rw [path?_cons, show m.body.get? "spec" = _ from hspec, Option.bind_some, path?_singleton,
        get?_eq_lookup, membersOrNone_obj, hn, of_decide_eq_true h]
    · cases h
  · cases h

theorem exists_found_of_counts {b : Backend} {ref : WorkloadRef} {w : World} {count : Int}
    (h : (w.found b ref).toOption.any (counts count) = true) :
    ∃ m, w.found b ref = .ok m ∧ counts count m = true := by
  cases hm : w.found b ref with
  | error e => rw [hm] at h; cases h
  | ok m => rw [hm] at h; exact ⟨m, rfl, h⟩

/-- The first attempt to scale to zero fails, the second gets through, and a third request brings the count back:
the workload is the version that it was. -/
theorem resized_keeps_version_iff_wrapper : ∃ m m', wrapperWorld.found .direct wrapperRef = .ok m ∧
    counts 3 m = true ∧ (wrapperWorld.resized .direct wrapperRef [0, 0, 3]).found .direct wrapperRef = .ok m' ∧
    m'.specHash? = m.specHash? ∧
    (wrapperWorld.resized .direct wrapperRef [0, 0, 3]).targetChanged .direct .deployment wrapperCanary =
      wrapperWorld.targetChanged .direct .deployment wrapperCanary := by
  obtain ⟨m, hm, hcounts⟩ := exists_found_of_counts
    (show (wrapperWorld.found .direct wrapperRef).toOption.any (counts 3) = true by decide +kernel)
  obtain ⟨m', hm', hback⟩ := exists_found_of_counts (show ((wrapperWorld.resized .direct wrapperRef [0, 0, 3]).found
    .direct wrapperRef).toOption.any (counts 3) = true by decide +kernel)
  obtain ⟨spec, hspec, hthree⟩ := exists_spec_of_counts hcounts
  obtain ⟨-, -, hthree'⟩ := exists_spec_of_counts hback
  obtain ⟨found, hfound, -, hkept⟩ := resized_keeps_version_iff ordered_wrapperWorld hm hspec [0, 0, 3]
  cases hfound.symm.trans hm'
  obtain ⟨hhash, hchanged⟩ := hkept (.inr (hthree'.trans hthree.symm))
  exact ⟨m, m', hm, hcounts, hm', hhash, hchanged .deployment wrapperCanary rfl⟩

/-- Once its own controller has scaled it to zero, at the second attempt, a workload without a template has another
hash, and the controller sees a change of the target. -/
theorem resized_changes_version : ∃ m m', wrapperWorld.found .direct wrapperRef = .ok m ∧ counts 3 m = true ∧
    (wrapperWorld.resized .direct wrapperRef [0, 0]).found .direct wrapperRef = .ok m' ∧
    m'.specHash? ≠ m.specHash? ∧
    wrapperWorld.targetChanged .direct .deployment wrapperCanary = .ok false ∧
    (wrapperWorld.resized .direct wrapperRef [0, 0]).targetChanged .direct .deployment wrapperCanary = .ok true := by
  obtain ⟨m, hm, hcounts⟩ := exists_found_of_counts
    (show (wrapperWorld.found .direct wrapperRef).toOption.any (counts 3) = true by decide +kernel)
  obtain ⟨m', hm', -⟩ := exists_found_of_counts (show ((wrapperWorld.resized .direct wrapperRef [0, 0]).found
    .direct wrapperRef).toOption.any (counts 0) = true by decide +kernel)
  have hhashes :
      ((wrapperWorld.resized .direct wrapperRef [0, 0]).found .direct wrapperRef).toOption.bind (·.specHash?) ≠
        (wrapperWorld.found .direct wrapperRef).toOption.bind (·.specHash?) := by decide +kernel
  rw [hm, hm'] at hhashes
  exact ⟨m, m', hm, hcounts, hm', hhashes, by decide +kernel, by decide +kernel⟩

end Rollout
