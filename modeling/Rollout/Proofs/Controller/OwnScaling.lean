/-
A workload that is parked and unparked by its own controller. Whatever strikes, a request to scale it leaves
it to be found with the same template, up to the parking entry (`parks_scaledTo`), be it carried out at once or
through the API. Main statement: `scaled_keeps_hash`, after any number of such requests the workload still is the
version that it was, and so no canary sees a change of its target.
-/
import Rollout.Proofs.Api.Effects
import Rollout.Proofs.Controller.TargetHash
import Rollout.Proofs.Workload.Parking
import Rollout.Proofs.World.Direct
import Rollout.Proofs.World.Strikes
import Rollout.Session.Basic

namespace Rollout

open Program Json Api Store World WorkloadChange

/-! ## What is found -/

/-- What a workload is found to be while nothing strikes. -/
def World.found (b : Backend) (ref : WorkloadRef) (w : World) : Except AccessError Manifest :=
  ((b.answer (.workload ref)).run { w with faults := [] }).1

section Found

variable {b : Backend} {ref : WorkloadRef} {w w' : World} {m : Manifest}

theorem World.found_direct_iff :
    w.found .direct ref = .ok m ↔ ∃ j, w.store.get? ref = some j ∧ Manifest.ofJson? j = some m :=
  answer_workload_eq_ok_iff

theorem World.ends_found (w : World) (ref : WorkloadRef) :
    ∃ w', Ends (fair fun _ => "") (Api.workload ref).run { w with faults := [] } (w.found .api ref) w' := by
  have hfound : w.found .api ref = (((Api.workload ref).run.run serve).run { w with faults := [] }).1 := rfl
  rw [hfound, run_serve_eq_fair _ rfl]
  exact ⟨_, ends_run _ _⟩

theorem World.found_api_iff : w.found .api ref = .ok m ↔ ∃ a path j r, Located w ref a path ∧
    w.stored? path = some j ∧ j.ReadAs r ∧ Manifest.ofJson? r = some m := by
  have hstored : ∀ path, ({ w with faults := [] } : World).stored? path = w.stored? path := stored?_congr rfl
  obtain ⟨w', hends⟩ := ends_found w ref
  constructor
  · intro hm
    rw [hm] at hends
    obtain ⟨a, path, j, r, hl, hj, hr, hread⟩ := read_of_ends_workload hends
    exact ⟨a, path, j, r, hl.congr rfl, (hstored path).symm.trans hj, hr, hread⟩
  · rintro ⟨a, path, j, r, hl, hj, hr, hread⟩
    have hl' : Located { w with faults := [] } ref a path := hl.congr rfl
    obtain ⟨w₁, hends', -⟩ := hl'.ends_workload ((hstored path).trans hj) hr hread fun _ => ""
    exact (hends.unique hends').1

/-- What is found is read of something in order where all objects are. -/
theorem World.exists_read (hm : w.found b ref = .ok m) (ho : ∀ r j, w.store.get? r = some j → j.Ordered) :
    ∃ r : Json, r.Ordered ∧ Manifest.ofJson? r = some m := by
  cases b with
  | direct =>
    obtain ⟨j, hj, hread⟩ := World.found_direct_iff.1 hm
    exact ⟨j, ho ref j hj, hread⟩
  | api =>
    obtain ⟨a, path, j, r, -, hstored, hr, hread⟩ := World.found_api_iff.1 hm
    obtain ⟨⟨spot, part⟩, -, hj⟩ := Option.bind_eq_some_iff.1 hstored
    exact ⟨r, hr.ordered (ho spot j hj), hread⟩

/-- What is found depends on what the world holds. -/
theorem World.found_congr (h : w'.content = w.content) (hm : w.found b ref = .ok m) : w'.found b ref = .ok m := by
  cases b with
  | direct =>
    rw [found_direct_iff] at hm ⊢
    rw [store_eq_of_content h]
    exact hm
  | api =>
    rw [found_api_iff] at hm ⊢
    obtain ⟨a, path, j, r, hl, hj, hread⟩ := hm
    exact ⟨a, path, j, r, hl.congr (kinds_eq_of_content h), (stored?_congr h path).trans hj, hread⟩

end Found

/-! ## Templates -/

namespace Manifest

/-- The pod template as it stands. -/
def template? (m : Manifest) : Option Json := m.body.path? ["spec", "template"]

theorem template?_eq {r : Json} {m : Manifest} (h : ofJson? r = some m) :
    m.template? = r.path? ["spec", "template"] := by
  unfold template?
  rw [path?_cons, path?_cons, get?_body h]

/-- A workload with a template is versioned by it. -/
theorem specHash?_of_template {m : Manifest} {template : Json} (h : m.template? = some template) :
    m.specHash? = some (Fingerprint.ofJson (withoutParking template)) := by
  obtain ⟨spec, hspec, htemplate⟩ := Option.bind_eq_some_iff.1 h
  rw [path?_singleton] at htemplate
  have hspec? : m.spec? = some spec := hspec
  unfold specHash? versionedSpec?
  rw [hspec?, Option.map_some, Option.map_some, htemplate, Option.getD_some]

end Manifest

/-- What counts of the patch for the parking entry, merged in: the template has another entry at most. -/
theorem path?_merge_parking {changes changes' : List (String × Json)} {part : Option String}
    (hrelevant : relevant part (nested selectorPath (obj changes)) = obj changes') {j : Json} (ho : j.Ordered) :
    (merge (obj changes') j).path? ["spec", "template"] = j.path? ["spec", "template"] ∨
      (merge (obj changes') j).path? ["spec", "template"] =
        some (((j.path? ["spec", "template"]).getD .null).update (merge (obj changes)) ["spec", "nodeSelector"]) := by
  cases part with
  | none =>
    rw [← show nested selectorPath (obj changes) = obj changes' from hrelevant, merge_nested]
    exact .inr (path?_update_append ["spec", "nodeSelector"] ["spec", "template"] j)
  | some part =>
    -- a part has no template
    refine .inl ?_
    rcases relevant_some part (nested selectorPath (obj changes)) with ⟨-, heq⟩ | ⟨-, heq⟩
    · cases hrelevant.symm.trans heq
      exact path?_merge_of_none (List.pairwise_singleton _ _) rfl ho _
    · cases hrelevant.symm.trans heq
      exact path?_merge_spec (List.pairwise_singleton _ _) List.lookup_cons_self (List.pairwise_singleton _ _) ho
        "template" []

/-- What is read of an object that was patched so has the template that was read before, parked or unparked. -/
theorem reparked_of_read {count : Int32} {found : Option Json} {changes changes' : List (String × Json)}
    {part : Option String} (hm : (parking count).Members found changes)
    (hrelevant : relevant part (nested selectorPath (obj changes)) = obj changes') {j r r' template : Json}
    (ho : j.Ordered) (hr : j.ReadAs r) {version : Nat} (hr' : (stamped version (merge (obj changes') j)).ReadAs r')
    (htemplate : r.path? ["spec", "template"] = some template) :
    ∃ template', r'.path? ["spec", "template"] = some template' ∧ Reparked template template' := by
  have hread := hr.path? ["spec", "template"]
  have hread' := hr'.path? ["spec", "template"]
  rw [htemplate] at hread
  rw [path?_stamped version (by decide)] at hread'
  obtain ⟨stored, hstored, hread⟩ := exists_of_some_rel hread
  rcases path?_merge_parking hrelevant ho with heq | heq
  · rw [heq, hstored] at hread'
    obtain ⟨template', hfound, hread'⟩ := exists_of_rel_some hread'
    exact ⟨template', hfound, .inl (hread'.unique hread)⟩
  · rw [heq, hstored, Option.getD_some] at hread'
    obtain ⟨template', hfound, hread'⟩ := exists_of_rel_some hread'
    -- the patch makes of what is read what it makes of what is stored
    have hpatched : (stored.update (merge (obj changes)) ["spec", "nodeSelector"]).ReadAs
        (template.update (merge (obj changes)) ["spec", "nodeSelector"]) := by
      rw [← merge_nested, ← merge_nested]
      exact ReadAs.merge (steady_nested hm.steady _) hread
    exact ⟨template', hfound, .inr ⟨_, hm.onlyParks, hread'.unique hpatched⟩⟩

/-- A workload that is written with the change made reads with its template, parked or unparked. -/
theorem exists_read_applied {j template : Json} {m : Manifest} (hread : Manifest.ofJson? j = some m)
    (htemplate : m.template? = some template) (count : Int32) (version : Nat) :
    ∃ m', Manifest.ofJson? (stamped version ((parking count).apply m.toJson)) = some m' ∧
      m'.template? = some (template.update (parking count).edit ["spec", "nodeSelector"]) := by
  have happly : (parking count).apply m.toJson =
      m.toJson.update (parking count).edit (["spec", "template"] ++ ["spec", "nodeSelector"]) :=
    (parking count).apply_eq m.toJson
  have hwritten : m.toJson.path? ["spec", "template"] = some template := by
    rw [Manifest.path?_toJson hread, ← Manifest.template?_eq hread, htemplate]
  obtain ⟨m', hm'⟩ := m.exists_ofJson?_stamped (parking count).edit (show "spec" ≠ "metadata" by decide)
    ["template", "spec", "nodeSelector"] version
  rw [happly]
  refine ⟨m', hm', ?_⟩
  rw [Manifest.template?_eq hm', path?_stamped _ (by decide)]
  refine (path?_update_append ["spec", "nodeSelector"] ["spec", "template"] m.toJson).trans ?_
  rw [hwritten, Option.getD_some]

/-! ## Requests to scale -/

/-- The world after a request that a workload with one pod on every node be scaled. -/
def World.scaledTo (b : Backend) (ref : WorkloadRef) (w : World) (count : Int32) : World :=
  ((b.answer (.change ref (.parking count))).run w).2

/-- The world after such requests for some counts in turn. -/
def World.scaled (b : Backend) (ref : WorkloadRef) (w : World) (counts : List Int32) : World :=
  counts.foldl (World.scaledTo b ref) w

/-- All objects are in order, and the workload is found with the template, parked or unparked. -/
structure World.Parks (b : Backend) (ref : WorkloadRef) (template : Json) (w : World) : Prop where
  ordered : ∀ r j, w.store.get? r = some j → j.Ordered
  found : ∃ m template', w.found b ref = .ok m ∧ m.template? = some template' ∧ Reparked template template'

section Step

variable {b : Backend} {ref : WorkloadRef} {w w' : World} {m : Manifest} {template : Json}
  (ho : ∀ r j, w.store.get? r = some j → j.Ordered)

include ho

/-- All objects stay in order when one that is in order is put. -/
theorem ordered_of_put {spot : WorkloadRef} {object : Json} (hobject : object.Ordered)
    (hcontent : w'.content = ({ w with store := w.store.put spot object } : World).content) :
    ∀ r j, w'.store.get? r = some j → j.Ordered := by
  intro r j hj
  rw [store_eq_of_content hcontent, get?_put] at hj
  split at hj
  · cases hj
    exact ordered_stamped hobject _
  · exact ho r j hj

/-- Through the API a request to resize a workload does nothing, or a patch for its size gets through. -/
theorem content_resize_api {a : Api.Address} {spot : WorkloadRef} {path : String} {part : Option String} {j r : Json}
    (hl : Located w ref a path) (hn : w.named? path = some (spot, part)) (hj : w.store.get? spot = some j)
    (hr : j.ReadAs r) (hread : Manifest.ofJson? r = some m) (k : Controller) (count : Int32) :
    (((Backend.answer .api (.change ref (k.resize count))).run w).2).content = w.content ∨ ∃ changes changes',
      (k.resize count).Members (m.toJson.path? (k.resize count).path) changes ∧
        relevant part (nested (k.resize count).place.1 (obj changes)) = obj changes' ∧ Sound changes' ∧
        (((Backend.answer .api (.change ref (k.resize count))).run w).2).content =
          ({ w with store := w.store.put spot (merge (obj changes') j) } : World).content := by
  obtain ⟨w₁, hends, hcases⟩ := ends_resize (fun _ => "") hl hn hj (ho spot j hj) hr hread k count
  have hrun := content_run_serve (change_careful ref _) hends
  have hanswer : ((Backend.answer .api (.change ref (k.resize count))).run w).2 =
    (((Api.change ref (k.resize count)).run.run serve).run w).2 := rfl
  rw [← hanswer] at hrun
  generalize ((Backend.answer .api (.change ref (k.resize count))).run w).2 = w' at hrun ⊢
  rcases hrun with hsame | hdone
  · exact .inl hsame
  · rcases hcases with ⟨hidle, -⟩ | ⟨changes, changes', hmembers, hrelevant, hsound, hput⟩
    · exact .inl (hdone.trans hidle)
    · exact .inr ⟨changes, changes', hmembers, hrelevant, hsound, hdone.trans hput⟩

variable (htemplate : m.template? = some template)

include htemplate

theorem World.Parks.of_content (hm : w.found b ref = .ok m) (h : w'.content = w.content) : w'.Parks b ref template where
  ordered r j hj := ho r j (by rwa [store_eq_of_content h] at hj)
  found := ⟨m, template, World.found_congr h hm, htemplate, .inl rfl⟩

theorem parks_scaledTo_direct (hm : w.found .direct ref = .ok m) (count : Int32) :
    (w.scaledTo .direct ref count).Parks .direct ref template := by
  have hrun := content_answer_change w ref (parking count)
  have hscaled : w.scaledTo .direct ref count = ((World.answer (.change ref (parking count))).run w).2 := rfl
  rw [← hscaled] at hrun
  generalize w.scaledTo .direct ref count = w' at hrun ⊢
  rcases hrun with hcontent | ⟨j, _, hj, hread, hput⟩
  · exact .of_content ho htemplate hm hcontent
  · obtain ⟨j', hj', hread'⟩ := World.found_direct_iff.1 hm
    cases hj.symm.trans hj'
    cases hread.symm.trans hread'
    obtain ⟨members, hmembers, hordered⟩ := Manifest.ordered_toJson hread (ho ref j hj)
    have happlied : ((parking count).apply m.toJson).Ordered := by
      rw [hmembers]
      exact (parking count).ordered_apply hordered
    have hstored : w'.store.get? ref = some (stamped (w.store.version + 1) ((parking count).apply m.toJson)) := by
      rw [store_eq_of_content hput, get?_put, if_pos rfl]
    obtain ⟨m', hm', htemplate'⟩ := exists_read_applied hread htemplate count (w.store.version + 1)
    exact ⟨ordered_of_put ho happlied hput, m', _, World.found_direct_iff.2 ⟨_, hstored, hm'⟩, htemplate',
      .inr ⟨_, onlyParks_edit count, rfl⟩⟩

theorem parks_scaledTo_api (hm : w.found .api ref = .ok m) (count : Int32) :
    (w.scaledTo .api ref count).Parks .api ref template := by
  obtain ⟨a, path, j, r, hl, hstored, hr, hread⟩ := World.found_api_iff.1 hm
  obtain ⟨⟨spot, part⟩, hn, hj⟩ := Option.bind_eq_some_iff.1 hstored
  have hordered := ho spot j hj
  have hrun := content_resize_api ho hl hn hj hr hread .daemonSet count
  have hscaled : w.scaledTo .api ref count =
    ((Backend.answer .api (.change ref (Controller.daemonSet.resize count))).run w).2 := rfl
  rw [← hscaled] at hrun
  generalize w.scaledTo .api ref count = w' at hrun ⊢
  rcases hrun with hsame | ⟨changes, changes', hmembers, hrelevant, hsound, hput⟩
  · exact .of_content ho htemplate hm hsame
  · have hkinds : w'.kinds = w.kinds := (kinds_eq_of_content hput).trans rfl
    obtain ⟨-, r', m', hr', hm'⟩ := Readable.patched ⟨r, m, hr, hread⟩ hordered hsound (w.store.version + 1)
    have hfound : w'.stored? path = some (stamped (w.store.version + 1) (merge (obj changes') j)) := by
      unfold stored?
      rw [(named?_congr hkinds path).trans hn, Option.bind_some, store_eq_of_content hput, get?_put, if_pos rfl]
    rw [Manifest.template?_eq hread] at htemplate
    obtain ⟨template', htemplate', hreparked⟩ := reparked_of_read hmembers hrelevant hordered hr hr' htemplate
    exact ⟨ordered_of_put ho (Ordered.merge hsound.ordered hordered) hput, m', template',
      World.found_api_iff.2 ⟨a, path, _, r', hl.congr hkinds, hfound, hr', hm'⟩,
      (Manifest.template?_eq hm').trans htemplate', hreparked⟩

/-- Whatever strikes, a request to scale leaves the workload with its template, parked or unparked. -/
theorem parks_scaledTo (hm : w.found b ref = .ok m) (count : Int32) :
    (w.scaledTo b ref count).Parks b ref template := by
  cases b with
  | direct => exact parks_scaledTo_direct ho htemplate hm count
  | api => exact parks_scaledTo_api ho htemplate hm count

end Step

/-! ## Any number of requests -/

/-- All objects are in order, and the workload is found with a template of this version. -/
structure World.Runs (b : Backend) (ref : WorkloadRef) (version : Json) (w : World) : Prop where
  ordered : ∀ r j, w.store.get? r = some j → j.Ordered
  found : ∃ m template pod, w.found b ref = .ok m ∧ m.template? = some template ∧ template.Ordered ∧
    Selectable template pod ∧ withoutParking template = version

section Run

variable {b : Backend} {ref : WorkloadRef} {version : Json}

theorem World.Runs.scaledTo {w : World} (h : w.Runs b ref version) (count : Int32) :
    (w.scaledTo b ref count).Runs b ref version := by
  obtain ⟨m, template, pod, hm, htemplate, hordered, hselectable, hversion⟩ := h.found
  obtain ⟨ho, m', template', hm', htemplate', hreparked⟩ := parks_scaledTo h.ordered htemplate hm count
  obtain ⟨hsame, hordered', pod', hselectable'⟩ := hreparked.same_version hordered hselectable
  exact ⟨ho, m', template', pod', hm', htemplate', hordered', hselectable', hsame.trans hversion⟩

theorem World.Runs.scaled {w : World} (h : w.Runs b ref version) (counts : List Int32) :
    (w.scaled b ref counts).Runs b ref version := by
  induction counts generalizing w with
  | nil => exact h
  | cons count rest ih => exact ih (h.scaledTo count)

end Run

/-! ## Changes of the target -/

/-- Whether a controller sees a change of a canary's target while nothing strikes. -/
def World.targetChanged (b : Backend) (k : Controller) (c : Canary) (w : World) : Except ControllerError Bool :=
  (((c.targetChanged.run.run k).run b.answer).run { w with faults := [] }).1.1

/-- The hash of a canary's target while nothing strikes. -/
def World.targetHash (b : Backend) (c : Canary) (w : World) : Except ControllerError (Option String) :=
  ((c.targetHash.run.run b.answer).run { w with faults := [] }).1

/-- A change is seen in the hash of the target, or without a look at the target. -/
theorem exists_targetChanged_eq (k : Controller) (c : Canary) :
    ∃ verdict : Except ControllerError (Option String) → Except ControllerError Bool,
      ∀ (b : Backend) (w : World), w.targetChanged b k c = verdict (w.targetHash b c) := by
  have hseen : k.comparesHash = true →
      ∀ (b : Backend) (w : World), w.targetChanged b k c = (w.targetHash b c).map c.differs := by
    intro hk b w
    unfold World.targetChanged World.targetHash
    rw [Operation.run_targetChanged hk, run_bind]
    rfl
  cases k with
  | deployment | daemonSet | service => exact ⟨_, hseen rfl⟩
  | rolling settled => exact ⟨fun _ => .ok false, fun _ _ => rfl⟩
  | swap baseline target => exact ⟨fun _ => .ok c.isInitialized, fun _ _ => rfl⟩

theorem targetHash_eq {b : Backend} {c : Canary} {ref : WorkloadRef} {w : World} {m : Manifest}
    (hc : c.target? = some ref) (hm : w.found b ref = .ok m) : w.targetHash b c = .ok m.specHash? := by
  unfold World.targetHash
  rw [Canary.run_targetHash hc]
  show ((w.found b ref).mapError ControllerError.access).map (·.specHash?) = _
  rw [hm]
  rfl

/-- A workload with one pod on every node is scaled by its own controller. For any way in which the requests are
carried out, any stored objects in order, and any workload that can be read, whose pods are described by an object
and select their nodes by entries if at all: after requests for any counts, whatever has struck meanwhile, the
workload can be read and has the hash that it had, so every controller answers as before whether the target of
a canary has changed, whatever hash that canary has recorded. -/
theorem scaled_keeps_hash {b : Backend} {ref : WorkloadRef} {w : World} {m : Manifest} {pod : List (String × Json)}
    (ho : ∀ r j, w.store.get? r = some j → j.Ordered) (hm : w.found b ref = .ok m)
    (hpod : m.body.path? ["spec", "template", "spec"] = some (.obj pod))
    (hselector : ∀ j, pod.lookup "nodeSelector" = some j → ∃ entries, j = .obj entries) (counts : List Int32) :
    (∃ m', (w.scaled b ref counts).found b ref = .ok m' ∧ m'.specHash? = m.specHash?) ∧
      ∀ (k : Controller) (c : Canary), c.target? = some ref →
        (w.scaled b ref counts).targetChanged b k c = w.targetChanged b k c := by
  obtain ⟨template, htemplate, hfound⟩ : ∃ template, m.template? = some template ∧
      template.get? "spec" = some (.obj pod) := by
    have hsplit := path?_append ["spec", "template"] m.body ["spec"]
    rw [List.cons_append, List.singleton_append, hpod] at hsplit
    obtain ⟨template, htemplate, hget⟩ := Option.bind_eq_some_iff.1 hsplit.symm
    exact ⟨template, htemplate, by rwa [path?_singleton] at hget⟩
  have hruns : w.Runs b ref (withoutParking template) := by
    obtain ⟨r, hordered, hread⟩ := World.exists_read hm ho
    exact ⟨ho, m, template, pod, hm, htemplate, hordered.path? _ ((Manifest.template?_eq hread).symm.trans htemplate),
      ⟨hfound, hselector⟩, rfl⟩
  obtain ⟨-, m', template', -, hm', htemplate', -, -, hversion⟩ := hruns.scaled counts
  have hhash : m'.specHash? = m.specHash? := by
    rw [Manifest.specHash?_of_template htemplate', Manifest.specHash?_of_template htemplate, hversion]
  refine ⟨⟨m', hm', hhash⟩, fun k c hc => ?_⟩
  obtain ⟨verdict, hverdict⟩ := exists_targetChanged_eq k c
  rw [hverdict, hverdict, targetHash_eq hc hm', targetHash_eq hc hm, hhash]

/-! ### A world with one pod on every node -/

/-- A workload with one pod on every node. -/
def agentRef : WorkloadRef := ⟨"apps/v1", "DaemonSet", "agent", "prod"⟩

/-- It runs on the nodes with a fast disk, and the first patch of it is to fail. -/
def agentWorld : World where
  store := { objects := [(agentRef, .obj [("apiVersion", .str "apps/v1"), ("kind", .str "DaemonSet"),
    ("metadata", .obj [("name", .str "agent"), ("namespace", .str "prod")]),
    ("spec", .obj [("template", .obj [("spec", .obj [("nodeSelector", .obj [("disk", .str "ssd")])])])])])] }
  now := default
  kinds := World.commonKinds
  faults := [⟨"PATCH", some "daemonsets/agent", .status 500, some 1⟩]

/-- A canary with this target. -/
def agentCanary : Canary where
  metadata := { name := some "agent", ns := some "prod" }
  spec := { targetRef := ⟨"apps/v1", "DaemonSet", "agent", none⟩ }

/-- The pods are described by an object and select their nodes by entries. -/
def selects (m : Manifest) : Bool :=
  match m.body.path? ["spec", "template", "spec"] with
  | some (.obj pod) =>
    match pod.lookup "nodeSelector" with
    | some (.obj _) => true
    | _ => false
  | _ => false

theorem ordered_agentWorld (r : WorkloadRef) (j : Json) (hj : agentWorld.store.get? r = some j) : j.Ordered := by
  obtain ⟨before, after, hobjects, -⟩ := List.lookup_eq_some_iff.1 hj
  have hmem : (r, j) ∈ agentWorld.store.objects := by rw [hobjects]; simp
  rw [← show (r, j).2 = j from rfl, List.mem_singleton.1 hmem]
  simp only [Ordered, OrderedMembers]
  decide

/-- The first attempt to park fails, the second parks, and a third request unparks. -/
theorem scaled_keeps_hash_agent : ∃ m, agentWorld.found .api agentRef = .ok m ∧ selects m = true ∧
    (∃ m', (agentWorld.scaled .api agentRef [0, 0, 3]).found .api agentRef = .ok m' ∧ m'.specHash? = m.specHash?) ∧
    (agentWorld.scaled .api agentRef [0, 0, 3]).targetChanged .api .daemonSet agentCanary =
      agentWorld.targetChanged .api .daemonSet agentCanary := by
  have hread : (agentWorld.found .api agentRef).toOption.any selects = true := by decide +kernel
  cases hm : agentWorld.found .api agentRef with
  | error e => rw [hm] at hread; cases hread
  | ok m =>
    rw [hm] at hread
    have hselects : selects m = true := hread
    obtain ⟨pod, selector, hpod, hselector⟩ : ∃ pod selector,
        m.body.path? ["spec", "template", "spec"] = some (.obj pod) ∧
          pod.lookup "nodeSelector" = some (.obj selector) := by
      unfold selects at hselects
      split at hselects
      · rename_i pod hpod
        split at hselects
        · rename_i selector hselector
          exact ⟨pod, selector, hpod, hselector⟩
        · cases hselects
      · cases hselects
    obtain ⟨hfound, hchanged⟩ := scaled_keeps_hash ordered_agentWorld hm hpod
      (fun j hj => ⟨selector, Option.some.inj (hj.symm.trans hselector)⟩) [0, 0, 3]
    exact ⟨m, rfl, hselects, hfound, hchanged .daemonSet agentCanary rfl⟩

end Rollout
