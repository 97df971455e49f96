/-
What is written by way of the API. A request of a controller may write a place in an object or two (`Writes`), and
where references are plain, the server of an orderly world is asked for nothing else to be written (`carry_minding`):
its paths lead to the objects that were meant (`Orderly.named?_eq`), and its patches are confined to the places.
-/
import Rollout.Proofs.Api.Effects
import Rollout.Proofs.Api.Path
import Rollout.Proofs.Workload.Frame
import Rollout.Proofs.World.Frame

namespace Rollout

open Json Program Api

/-! ## Objects under plain references -/

namespace World

variable {w : World} {a : Api.Address} {spot : WorkloadRef} {part : Api.Part} {place : Option String} {sent : Api.Sent}

/-- What a server lists of a plain version are the kinds that it knows of that. -/
theorem mem_kinds_of_listed {version kind plural : String} {known : Api.Catalogue} (hversion : Api.IsVersion version)
    (hsent : Api.kindsTarget? version = some sent) (hlisted : w.listed sent.path = .ok known)
    (hplural : known.plural? kind = some plural) :
    known.apiVersion = version ∧ ⟨⟨version, kind⟩, plural⟩ ∈ w.kinds := by
  unfold listed at hlisted
  rw [hversion.ofPath? hsent] at hlisted
  dsimp only at hlisted
  rw [run_kindsOf] at hlisted
  dsimp only at hlisted
  obtain ⟨rfl, hkinds⟩ : known.apiVersion = version ∧ known.kinds =
      (w.kinds.filter fun r : Api.Resource => r.apiVersion == version).map fun r : Api.Resource =>
        (r.kind, r.plural) := by
    split at hlisted
    · cases hlisted
    · cases hlisted
      exact ⟨rfl, rfl⟩
  obtain ⟨⟨found, plural'⟩, hfound, rfl⟩ := Option.map_eq_some_iff.1 hplural
  have hfits := List.find?_some hfound
  have hmem := List.mem_of_find?_eq_some hfound
  rw [hkinds] at hmem
  obtain ⟨r, hr, heq⟩ := List.mem_map.1 hmem
  cases heq
  obtain ⟨hr, hversion'⟩ := List.mem_filter.1 hr
  simp only [Bool.and_eq_true, beq_iff_eq] at hfits hversion'
  rw [← hfits.1, ← hversion']
  exact ⟨rfl, hr⟩

/-- The names of the kinds that every server lists are plain. -/
theorem Orderly.isPlain (hw : w.Orderly) {r : Api.Resource} (hr : r ∈ w.kinds ++ builtinKinds) :
    Api.IsPlain r.plural := by
  rcases List.mem_append.1 hr with hlisted | hbuiltin
  · exact hw.plain r hlisted
  · have hall : ∀ r ∈ builtinKinds, Api.IsPlain r.plural := by decide
    exact hall r hbuiltin

/-- A part of an object under a plain reference is found where the reference says, if it is asked for by a name that is
listed. -/
theorem Orderly.named?_eq (hw : w.Orderly) (hplain : Api.IsPlainRef a.ref)
    (hkind : a.resource ∈ w.kinds ++ builtinKinds) (hsent : Api.objectTarget? a part = some sent)
    (hn : w.named? sent.path = some (spot, place)) : spot = a.ref ∧ place = part.word? := by
  unfold named? objectAt? at hn
  rw [hplain.ofPath? (hw.isPlain hkind) hsent] at hn
  have hn' : (((w.kinds ++ builtinKinds).find? fun r =>
      r.apiVersion == a.resource.apiVersion && r.plural == a.resource.plural).map (·.kind)).map
        (fun kind => ((⟨a.resource.apiVersion, kind, a.name, a.ns⟩ : WorkloadRef), part.word?)) =
          some (spot, place) := hn
  cases hfound : (w.kinds ++ builtinKinds).find? fun r =>
      r.apiVersion == a.resource.apiVersion && r.plural == a.resource.plural with
  | none => rw [hfound] at hn'; cases hn'
  | some r =>
    rw [hfound] at hn'
    cases hn'
    have hfits := List.find?_some hfound
    simp only [Bool.and_eq_true, beq_iff_eq] at hfits
    have hsame : r.kind = a.resource.kind := hw.listed r (List.mem_of_find?_eq_some hfound) _ hkind hfits.1 hfits.2
    exact ⟨congrArg (fun kind => (⟨a.resource.apiVersion, kind, a.name, a.ns⟩ : WorkloadRef)) hsame, rfl⟩

end World

/-! ## Patches that are confined to a place -/

section Confined

variable {body : Json}

theorem confined_nested {changes : List (String × Json)} {key : String} (place : List String)
    (ho : (obj changes).Ordered) (hkey : ∀ k, k ≠ key → changes.lookup k = none) :
    (nested place (obj changes)).Confined (place ++ [key]) where
  ordered := ordered_nested ho place
  spares _ hj := (spares_merge_nested (ordered_obj_iff.1 ho).1 hkey place hj).mono fun _ => .inl

theorem lookup_single_of_ne {key : String} (value : Json) (k : String) (hk : k ≠ key) :
    [(key, value)].lookup k = none := by
  have hne : (k == key) = false := by simpa using hk
  rw [List.lookup_cons, hne]
  rfl

/-- A patch of one member is confined to that. -/
theorem confined_member (place : List String) (key : String) {value : Json} (h : value.Ordered) :
    (nested place (obj [(key, value)])).Confined (place ++ [key]) :=
  confined_nested place (ordered_nested h [key]) (lookup_single_of_ne value)

/-- What counts of a patch for the status is confined to the status. -/
theorem confined_status (h : body.Ordered) : (World.relevant (some "status") body).Confined ["status"] :=
  confined_member [] "status" h.get?

/-- What counts of a patch for the scale is confined to the replica count. -/
theorem confined_scale (h : body.Ordered) : (World.relevant (some "scale") body).Confined ["spec", "replicas"] := by
  refine confined_member ["spec"] "replicas" ?_
  cases hcount : body.path? ["spec", "replicas"] with
  | none => trivial
  | some count => exact h.path? _ hcount

/-- The patch of a workload is confined to the end of the path of its change. -/
theorem WorkloadChange.Members.confined {change : WorkloadChange} {found : Option Json} {changes : List (String × Json)}
    (h : change.Members found changes) : (nested change.place.1 (obj changes)).Confined change.path :=
  confined_nested change.place.1 h.ordered_obj h.lookup_eq_none

/-- The patch of a route is confined to the rules, apart from the version that it is for. -/
theorem confined_route {version : Json} {rules : Json} (ho : (obj [("metadata", obj [("resourceVersion", version)]),
    ("spec", obj [("rules", rules)])]).Ordered) :
    (obj [("metadata", obj [("resourceVersion", version)]), ("spec", obj [("rules", rules)])]).Confined
      ["spec", "rules"] where
  ordered := ho
  spares j hj := by
    have hmembers := (ordered_obj_iff.1 ho).2
    have hversion : (obj [("resourceVersion", version)]).Ordered := hmembers ("metadata", _) (by simp)
    have hrules : (obj [("rules", rules)]).Ordered := hmembers ("spec", _) (by simp)
    have hfirst := spares_merge_nested (ordered_obj_iff.1 hversion).1 (lookup_single_of_ne version) ["metadata"] hj
    have hmerged : (merge (nested ["metadata"] (obj [("resourceVersion", version)])) j).Ordered :=
      (ordered_nested hversion ["metadata"]).merge hj
    have hsecond := spares_merge_nested (ordered_obj_iff.1 hrules).1 (lookup_single_of_ne rules) ["spec"] hmerged
    rw [merge_cons]
    exact (hfirst.mono fun _ => .inr).trans (hsecond.mono fun _ => .inl)

end Confined

/-! ## What requests write -/

/-- The places that a request may write, each in the object under an identity. -/
def Cluster.Request.Writes : Cluster.Request → WorkloadRef → List String → Prop
  | .change ref c, spot, place => spot = ref ∧ place = c.path
  | .scale ref _, spot, place => spot = ref ∧ place = ["spec", "replicas"]
  | .writeStatus c _, spot, place => spot = (Api.canaryAt c.ns c.name).ref ∧ place = ["status"]
  | .setRoutes c _, spot, place | .reconcileRoutes c, spot, place =>
    ∃ ns, c.targetNamespace? = some ns ∧ spot = (Api.routeAt c ns).ref ∧ place = ["spec", "rules"]
  | _, _, _ => False

/-- A canary that is read under a plain reference is the one that was asked for. -/
def Cluster.Answers : (r : Cluster.Request) → Cluster.Reply r → Prop
  | .canary ns name, reply => Api.IsPlainRef (Api.canaryAt ns name).ref → ∀ c, reply = .ok c → c.ns = ns ∧ c.name = name
  | _, _ => True

/-- A text that may be missing is the one that is found. -/
theorem Json.optional_text?_eq {members : List (String × Json)} {key : String} {text : Option String}
    (h : optional Json.text? key members = some text) : (members.lookup key).bind Json.text? = text := by
  rcases optional_eq_some_iff.1 h with ⟨rfl, hnone⟩ | ⟨j, v, hj, -, hv, rfl⟩
  · cases hl : members.lookup key with
    | none => rfl
    | some j => rw [hl] at hnone; rw [show j = .null from hnone]; rfl
  · rw [hj]
    exact hv

/-- The canary that is read from an object has the name and the namespace that the object gives itself. -/
theorem Canary.identity_of_read {j r : Json} {c : Canary} {ns name : String} (hr : j.ReadAs r)
    (hc : Canary.ofJson? r = some c) (hj : Store.identity j = (Api.canaryAt ns name).ref) (hname : name ≠ "") :
    c.ns = ns ∧ c.name = name := by
  obtain ⟨members, metadata, rfl, hmeta, hm, -⟩ := ofJson?_eq_some hc
  unfold Metadata.ofJson? at hm
  simp only [Option.bind_eq_bind, Option.bind_eq_some_iff, Option.pure_def, Option.some.injEq] at hm
  obtain ⟨readName, hreadName, _, -, readNs, hreadNs, _, -, _, -, _, -, _, -, _, -, hm⟩ := hm
  -- what is read of the metadata is what the object holds there
  have hfound : ∀ key, (j.path? ["metadata", key]).bind Json.text? = (metadata.lookup key).bind Json.text? := by
    intro key
    have hpath : (obj members).path? ["metadata", key] = metadata.lookup key := by
      rw [path?_cons, show (obj members).get? "metadata" = some (.obj metadata) from hmeta, Option.bind_some,
        path?_singleton]
      rfl
    have hrel := hr.path? ["metadata", key]
    rw [hpath] at hrel
    revert hrel
    generalize j.path? ["metadata", key] = found, metadata.lookup key = read
    intro hrel
    cases hrel with
    | none => rfl
    | some h => exact h.text?.symm
  have hnamed : readName.getD "" = name := by
    rw [← optional_text?_eq hreadName, ← hfound]
    exact congrArg WorkloadRef.name hj
  have hplaced : readNs.getD "" = ns := by
    rw [← optional_text?_eq hreadNs, ← hfound]
    exact congrArg WorkloadRef.ns hj
  unfold Canary.ns Canary.name Metadata.displayName
  rw [← hm]
  refine ⟨hplaced, ?_⟩
  cases readName with
  | none => exact absurd hnamed.symm hname
  | some text => exact hnamed

namespace Api

section Requests

variable {origin : World} {written : WorkloadRef → List String → Prop} {α : Type} {decode : Json → Option α}
  {a : Address}

/-- Work that minds what it may write. -/
abbrev Minding {ε : Type} (origin : World) (written : WorkloadRef → List String → Prop) (good : α → Prop)
    (x : ExceptT ε (Program interface) α) : Prop :=
  Yields (World.Tells origin) (World.Minds origin written) good x

theorem kinds_minding (version : String) : (kinds version).Relies (World.Tells origin) (World.Minds origin written)
    fun reply => ∀ known, reply = .ok known →
      ∃ sent, kindsTarget? version = some sent ∧ origin.listed sent.path = .ok known := by
  unfold kinds
  split
  · rename_i sent hsent
    exact .ask trivial fun reply htells => .done fun known hknown => ⟨sent, hsent, htells known hknown⟩
  · exact .done fun _ h => by cases h

/-- An object is read in order and with the identity under which it was asked for. -/
theorem get_minding (decode : Json → Option α) (a : Address) :
    (get decode a).Relies (World.Tells origin) (World.Minds origin written) fun reply => ∀ x, reply = .ok x →
      ∃ sent spot part j r, objectTarget? a .whole = some sent ∧ origin.named? sent.path = some (spot, part) ∧
        j.Ordered ∧ Store.identity j = spot ∧ j.ReadAs r ∧ decode r = some x := by
  unfold get
  split
  · rename_i sent hsent
    refine .ask trivial fun reply htells => ?_
    cases reply with
    | error failure => exact .done fun _ h => by cases h
    | ok j =>
      refine .done fun x hx => ?_
      obtain ⟨spot, part, hn, ho, hidentity⟩ := htells j rfl
      obtain ⟨r, hr, hdecode⟩ := readable_eq_ok_iff.1 (show readable decode j = .ok x from hx)
      exact ⟨sent, spot, part, j, r, hsent, hn, ho, hidentity, hr, hdecode⟩
  · exact .done fun _ h => by cases h

/-- A patch minds what it may write if what counts of it, as it arrives, is confined to that. -/
theorem patch_minding (decode : Json → Option α) {part : Part} {body : Json}
    (hbody : ∀ sent body', objectTarget? a part = some sent → body.resent? = some body' →
      World.Minds origin written (.patch sent.path body')) :
    (patch decode a part body).Relies (World.Tells origin) (World.Minds origin written) fun _ => True := by
  unfold patch
  split
  · rename_i sent body' hsent hbody'
    refine .ask (hbody sent body' hsent hbody') fun reply _ => ?_
    cases reply <;> exact .done trivial
  · exact .done trivial

end Requests

section Requests

variable {origin : World} {written : WorkloadRef → List String → Prop} {ref : WorkloadRef}

/-! ### Workloads -/

/-- A workload of a plain version is found where its kind is listed. -/
theorem resolve_minding (ref : WorkloadRef) : Minding origin written (fun a => IsVersion ref.apiVersion →
    a.ref = ref ∧ a.resource ∈ origin.kinds) (resolve ref) := by
  unfold resolve
  refine Yields.bind (yields_lift (kinds_minding ref.apiVersion)) fun reply hreply => ?_
  cases reply with
  | error failure => exact yields_throw _
  | ok known =>
    obtain ⟨sent, hsent, hlisted⟩ := hreply known rfl
    dsimp only
    cases hplural : known.plural? ref.kind with
    | none => exact yields_throw _
    | some plural =>
      refine yields_pure fun hversion => ?_
      obtain ⟨hknown, hmem⟩ := World.mem_kinds_of_listed hversion hsent hlisted hplural
      rw [hknown]
      exact ⟨rfl, hmem⟩

theorem live_minding (a : Address) : Minding origin written (fun m : Manifest =>
    ∃ j r : Json, j.Ordered ∧ j.ReadAs r ∧ Manifest.ofJson? r = some m) (live a) := by
  unfold live
  refine Yields.bind (yields_lift (get_minding Manifest.ofJson? a)) fun reply hreply => ?_
  split
  · obtain ⟨-, -, -, j, r, -, -, ho, -, hr, hm⟩ := hreply _ rfl
    exact yields_pure ⟨j, r, ho, hr, hm⟩
  · exact yields_throw _
  · exact yields_throw _

theorem workload_minding (ref : WorkloadRef) : Minding origin written (fun _ => True) (workload ref) :=
  (resolve_minding ref).bind fun a _ => (live_minding a).mono fun _ _ => trivial

theorem accessResult_minding {α : Type} (reply : Except ApiFailure α) :
    Minding origin written (fun _ => True) (accessResult reply) := by
  cases reply with
  | error failure => exact yields_throw _
  | ok a => exact yields_pure trivial

theorem revisions_minding (ns component : String) :
    Minding origin written (fun _ => True) (revisions ns component) := by
  unfold revisions
  split
  · refine Yields.bind (yields_lift (.ask trivial fun _ _ => .done trivial)) fun reply (_ : True) => ?_
    exact (accessResult_minding reply).bind fun items _ => accessResult_minding _
  · exact yields_throw _

/-- A patch of a part of an object under a plain reference minds what it may write, if what counts of it is confined to
that. -/
theorem minds_patch (horigin : origin.Orderly) {a : Address} (hplain : IsPlainRef a.ref)
    (hkind : a.resource ∈ origin.kinds ++ World.builtinKinds) {part : Part} {body : Json} {place : List String}
    (hplace : written a.ref place) (hbody : (World.relevant part.word? body).Confined place)
    {sent : Sent} (hsent : objectTarget? a part = some sent) :
    World.Minds origin written (.patch sent.path body) := by
  intro spot found hn
  obtain ⟨rfl, rfl⟩ := horigin.named?_eq hplain hkind hsent hn
  exact ⟨place, hplace, hbody⟩

theorem change_minding (horigin : origin.Orderly) (hplain : IsPlainRef ref) {c : WorkloadChange}
    (hplace : written ref c.path) : Minding origin written (fun _ => True) (change ref c) := by
  unfold change
  refine Yields.bind (resolve_minding ref) fun a haddress => ?_
  obtain ⟨rfl, hkind⟩ := haddress hplain.version
  refine Yields.bind (live_minding a) fun m ⟨j, r, ho, hr, hm⟩ => ?_
  show Minding _ _ _ (ite _ _ _)
  split
  · exact yields_pure trivial
  · rename_i hchanged
    refine Yields.bind (yields_lift (patch_minding _ fun sent body' hsent hbody' => ?_)) fun reply _ =>
      (accessResult_minding reply).bind fun _ _ => yields_pure trivial
    refine minds_patch horigin hplain (List.mem_append_left _ hkind) hplace ?_ hsent
    obtain ⟨members, hjson, hordered⟩ := Manifest.ordered_toJson hm (hr.ordered ho)
    rw [hjson] at hbody' hchanged
    rcases c.patch_eq hordered with ⟨hempty, -⟩ | ⟨changes, hpatch, hmembers⟩
    · rw [hempty] at hchanged
      exact absurd rfl hchanged
    · rw [hpatch, show (nested c.place.1 (obj changes)).resent? = some _ from steady_nested hmembers.steady _] at hbody'
      cases hbody'
      exact hmembers.confined

end Requests

section Requests

variable {origin : World} {written : WorkloadRef → List String → Prop} {ref : WorkloadRef} (horigin : origin.Orderly)

include horigin

theorem scale_minding (hplain : IsPlainRef ref) (replicas : Int32) (hplace : written ref ["spec", "replicas"]) :
    Minding origin written (fun _ => True) (scale ref replicas) := by
  unfold scale
  refine Yields.bind (resolve_minding ref) fun a haddress => ?_
  obtain ⟨rfl, hkind⟩ := haddress hplain.version
  refine Yields.bind (yields_lift (patch_minding _ fun sent body' hsent hbody' => ?_)) fun reply _ =>
    (accessResult_minding reply).bind fun _ _ => yields_pure trivial
  have hordered : (Json.object [("spec", .object [("replicas", .ofInt32 replicas)])]).Ordered :=
    ordered_nested (j := .ofInt32 replicas) trivial ["spec", "replicas"]
  refine minds_patch horigin hplain (List.mem_append_left _ hkind) hplace ?_ hsent
  exact confined_scale (ReadAs.ordered hbody' hordered)

/-! ### Canaries -/

omit horigin in
theorem canaryResource_mem (kinds : List Resource) : canaryResource ∈ kinds ++ World.builtinKinds :=
  List.mem_append_right _ (List.mem_cons_self ..)

theorem canary_minding (ns name : String) : (canary ns name).Relies (World.Tells origin) (World.Minds origin written)
    (Cluster.Answers (.canary ns name)) := by
  unfold canary
  refine Relies.bind (get_minding Canary.ofJson? (canaryAt ns name)) fun reply hreply => ?_
  split
  · obtain ⟨sent, spot, part, j, r, hsent, hn, -, hidentity, hr, hc⟩ := hreply _ rfl
    refine .done fun hplain c heq => ?_
    cases heq
    obtain ⟨rfl, -⟩ := horigin.named?_eq hplain (canaryResource_mem _) hsent hn
    refine Canary.identity_of_read hr hc hidentity fun hempty => ?_
    subst hempty
    cases hsent
  · exact .done fun _ _ h => by cases h
  · exact .done fun _ _ h => by cases h

omit horigin in
theorem ordered_statusPatch (c : Canary) (status : CanaryStatus) : (c.statusPatch status).Ordered := by
  refine ordered_object ?_
  simp only [List.forall_mem_cons]
  refine ⟨ordered_object ?_, Ordered.diff (CanaryStatus.ordered_toJson status), by simp⟩
  simp only [List.forall_mem_cons]
  exact ⟨by cases c.resourceVersion <;> trivial, by simp⟩

theorem writeStatus_minding {c : Canary} (status : CanaryStatus) (hplain : IsPlainRef (canaryAt c.ns c.name).ref)
    (hplace : written (canaryAt c.ns c.name).ref ["status"]) :
    (writeStatus c status).Relies (World.Tells origin) (World.Minds origin written) fun _ => True := by
  unfold writeStatus
  refine Relies.bind (patch_minding _ fun sent body' hsent hbody' => ?_) fun reply _ => ?_
  · refine minds_patch horigin hplain (canaryResource_mem _) hplace ?_ hsent
    exact confined_status (ReadAs.ordered hbody' (ordered_statusPatch c status))
  · split <;> exact .done trivial

/-! ### Routes -/

omit horigin in
theorem routeAddress_minding (c : Canary) : Minding origin written (fun a =>
    ∃ ns, c.targetNamespace? = some ns ∧ a = routeAt c ns) (routeAddress c) := by
  unfold routeAddress
  split
  · rename_i ns hns
    exact yields_pure ⟨ns, hns, rfl⟩
  · exact yields_throw _

omit horigin in
theorem route_minding (a : Address) : Minding origin written (fun found => ∀ m, found = some m →
    ∃ j r : Json, j.Ordered ∧ j.ReadAs r ∧ Manifest.ofJson? r = some m) (route a) := by
  unfold route
  refine Yields.bind (yields_lift (get_minding Manifest.ofJson? a)) fun reply hreply => ?_
  split
  · obtain ⟨-, -, -, j, r, -, -, ho, -, hr, hm⟩ := hreply _ rfl
    exact yields_pure fun m heq => by cases heq; exact ⟨j, r, ho, hr, hm⟩
  · exact yields_pure fun _ h => by cases h
  · exact yields_throw _

omit horigin in
/-- The patch of a route arrives as one, with its rules as they are read. -/
theorem confined_of_routePatch {version : Json} {rules : List Json} {body : Json}
    (ho : (routePatch version rules).Ordered) (h : (routePatch version rules).ReadAs body) :
    body.Confined ["spec", "rules"] := by
  have hordered := h.ordered ho
  obtain ⟨read, hread, rfl⟩ := readAs_obj_iff.1 h
  obtain ⟨metadata, rest, hmetadata, hrest, rfl⟩ := resentMembers?_cons_iff.1 hread
  obtain ⟨spec, rest', hspec, hrest', rfl⟩ := resentMembers?_cons_iff.1 hrest
  obtain ⟨metadata', hmetadata', rfl⟩ := readAs_obj_iff.1 hmetadata
  obtain ⟨version', rest'', -, hversion, rfl⟩ := resentMembers?_cons_iff.1 hmetadata'
  obtain ⟨spec', hspec', rfl⟩ := readAs_obj_iff.1 hspec
  obtain ⟨rules', rest''', -, hrules, rfl⟩ := resentMembers?_cons_iff.1 hspec'
  cases hrest'
  cases hversion
  cases hrules
  exact confined_route hordered

theorem setRoutes_minding {c : Canary} (weights : RouteWeights)
    (hwrites : ∀ ns, c.targetNamespace? = some ns →
      IsPlainRef (routeAt c ns).ref ∧ written (routeAt c ns).ref ["spec", "rules"]) :
    Minding origin written (fun _ => True) (setRoutes c weights) := by
  unfold setRoutes
  refine Yields.bind (routeAddress_minding c) fun a ⟨ns, hns, haddress⟩ => ?_
  subst haddress
  obtain ⟨hplain, hplace⟩ := hwrites ns hns
  refine Yields.bind (route_minding _) fun found hfound => ?_
  cases found with
  | none => exact yields_pure trivial
  | some m =>
    obtain ⟨j, r, ho, hr, hm⟩ := hfound m rfl
    have hkind : (routeAt c ns).resource ∈ origin.kinds ++ World.builtinKinds :=
      List.mem_append_right _ (by simp [World.builtinKinds, routeAt])
    refine Yields.bind (yields_lift (patch_minding _ fun sent body' hsent hbody' => ?_)) fun reply _ => ?_
    · refine minds_patch horigin hplain hkind hplace ?_ hsent
      rw [HttpRoute.patch_eq] at hbody'
      refine confined_of_routePatch (ordered_routePatch ?_ (HttpRoute.ordered_splitRules ?_)) hbody'
      · cases m.metadata.resourceVersion <;> trivial
      · rw [HttpRoute.rules_body hr (Manifest.get?_body hm)]
        exact HttpRoute.ordered_rulesRead fun _ h => ho.path? _ h
    · split
      · exact yields_pure trivial
      · exact yields_pure trivial
      · exact yields_throw _

theorem reconcileRoutes_minding {c : Canary}
    (hwrites : ∀ ns, c.targetNamespace? = some ns →
      IsPlainRef (routeAt c ns).ref ∧ written (routeAt c ns).ref ["spec", "rules"]) :
    Minding origin written (fun _ => True) (reconcileRoutes c) := by
  unfold reconcileRoutes
  refine Yields.bind (routeAddress_minding c) fun a _ => ?_
  refine Yields.bind (route_minding _) fun found _ => ?_
  cases found with
  | none => exact yields_pure trivial
  | some m =>
    show Minding _ _ _ (ite _ _ _)
    split
    · exact yields_pure trivial
    · exact setRoutes_minding horigin _ hwrites

omit horigin in
theorem getRoutes_minding (c : Canary) : Minding origin written (fun _ => True) (getRoutes c) := by
  unfold getRoutes
  refine Yields.bind (routeAddress_minding c) fun a _ => ?_
  refine Yields.bind (route_minding _) fun found _ => ?_
  cases found <;> exact yields_pure trivial

/-! ### All requests -/

/-- Whatever is asked of the cluster, the server is asked for nothing else to be written than what the request may
write. -/
theorem carry_minding (r : Cluster.Request)
    (hwrites : ∀ ref place, r.Writes ref place → IsPlainRef ref ∧ written ref place) :
    (carry r).Relies (World.Tells origin) (World.Minds origin written) (Cluster.Answers r) := by
  cases r with
  | workload ref => exact Relies.mono (workload_minding ref) fun _ _ => trivial
  | revisions ns component => exact Relies.mono (revisions_minding ns component) fun _ _ => trivial
  | change ref c =>
    obtain ⟨hplain, hplace⟩ := hwrites ref c.path ⟨rfl, rfl⟩
    exact Relies.mono (change_minding horigin hplain hplace) fun _ _ => trivial
  | scale ref replicas =>
    obtain ⟨hplain, hplace⟩ := hwrites ref _ ⟨rfl, rfl⟩
    exact Relies.mono (scale_minding horigin hplain replicas hplace) fun _ _ => trivial
  | canary ns name => exact canary_minding horigin ns name
  | writeStatus c status =>
    obtain ⟨hplain, hplace⟩ := hwrites _ _ ⟨rfl, rfl⟩
    exact writeStatus_minding horigin status hplain hplace
  | configRefs | configChanged | now | pause => exact .ask trivial fun _ _ => .done trivial
  | reconcileRoutes c =>
    exact Relies.mono (reconcileRoutes_minding horigin fun ns hns => hwrites _ _ ⟨ns, hns, rfl, rfl⟩) fun _ _ => trivial
  | setRoutes c weights =>
    exact Relies.mono (setRoutes_minding horigin weights fun ns hns => hwrites _ _ ⟨ns, hns, rfl, rfl⟩)
      fun _ _ => trivial
  | getRoutes c => exact Relies.mono (getRoutes_minding c) fun _ _ => trivial
  | finalizeRoutes c => exact .done trivial

end Requests

/-! ### Requests that look -/

section Looking

variable {α ε : Type}

/-- Work that patches nothing, whatever it is answered. -/
abbrev Looking (x : ExceptT ε (Program interface) α) : Prop :=
  Yields (fun _ _ => True) Request.IsNoPatch (fun _ => True) x

theorem get_looking (decode : Json → Option α) (a : Address) :
    (get decode a).Relies (fun _ _ => True) Request.IsNoPatch fun _ => True := by
  unfold get
  split
  · refine .ask (fun _ _ h => by cases h) fun reply _ => ?_
    cases reply <;> exact .done trivial
  · exact .done trivial

theorem workload_looking (ref : WorkloadRef) : Looking (workload ref) := by
  have hkinds : (kinds ref.apiVersion).Relies (fun _ _ => True) Request.IsNoPatch fun _ => True := by
    unfold kinds
    split
    · exact .ask (fun _ _ h => by cases h) fun _ _ => .done trivial
    · exact .done trivial
  have hresolve : Looking (resolve ref) := by
    refine Yields.bind (yields_lift hkinds) fun reply _ => ?_
    cases reply with
    | error failure => exact yields_throw _
    | ok known =>
      dsimp only
      cases known.plural? ref.kind with
      | none => exact yields_throw _
      | some plural => exact yields_pure trivial
  refine hresolve.bind fun a _ => Yields.bind (yields_lift (get_looking _ a)) fun reply _ => ?_
  split
  · exact yields_pure trivial
  · exact yields_throw _
  · exact yields_throw _

theorem revisions_looking (ns component : String) : Looking (revisions ns component) := by
  have hresult : ∀ {α : Type} (reply : Except ApiFailure α), Looking (accessResult reply) := by
    intro α reply
    cases reply with
    | error failure => exact yields_throw _
    | ok a => exact yields_pure trivial
  unfold revisions
  split
  · refine Yields.bind (yields_lift (.ask ?_ fun _ _ => .done trivial)) fun reply (_ : True) => ?_
    · exact fun _ _ h => by cases h
    exact (hresult reply).bind fun items _ => hresult _
  · exact yields_throw _

theorem canary_looking (ns name : String) :
    (canary ns name).Relies (fun _ _ => True) Request.IsNoPatch fun _ => True := by
  refine Relies.bind (get_looking Canary.ofJson? (canaryAt ns name)) fun reply _ => ?_
  split <;> exact .done trivial

theorem getRoutes_looking (c : Canary) : Looking (getRoutes c) := by
  have haddress : Looking (routeAddress c) := by
    unfold routeAddress
    split
    · exact yields_pure trivial
    · exact yields_throw _
  have hroute : ∀ a, Looking (route a) := by
    intro a
    refine Yields.bind (yields_lift (get_looking _ a)) fun reply _ => ?_
    split
    · exact yields_pure trivial
    · exact yields_pure trivial
    · exact yields_throw _
  refine haddress.bind fun a _ => (hroute a).bind fun found _ => ?_
  cases found <;> exact yields_pure trivial

/-- Looking patches nothing. -/
theorem carry_looking {r : Cluster.Request} (h : r.Looks) :
    (carry r).Relies (fun _ _ => True) Request.IsNoPatch fun _ => True := by
  have hany : ∀ {α ε : Type} {x : ExceptT ε (Program interface) α}, Looking x →
      x.run.Relies (fun _ _ => True) Request.IsNoPatch fun _ => True := fun h => Relies.mono h fun _ _ => trivial
  cases r with
  | workload ref => exact hany (workload_looking ref)
  | revisions ns component => exact hany (revisions_looking ns component)
  | canary ns name => exact canary_looking ns name
  | getRoutes c => exact hany (getRoutes_looking c)
  | configRefs | configChanged | now | pause => exact .ask (fun _ _ h => by cases h) fun _ _ => .done trivial
  | change | scale | writeStatus | reconcileRoutes | setRoutes | finalizeRoutes => cases h

end Looking

end Api

end Rollout
