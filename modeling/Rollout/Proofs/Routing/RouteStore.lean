/-
Routes as a server keeps them for several writers. A store holds the routes by their paths, each at the version of
the write that put it; a patch for another version than the stored one is refused, and every write gets a version
that was never issued, so that a patch for the version of a route that was seen gets through on that route alone
(`RouteStore.Seen.eq_of_not_outdated`). Main statements: `RouteStore.Split.exact` and `RouteStore.Split.rulesKept`,
what is put by a split whose rules come through as text unchanged.
-/
import Rollout.Proofs.Routing.Written

namespace Rollout

open Json Api Store

/-! ## Stored routes -/

/-- An object at a version. -/
def Json.atVersion (version : String) (j : Json) : Json :=
  j.update (·.set "resourceVersion" (.str version)) ["metadata"]

theorem Json.versionOf?_atVersion (version : String) (j : Json) :
    versionOf? (j.atVersion version) = some (.str version) := by
  unfold versionOf? atVersion
  rw [update, path?_cons, get?_set, if_pos rfl, Option.bind_some, path?_singleton, update, get?_set, if_pos rfl]

theorem Json.path?_atVersion (version : String) {key : String} (hkey : key ≠ "metadata") (j : Json)
    (rest : List String) : (j.atVersion version).path? (key :: rest) = j.path? (key :: rest) := by
  unfold atVersion
  rw [update, path?_cons, get?_set, if_neg hkey, path?_cons]

theorem Json.ordered_atVersion {j : Json} (h : j.Ordered) (version : String) : (j.atVersion version).Ordered :=
  Ordered.update (fun hj => hj.set (v := .str version) "resourceVersion" trivial) ["metadata"] h

/-- The routes by their paths, and the versions that have been issued. -/
structure RouteStore where
  stored : String → Option Json
  issued : Set String

namespace RouteStore

/-- The store with a route put or removed. -/
def put (s : RouteStore) (path : String) (route : Option Json) : RouteStore :=
  { s with stored := Function.update s.stored path route }

/-- The store with a route put at a version. -/
def putAt (s : RouteStore) (path : String) (route : Json) (version : String) : RouteStore :=
  { s.put path (some route) with issued := insert version s.issued }

/-- Every stored route is in order and at an issued version. -/
def Versioned (s : RouteStore) : Prop :=
  ∀ path route, s.stored path = some route → route.Ordered ∧ ∃ v ∈ s.issued, versionOf? route = some (.str v)

/-- The route was stored at this path at its version: whatever is stored there at that version, now or later, is
the route itself. -/
def Seen (s : RouteStore) (path : String) (route : Json) : Prop :=
  ∃ v ∈ s.issued, versionOf? route = some (.str v) ∧
    ∀ route', s.stored path = some route' → versionOf? route' = some (.str v) → route' = route

@[simp] theorem put_stored (s : RouteStore) (path : String) (route : Option Json) (path' : String) :
    (s.put path route).stored path' = if path' = path then route else s.stored path' :=
  Function.update_apply ..

@[simp] theorem putAt_stored (s : RouteStore) (path : String) (route : Json) (version path' : String) :
    (s.putAt path route version).stored path' = if path' = path then some route else s.stored path' :=
  Function.update_apply ..

@[simp] theorem putAt_issued (s : RouteStore) (path : String) (route : Json) (version : String) :
    (s.putAt path route version).issued = insert version s.issued := rfl

variable {s : RouteStore} {path path' version : String} {route route' : Json}

theorem putAt_ne (hnew : version ∉ s.issued) : s.putAt path route version ≠ s := fun hsame =>
  have hissued : insert version s.issued = s.issued := congrArg issued hsame
  hnew (hissued ▸ Set.mem_insert ..)

theorem Versioned.removed (h : s.Versioned) (path : String) : (s.put path none).Versioned := by
  intro path' route' hroute'
  rw [put_stored] at hroute'
  split at hroute'
  · cases hroute'
  · exact h path' route' hroute'

theorem Seen.removed (h : s.Seen path route) (path' : String) : (s.put path' none).Seen path route := by
  obtain ⟨v, hv, hversion, hsame⟩ := h
  refine ⟨v, hv, hversion, fun route' hroute' => ?_⟩
  rw [put_stored] at hroute'
  split at hroute'
  · cases hroute'
  · exact hsame route' hroute'

theorem Versioned.putAt (h : s.Versioned) (ho : route.Ordered) (hversion : versionOf? route = some (.str version)) :
    (s.putAt path route version).Versioned := by
  intro path' route' hroute'
  rw [putAt_stored] at hroute'
  split at hroute'
  · cases hroute'
    exact ⟨ho, version, Set.mem_insert .., hversion⟩
  · obtain ⟨ho', v, hv, hversion'⟩ := h path' route' hroute'
    exact ⟨ho', v, Set.mem_insert_of_mem _ hv, hversion'⟩

theorem Seen.putAt (h : s.Seen path route) (hnew : version ∉ s.issued)
    (hversion : versionOf? route' = some (.str version)) : (s.putAt path' route' version).Seen path route := by
  obtain ⟨v, hv, hseen, hsame⟩ := h
  refine ⟨v, Set.mem_insert_of_mem _ hv, hseen, fun found hfound hversion' => ?_⟩
  rw [putAt_stored] at hfound
  split at hfound
  · -- what is put is at the new version, not at the one that was read
    cases hfound
    rw [hversion] at hversion'
    cases hversion'
    exact absurd hv hnew
  · exact hsame found hfound hversion'

/-- What is stored is seen. -/
theorem Versioned.seen (h : s.Versioned) (hroute : s.stored path = some route) : s.Seen path route := by
  obtain ⟨-, v, hv, hversion⟩ := h path route hroute
  refine ⟨v, hv, hversion, fun route' hroute' _ => ?_⟩
  rw [hroute] at hroute'
  exact (Option.some.inj hroute').symm

/-- A patch for the version of a route that was seen gets through on that route alone. -/
theorem Seen.eq_of_not_outdated (h : s.Seen path route) {body : Json} (hbody : versionOf? body = versionOf? route)
    (hroute' : s.stored path = some route') (hversion : World.isOutdated body route' = false) : route' = route := by
  obtain ⟨v, -, hseen, hsame⟩ := h
  refine hsame route' hroute' ?_
  unfold World.isOutdated at hversion
  rw [hbody, hseen] at hversion
  dsimp only at hversion
  cases hfound : versionOf? route' with
  | none => rw [hfound] at hversion; cases hversion
  | some stored =>
    rw [hfound] at hversion
    have hsame : stored.same (.str v) = true := by simpa using hversion
    rw [eq_of_str_same (same_symm hsame)]

end RouteStore

/-! ## Answers -/

/-- A failure that says, by its code or its reason, that nothing is there. -/
def ApiFailure.saysMissing : ApiFailure → Prop
  | .status code reason => code = 404 ∨ reason = "NotFound"
  | .unreadable => False

namespace RouteStore

/-- How a server may answer a request, and the store it then is. -/
inductive Answers : RouteStore → (r : Api.Request) → Api.Reply r → RouteStore → Prop
  | found {s : RouteStore} {path : String} {route : Json} :
      s.stored path = some route → Answers s (.get path) (.ok route) s
  /-- The route is not there, or the request fails for another reason. -/
  | unread {s : RouteStore} {path : String} (failure : ApiFailure) :
      (failure.saysMissing → s.stored path = none) → Answers s (.get path) (.error failure) s
  /-- The patch is not for another version, and the answer is what the route then is. -/
  | patched {s : RouteStore} {path version : String} {body route : Json} :
      s.stored path = some route → World.isOutdated body route = false → version ∉ s.issued →
      Answers s (.patch path body) (.ok ((body.merge route).atVersion version))
        (s.putAt path ((body.merge route).atVersion version) version)
  /-- The patch is carried out, but its answer is lost. -/
  | unacknowledged {s : RouteStore} {path version : String} {body route : Json} (failure : ApiFailure) :
      s.stored path = some route → World.isOutdated body route = false → version ∉ s.issued → ¬ failure.saysMissing →
      Answers s (.patch path body) (.error failure) (s.putAt path ((body.merge route).atVersion version) version)
  /-- The patch is for another version, or is not carried out for another reason. -/
  | refused {s : RouteStore} {path : String} {body : Json} (failure : ApiFailure) :
      (failure.saysMissing → s.stored path = none) → Answers s (.patch path body) (.error failure) s
  /-- Requests that do not concern routes. -/
  | aside {s : RouteStore} {r : Api.Request} (reply : Api.Reply r) :
      (∀ path, r ≠ .get path) → (∀ path body, r ≠ .patch path body) → Answers s r reply s

end RouteStore

/-- The patch for a route is for the version at which the route was read. -/
theorem HttpRoute.versionOf?_patch {c : Canary} {w : RouteWeights} {route r body : Json} {m : Manifest}
    {version : String} (hr : route.ReadAs r) (hm : Manifest.ofJson? r = some m) (hbody : (patch c w m).ReadAs body)
    (hversion : versionOf? route = some (.str version)) : versionOf? body = some (.str version) := by
  have hsame : ∀ {j read : Json}, j.ReadAs read → versionOf? j = some (.str version) →
      versionOf? read = some (.str version) := by
    intro j read hread hj
    have hrel := hread.path? ["metadata", "resourceVersion"]
    rw [show j.path? ["metadata", "resourceVersion"] = _ from hj] at hrel
    obtain ⟨found, hfound, hstr⟩ := exists_of_rel_some hrel
    rw [hstr.unique (show (str version).ReadAs (str version) from rfl)] at hfound
    exact hfound
  refine hsame hbody ?_
  rw [patch_eq, Manifest.resourceVersion_of_versionOf? hm (hsame hr hversion)]
  rfl

/-! ## What a split does to a store -/

/-- From one store to the next, the split has been written at a path: the patch is made for the route that is stored
there before, as it is read over the wire, and is merged, as it is read at the other end, into that route, which is
put at a new version. Nothing else is changed. -/
structure RouteStore.Split (c : Canary) (w : RouteWeights) (path : String) (before after : RouteStore) (route : Json) :
    Prop where
  stored : before.stored path = some route
  merged : ∃ r m body version, route.ReadAs r ∧ Manifest.ofJson? r = some m ∧ (HttpRoute.patch c w m).ReadAs body ∧
    version ∉ before.issued ∧ after = before.putAt path ((body.merge route).atVersion version) version

namespace HttpRoute

/-- Rules that come through as text unchanged are read as they are stored. -/
theorem rulesRead_eq_rules {route : Json} (h : ∀ rule ∈ rules route, rule.Steady) :
    rulesRead (route.path? ["spec", "rules"]) = rules route := by
  unfold rules at h ⊢
  rw [pointer?_eq_path? (by decide +kernel)] at h ⊢
  cases hfound : route.path? ["spec", "rules"] with
  | none => rfl
  | some j =>
    rw [hfound] at h
    cases j
    case arr items => exact rulesRead_of_steady h
    case obj members =>
      unfold rulesRead
      rw [Option.bind_some, resent?]
      cases resentMembers? members <;> rfl
    case double x =>
      unfold rulesRead
      rw [Option.bind_some, resent?]
      cases x.resent? <;> rfl
    all_goals rfl

/-- From one route to the next, the further rules are as they were, and so is the first, but for its backends and the
filters that shadow requests. -/
def RulesKept (before after : Json) : Prop :=
  ∀ first rest, before.path? ["spec", "rules"] = some (.arr (first :: rest)) →
    ∃ first', after.path? ["spec", "rules"] = some (.arr (first' :: rest)) ∧
      (∀ key, key ≠ "backendRefs" → key ≠ "filters" → first'.get? key = first.get? key) ∧
      (filters first').filter (!isMirror ·) = (filters first).filter (!isMirror ·)

end HttpRoute

section Exact

variable {c : Canary} {w : RouteWeights} {path : String} {before after : RouteStore} {route : Json}

/-- A split leaves another store. -/
theorem RouteStore.Split.ne (h : Split c w path before after route) : after ≠ before := by
  obtain ⟨-, r, m, body, version, -, -, -, hnew, rfl⟩ := h
  exact putAt_ne hnew

/-- Where the rules come through as text unchanged, what is put is the route with the split written into it. -/
theorem RouteStore.Split.exact (h : Split c w path before after route) (ho : route.Ordered)
    (hs : ∀ rule ∈ HttpRoute.rules route, rule.Steady) : ∃ m version, Manifest.ofJson? route = some m ∧
      version ∉ before.issued ∧
      after = before.putAt path ((HttpRoute.written c w m route).atVersion version) version := by
  obtain ⟨-, r, m, body, version, hr, hm, hbody, hnew, rfl⟩ := h
  obtain ⟨m', hm', hmetadata⟩ := hr.exists_ofJson? hm
  have hversion : (ofOption Json.str m.metadata.resourceVersion).Ordered ∧
      (ofOption Json.str m.metadata.resourceVersion).Steady := by
    cases m.metadata.resourceVersion <;> exact ⟨trivial, rfl⟩
  -- the patch comes through unchanged too, and is the one for the route as it is stored
  have hpatch : HttpRoute.patch c w m = HttpRoute.patch c w m' := by
    rw [HttpRoute.patch_eq, HttpRoute.patch_eq, hmetadata, HttpRoute.rules_eq hm',
      HttpRoute.rules_body hr (Manifest.get?_body hm), HttpRoute.rulesRead_eq_rules hs]
  have hsteady : (HttpRoute.patch c w m').Steady := by
    rw [HttpRoute.patch_eq, hmetadata, HttpRoute.rules_eq hm']
    obtain ⟨_, hwhole, hsound, -⟩ := relevant_route .deployment none hversion
      (HttpRoute.ordered_splitRules (HttpRoute.ordered_rules ho)) (HttpRoute.steady_splitRules hs)
    rw [show routePatch _ _ = _ from hwhole]
    exact hsound.steady
  rw [hpatch] at hbody
  rw [hbody.unique hsteady]
  exact ⟨m', version, hm', hnew, rfl⟩

/-- Where the rules come through as text unchanged, they are kept. -/
theorem RouteStore.Split.rulesKept (h : Split c w path before after route) (ho : route.Ordered)
    (hs : ∀ rule ∈ HttpRoute.rules route, rule.Steady) :
    ∃ route', after.stored path = some route' ∧ HttpRoute.RulesKept route route' := by
  obtain ⟨m, version, hm, -, rfl⟩ := h.exact ho hs
  refine ⟨_, by rw [RouteStore.putAt_stored, if_pos rfl], fun first rest hrules => ?_⟩
  have hheld := HttpRoute.rules_of_path? hrules
  have hfirst : first.Ordered := HttpRoute.ordered_rules ho first (by rw [hheld]; exact List.mem_cons_self ..)
  have hwritten := HttpRoute.path?_written_rules (c := c) (w := w) ho hm
  rw [hheld, HttpRoute.splitRules] at hwritten
  refine ⟨HttpRoute.splitRule c w first, ?_, fun key => HttpRoute.get?_splitRule_of_ne hfirst, ?_⟩
  · rw [path?_atVersion _ (by decide)]
    exact hwritten
  · rw [HttpRoute.filters_splitRule hfirst, HttpRoute.splitFilters, List.filter_append, List.filter_filter]
    cases w.mirrored <;> simp [HttpRoute.isMirror_mirrorFilter]

end Exact

end Rollout
