/-
A route that is seeded with nobody else writing. What stands in the route may come through as text as something else,
but it comes through (`Json.exists_readAs`), so the patch is always sent, and the route that it leaves can be read and
carries the split that was written (`HttpRoute.Delivered.weights`). Main statement: `Routed.reconcileRoutes_invisible`,
seeding does not change the split that is read of a route, only looks where that split names a service, and only looks
when it is done again. What it needs of the server it needs to succeed at all (`exists_of_ends_reconcileRoutes`), and
`reconcileRoutes_fails` is where a route has no place of its own.
-/
import Rollout.Proofs.Json.Number
import Rollout.Proofs.Routing.Seeding

namespace Rollout

open Program Json Api Store World

/-- An object can be read over the wire if it can be read where it is stored. -/
theorem readable_iff {j : Json} : Readable j ↔ ∃ m, Manifest.ofJson? j = some m := by
  constructor
  · rintro ⟨r, m, hr, hm⟩
    exact (hr.exists_ofJson? hm).imp fun _ h => h.1
  · rintro ⟨m, hm⟩
    obtain ⟨r, hr⟩ := exists_readAs j
    obtain ⟨members, metadata, rfl, hdescribed, hmetadata, -⟩ := Manifest.ofJson?_eq_some hm
    obtain ⟨read, hread, rfl⟩ := readAs_obj_iff.1 hr
    obtain ⟨other, hother, hresent⟩ := hdescribed.exists_read hread
    rw [← Metadata.ofJson?_resent hresent] at hmetadata
    obtain ⟨m', hm', -⟩ := Manifest.exists_ofJson?_described hother hmetadata
    exact ⟨_, m', hr, hm'⟩

namespace HttpRoute

/-! ## A split on its way -/

/-- The rules of a patch take the place of those that are stored. -/
theorem path?_merge_routePatch (version : Json) (rules : List Json) {route : Json} (ho : route.Ordered) :
    (merge (routePatch version rules) route).path? ["spec", "rules"] = some (.arr rules) := by
  have hkeys : Assoc.Ordered [("metadata", obj [("resourceVersion", version)]), ("spec", obj [("rules", arr rules)])] :=
    List.pairwise_pair.2 (show "metadata" < "spec" by decide)
  exact path?_merge_spec hkeys (show _ = some (obj [("rules", arr rules)]) from rfl) (List.pairwise_singleton _ _) ho
    "rules" []

/-- A patch with a version that comes through unchanged comes through as one with other rules. -/
theorem readAs_routePatch {version body : Json} {rules : List Json} (hversion : version.Steady)
    (h : (routePatch version rules).ReadAs body) :
    ∃ read, resentItems? rules = some read ∧ body = routePatch version read := by
  obtain ⟨_, hmembers, rfl⟩ := readAs_obj_iff.1 h
  obtain ⟨metadata, _, hmetadata, hrest, rfl⟩ := resentMembers?_cons_iff.1 hmembers
  obtain ⟨spec, _, hspec, hend, rfl⟩ := resentMembers?_cons_iff.1 hrest
  cases hend
  obtain rfl := hmetadata.unique (steady_nested hversion ["resourceVersion"])
  obtain ⟨_, hinner, rfl⟩ := readAs_obj_iff.1 hspec
  obtain ⟨_, _, hrules, hend, rfl⟩ := resentMembers?_cons_iff.1 hinner
  cases hend
  obtain ⟨read, hread, rfl⟩ := readAs_arr_iff.1 hrules
  exact ⟨read, hread, rfl⟩

/-- The patch that writes a split into a stored route, as it arrives. -/
structure Delivered (c : Canary) (w : RouteWeights) (route body : Json) (m : Manifest) : Prop where
  ordered : route.Ordered
  read : ∃ r, route.ReadAs r ∧ Manifest.ofJson? r = some m
  arrives : (patch c w m).ReadAs body

namespace Delivered

variable {c : Canary} {w : RouteWeights} {route body : Json} {m : Manifest} (h : Delivered c w route body m)

include h

/-- It names the version that was read, and rules the first of which has the split. -/
theorem eq_routePatch : ∃ first first' rest, first.Ordered ∧ (splitRule c w first).ReadAs first' ∧
    body = routePatch (ofOption .str m.metadata.resourceVersion) (first' :: rest) ∧
    ∀ rule ∈ first' :: rest, rule.Ordered := by
  obtain ⟨r, hr, hm⟩ := h.read
  have hrules : ∀ rule ∈ rules m.body, rule.Ordered := by
    rw [rules_eq hm]
    exact ordered_rules (hr.ordered h.ordered)
  have hsteady : (ofOption Json.str m.metadata.resourceVersion).Steady := by
    cases m.metadata.resourceVersion <;> rfl
  have harrives := h.arrives
  rw [patch_eq] at harrives
  obtain ⟨read, hread, rfl⟩ := readAs_routePatch hsteady harrives
  have hordered := ReadAs.orderedItems hread (ordered_splitRules hrules)
  rw [splitRules_eq] at hread
  obtain ⟨first', rest, hfirst, -, rfl⟩ := resentItems?_cons_iff.1 hread
  refine ⟨_, first', rest, ?_, hfirst, rfl, hordered⟩
  cases hhead : (rules m.body).head? with
  | none => exact ordered_obj_iff.2 ⟨List.Pairwise.nil, by simp⟩
  | some rule => exact hrules rule (List.mem_of_head? hhead)

theorem isOutdated_eq_false : isOutdated body route = false := by
  obtain ⟨r, hr, hm⟩ := h.read
  obtain ⟨first, first', rest, -, -, rfl, -⟩ := h.eq_routePatch
  exact isOutdated_of_read hr hm rfl

/-- The route can be read once the split is written. -/
theorem readable (version : ℕ) : Readable (stamped version (body.merge route)) := by
  obtain ⟨r, hr, hm⟩ := h.read
  obtain ⟨first, first', rest, -, -, rfl, -⟩ := h.eq_routePatch
  obtain ⟨merged, hmerged⟩ := exists_readAs (merge (routePatch (ofOption .str m.metadata.resourceVersion)
    (first' :: rest)) route)
  exact Readable.merged ⟨r, m, hr, hm⟩ h.ordered (List.pairwise_pair.2 (show "metadata" < "spec" by decide))
    (.inr ⟨_, rfl⟩) hmerged version

theorem ordered_stamped (version : ℕ) : (stamped version (body.merge route)).Ordered := by
  obtain ⟨first, first', rest, -, -, rfl, hrules⟩ := h.eq_routePatch
  have hversion : (ofOption Json.str m.metadata.resourceVersion).Ordered := by
    cases m.metadata.resourceVersion <;> trivial
  exact Store.ordered_stamped ((ordered_routePatch hversion hrules).merge h.ordered) version

/-- The first rule of the route has the split then. -/
theorem exists_first_rule (version : ℕ) : ∃ first first', first.Ordered ∧ (splitRule c w first).ReadAs first' ∧
    (stamped version (body.merge route)).pointer? ["spec", "rules", "0"] = some first' := by
  obtain ⟨first, first', rest, hfirst, hread, rfl, -⟩ := h.eq_routePatch
  have hrules := path?_merge_routePatch (ofOption .str m.metadata.resourceVersion) (first' :: rest) h.ordered
  rw [← path?_stamped version (by decide)] at hrules
  exact ⟨first, first', hfirst, hread, pointer?_first_rule hrules⟩

/-- The split that was written is read. -/
theorem weights (version : ℕ) :
    weights (stamped version (body.merge route)) c.primaryService c.canaryService = w := by
  obtain ⟨first, first', hfirst, hread, hrule⟩ := h.exists_first_rule version
  obtain ⟨hprimary, hcanary⟩ := weightOf?_splitRule (c := c) (w := w) hfirst
  unfold HttpRoute.weights
  rw [hrule]
  dsimp only
  rw [weightOf?_of_readAs hread, weightOf?_of_readAs hread, hprimary, hcanary, any_isMirror_of_readAs hread,
    filters_splitRule hfirst, any_isMirror_splitFilters]
  rfl

theorem carries (version : ℕ) : carries c (stamped version (body.merge route)) = true := by
  obtain ⟨first, first', hfirst, hread, hrule⟩ := h.exists_first_rule version
  unfold HttpRoute.carries
  rw [hrule, Option.any_some, weightOf?_of_readAs hread, (weightOf?_splitRule hfirst).1]
  rfl

/-- It is taken where the route is stored, and its answer can be read. -/
theorem ends_patch {world : World} {a : Address} {spot : WorkloadRef} {sent : Api.Sent} (word : ℕ → String)
    (ht : objectTarget? a .whole = some sent) (hnamed : world.named? sent.path = some (spot, none))
    (hstored : world.store.get? spot = some route) :
    ∃ version m' world', Ends (fair word) (Api.patch Manifest.ofJson? a .whole (patch c w m)) world (.ok m') world' ∧
      world'.kinds = world.kinds ∧ world'.stored? sent.path = some (stamped version (body.merge route)) := by
  obtain ⟨world', hserve, hc⟩ := fair_patch word hnamed hstored h.isOutdated_eq_false
  obtain ⟨r', m', hr', hm'⟩ := h.readable (world.store.version + 1)
  have hkinds : world'.kinds = world.kinds := (kinds_eq_of_content hc).trans rfl
  refine ⟨world.store.version + 1, m', world', ?_, hkinds, ?_⟩
  · unfold Api.patch
    rw [ht, show (patch c w m).resent? = some body from h.arrives]
    exact ends_ask_iff.2 ⟨_, _, hserve, ends_done_iff.2 ⟨(readable_eq_ok_iff.2 ⟨r', hr', hm'⟩).symm, rfl⟩⟩
  · unfold stored?
    rw [named?_congr hkinds, hnamed, Option.bind_some, store_eq_of_content hc]
    exact (get?_put ..).trans (if_pos rfl)

end Delivered

/-- The split of a route that may be missing; then all traffic is on the baseline. -/
def weightsAt (c : Canary) (stored : Option Json) : RouteWeights :=
  stored.elim .primaryOnly fun route => weights route c.primaryService c.canaryService

end HttpRoute

/-! ## A route on a server -/

/-- A canary's route has a place of its own on a server, which says so when it is missing; when it is not, it decodes
as an object. -/
structure Routed (word : ℕ → String) (w : World) (c : Canary) (path : String) : Prop where
  asked : ∃ ns sent, c.targetNamespace? = some ns ∧ objectTarget? (routeAt c ns) .whole = some sent ∧ sent.path = path
  /-- The path leads to a route, and to no part of one. -/
  whole : ∀ spot part, w.named? path = some (spot, part) → part = none
  ordered : ∀ route, w.stored? path = some route → route.Ordered
  decodes : ∀ route, w.stored? path = some route → ∃ m, Manifest.ofJson? route = some m
  missing : w.stored? path = none → word 404 = "NotFound"

/-- What a client is answered that looks for a route. -/
inductive RouteFound : Option Json → Except ApiFailure Manifest → Prop
  | missing : RouteFound none (.error (.status 404 "NotFound"))
  | stored {route r : Json} {m : Manifest} : route.ReadAs r → Manifest.ofJson? r = some m →
      RouteFound (some route) (.ok m)

namespace Routed

variable {word : ℕ → String} {w w' : World} {c : Canary} {path : String} {route : Json}

theorem congr (h : Routed word w c path) (hc : w'.content = w.content) : Routed word w' c path where
  asked := h.asked
  whole := by rw [named?_congr (kinds_eq_of_content hc)]; exact h.whole
  ordered := by rw [stored?_congr hc]; exact h.ordered
  decodes := by rw [stored?_congr hc]; exact h.decodes
  missing := by rw [stored?_congr hc]; exact h.missing

/-- The place of a route is kept where another one is put. -/
theorem put (h : Routed word w c path) (hkinds : w'.kinds = w.kinds) (hstored : w'.stored? path = some route)
    (ho : route.Ordered) (hdecodes : ∃ m, Manifest.ofJson? route = some m) : Routed word w' c path where
  asked := h.asked
  whole := by rw [named?_congr hkinds]; exact h.whole
  ordered := by rw [hstored]; rintro _ ⟨⟩; exact ho
  decodes := by rw [hstored]; rintro _ ⟨⟩; exact hdecodes
  missing := by rw [hstored]; rintro ⟨⟩

variable (h : Routed word w c path)

include h

theorem ends_get : ∃ ns sent found, c.targetNamespace? = some ns ∧ objectTarget? (routeAt c ns) .whole = some sent ∧
    sent.path = path ∧ RouteFound (w.stored? path) found ∧
    Ends (fair word) (Api.get Manifest.ofJson? (routeAt c ns)) w found (w.served (.get path)) := by
  obtain ⟨ns, sent, hns, ht, rfl⟩ := h.asked
  refine ⟨ns, sent, _, hns, ht, rfl, ?_, ends_get_stored _ word w ht⟩
  cases hstored : w.stored? sent.path with
  | none =>
    rw [Option.elim_none, show absent.worded word = .status 404 "NotFound" by rw [← h.missing hstored]; rfl]
    exact .missing
  | some route =>
    obtain ⟨r, m, hr, hm⟩ := readable_iff.2 (h.decodes route hstored)
    rw [Option.elim_some, readable_eq_ok_iff.2 ⟨r, hr, hm⟩]
    exact .stored hr hm

/-- The split of the stored route is read, or all traffic on the baseline where there is none. -/
theorem ends_getRoutes : Ends (fair word) (Api.getRoutes c).run w
    (.ok (HttpRoute.weightsAt c (w.stored? path))) (w.served (.get path)) := by
  obtain ⟨ns, sent, found, hns, -, -, hfound, hget⟩ := h.ends_get
  rw [run_getRoutes_eq hns]
  refine ends_bind_iff.2 ⟨_, _, hget, ?_⟩
  generalize w.stored? path = stored at hfound
  cases hfound with
  | missing => exact ends_done_iff.2 ⟨rfl, rfl⟩
  | stored hr hm => exact ends_done_iff.2 ⟨congrArg Except.ok (HttpRoute.weights_body hr hm _ _).symm, rfl⟩

/-- Seeding only looks where the split names a service, or where there is no route. -/
theorem ends_reconcileRoutes (hcarries : ∀ route, w.stored? path = some route → HttpRoute.carries c route = true) :
    Ends (fair word) (Api.reconcileRoutes c).run w (.ok ()) (w.served (.get path)) := by
  obtain ⟨ns, sent, found, hns, -, -, hfound, hget⟩ := h.ends_get
  rw [run_reconcileRoutes_eq hns]
  refine ends_bind_iff.2 ⟨_, _, hget, ?_⟩
  generalize w.stored? path = stored at hfound hcarries
  cases hfound with
  | missing => exact ends_done_iff.2 ⟨rfl, rfl⟩
  | stored hr hm =>
    rw [afterLook, HttpRoute.isRouted_body hr hm, hcarries _ rfl]
    exact ends_done_iff.2 ⟨rfl, rfl⟩

/-- Else it writes all traffic on the baseline into the route. -/
theorem exists_ends_reconcileRoutes (hstored : w.stored? path = some route)
    (hcarries : HttpRoute.carries c route = false) :
    ∃ w' route', Ends (fair word) (Api.reconcileRoutes c).run w (.ok ()) w' ∧ Routed word w' c path ∧
      w'.stored? path = some route' ∧ HttpRoute.weights route' c.primaryService c.canaryService = .primaryOnly ∧
      HttpRoute.carries c route' = true := by
  obtain ⟨ns, sent, found, hns, ht, rfl, hfound, hget⟩ := h.ends_get
  rw [hstored] at hfound
  cases hfound with
  | @stored _ r m hr hm =>
    obtain ⟨body, hbody⟩ := exists_readAs (HttpRoute.patch c .primaryOnly m)
    have hdelivered : HttpRoute.Delivered c .primaryOnly route body m := ⟨h.ordered route hstored, ⟨r, hr, hm⟩, hbody⟩
    -- the route is looked at, read once more, and patched
    have hserved : (w.served (.get sent.path)).content = w.content := rfl
    obtain ⟨w₁, hc, hwritten⟩ := ends_setRoutes hns ht ((stored?_congr hserved _).trans hstored) hr hm word .primaryOnly
    have hrouted : Routed word w₁ c sent.path := h.congr (hc.trans hserved)
    have hstored₁ : w₁.stored? sent.path = some route := (stored?_congr (hc.trans hserved) _).trans hstored
    obtain ⟨⟨spot, part⟩, hnamed, hobject⟩ := Option.bind_eq_some_iff.1 hstored₁
    obtain rfl := hrouted.whole spot part hnamed
    obtain ⟨version, m', w', hpatch, hkinds, hafter⟩ := hdelivered.ends_patch word ht hnamed hobject
    refine ⟨w', _, ?_, hrouted.put hkinds hafter (hdelivered.ordered_stamped version)
      (readable_iff.1 (hdelivered.readable version)), hafter, hdelivered.weights version, hdelivered.carries version⟩
    rw [run_reconcileRoutes_eq hns]
    refine ends_bind_iff.2 ⟨_, _, hget, ?_⟩
    rw [afterLook, HttpRoute.isRouted_body hr hm, hcarries]
    exact hwritten hpatch

end Routed

/-- Seeding goes unseen. For any canary, whatever route it has on a server, be it missing, of any shape below its
specification, or filled with doubles that come through as their neighbours: without faults and with nobody else
writing, seeding succeeds, and the split that is read is the one of the route as it was, before and after; where that
split names one of the two services, the route is asked for and that is all; and seeding again does no more than ask
for the route. -/
theorem Routed.reconcileRoutes_invisible {word : ℕ → String} {w : World} {c : Canary} {path : String}
    (h : Routed word w c path) :
    Ends (fair word) (Api.getRoutes c).run w (.ok (HttpRoute.weightsAt c (w.stored? path))) (w.served (.get path)) ∧
    ∃ w', Ends (fair word) (Api.reconcileRoutes c).run w (.ok ()) w' ∧
      Ends (fair word) (Api.getRoutes c).run w' (.ok (HttpRoute.weightsAt c (w.stored? path)))
        (w'.served (.get path)) ∧
      ((∀ route, w.stored? path = some route → HttpRoute.carries c route = true) → w' = w.served (.get path)) ∧
      Ends (fair word) (Api.reconcileRoutes c).run w' (.ok ()) (w'.served (.get path)) := by
  refine ⟨h.ends_getRoutes, ?_⟩
  by_cases hcarries : ∀ route, w.stored? path = some route → HttpRoute.carries c route = true
  · -- nothing is written, so all is as before
    have hserved : (w.served (.get path)).content = w.content := rfl
    have hstored := stored?_congr hserved path
    have hagain := h.congr hserved
    refine ⟨_, h.ends_reconcileRoutes hcarries, ?_, fun _ => rfl, hagain.ends_reconcileRoutes (hstored ▸ hcarries)⟩
    rw [← hstored]
    exact hagain.ends_getRoutes
  · simp only [not_forall, Bool.not_eq_true] at hcarries
    obtain ⟨route, hstored, hcarries⟩ := hcarries
    obtain ⟨w', route', hends, hrouted, hstored', hweights, hcarries'⟩ := h.exists_ends_reconcileRoutes hstored hcarries
    refine ⟨w', hends, ?_, fun hall => ?_, hrouted.ends_reconcileRoutes fun found hfound => ?_⟩
    · -- the split of a route that named neither was all traffic on the baseline, and this is what is written
      have hsame : HttpRoute.weightsAt c (w.stored? path) = HttpRoute.weightsAt c (w'.stored? path) := by
        rw [hstored, hstored']
        exact (HttpRoute.weights_of_not_carries hcarries).trans hweights.symm
      rw [hsame]
      exact hrouted.ends_getRoutes
    · rw [hall route hstored] at hcarries
      cases hcarries
    · rw [hstored'] at hfound
      cases hfound
      exact hcarries'

/-- Seeding succeeds only where the route can be asked for, decodes if it is there, and is said to be missing if it is
not. -/
theorem exists_of_ends_reconcileRoutes {word : ℕ → String} {w w' : World} {c : Canary}
    (h : Ends (fair word) (Api.reconcileRoutes c).run w (.ok ()) w') :
    ∃ ns sent, c.targetNamespace? = some ns ∧ objectTarget? (routeAt c ns) .whole = some sent ∧
      (∀ route, w.stored? sent.path = some route → ∃ m, Manifest.ofJson? route = some m) ∧
      (w.stored? sent.path = none → word 404 = "NotFound") := by
  cases hns : c.targetNamespace? with
  | none =>
    unfold Api.reconcileRoutes routeAddress at h
    rw [hns] at h
    cases (ends_done_iff.1 h).1
  | some ns =>
    obtain ⟨ref, w₁, href, hrest⟩ := ends_bind_ok_iff.1 h
    obtain ⟨hsame, rfl⟩ := href.unique (ends_routeAddress hns w)
    cases hsame
    obtain ⟨found, w₂, hroute, -⟩ := ends_bind_ok_iff.1 hrest
    obtain ⟨sent, ht⟩ := exists_target_of_ends_route hroute
    refine ⟨ns, sent, rfl, ht, ?_⟩
    rcases exists_of_ends_route ht hroute with ⟨-, hnone, hword⟩ | ⟨route, r, m, -, hstored, hr, hm⟩
    · refine ⟨fun found hfound => ?_, fun _ => hword⟩
      rw [hnone] at hfound
      cases hfound
    · refine ⟨fun found hfound => ?_, fun hnone => by rw [hstored] at hnone; cases hnone⟩
      rw [hstored] at hfound
      cases hfound
      exact readable_iff.1 ⟨r, m, hr, hm⟩

/-! ### Routes of one canary -/

/-- `sizedCanary` behind a route of this name. -/
def routedCanary (name : String) : Canary :=
  let c := sizedCanary .progressing 4
  { c with spec := { c.spec with service := { c.spec.service with httpRoute := some name } } }

/-- A server's word for what is missing. -/
def notFound (_ : ℕ) : String := "NotFound"

/-- A rule without backends that shadows requests all the same. -/
def strayRule : List (String × Json) := [("filters", .arr [HttpRoute.mirrorFilter (routedCanary "podinfo")])]

/-- Where the route with this rule is asked for. -/
def strayPath : String := "/apis/gateway.networking.k8s.io/v1/namespaces/prod/httproutes/podinfo"

theorem routed_stray : Routed notFound (sizedWorld strayRule) (routedCanary "podinfo") strayPath := by
  have hnamed : (sizedWorld strayRule).named? strayPath = some (sizedRoute, none) := by decide +kernel
  have hstored : (sizedWorld strayRule).stored? strayPath =
      some (sizedObject sizedRoute [("rules", .arr [.object strayRule])]).2 := by
    unfold stored?
    rw [hnamed]
    rfl
  have hfilters : (arr [HttpRoute.mirrorFilter (routedCanary "podinfo")]).Ordered :=
    (orderedItems_iff _).2 (by simpa using HttpRoute.ordered_mirrorFilter _)
  refine ⟨⟨"prod", ⟨strayPath, true⟩, rfl, by decide +kernel, rfl⟩, fun spot part hspot => ?_, fun route hroute => ?_,
    fun route hroute => ?_, fun _ => rfl⟩
  · rw [hnamed] at hspot
    cases hspot
    rfl
  · obtain ⟨⟨spot, part⟩, -, hget⟩ := Option.bind_eq_some_iff.1 hroute
    exact ordered_sizedWorld (by simpa [strayRule] using hfilters) spot route hget
  · rw [hstored] at hroute
    cases hroute
    exact ⟨_, rfl⟩

/-- What is left by seeding a route. -/
def reconciled (c : Canary) (w : World) : Except RouterError Unit × World :=
  ((Api.reconcileRoutes c).run.run (fair notFound)).run w

/-- The rule is given its backends and loses the mirror, which was not read before either. -/
theorem reconcileRoutes_invisible_stray : ∃ w',
    Ends (fair notFound) (Api.reconcileRoutes (routedCanary "podinfo")).run (sizedWorld strayRule) (.ok ()) w' ∧
    w'.store.version = 1 ∧
    Ends (fair notFound) (Api.getRoutes (routedCanary "podinfo")).run w' (.ok .primaryOnly)
      (w'.served (.get strayPath)) ∧
    Ends (fair notFound) (Api.reconcileRoutes (routedCanary "podinfo")).run w' (.ok ())
      (w'.served (.get strayPath)) := by
  obtain ⟨-, w', hends, hsplit, -, hagain⟩ := routed_stray.reconcileRoutes_invisible
  have hafter : reconciled (routedCanary "podinfo") (sizedWorld strayRule) = (.ok (), w') := hends
  have hbefore : HttpRoute.weightsAt (routedCanary "podinfo") ((sizedWorld strayRule).stored? strayPath) =
      .primaryOnly := by decide +kernel
  have hversion : (reconciled (routedCanary "podinfo") (sizedWorld strayRule)).2.store.version = 1 := by
    decide +kernel
  rw [hafter] at hversion
  rw [hbefore] at hsplit
  exact ⟨w', hends, hversion, hsplit, hagain⟩

/-- A name with a space is no part of a path, so nothing can be asked for in any world; and one that leads to the
status of a route has the route patched over and over, as no rules get through there. -/
theorem reconcileRoutes_fails :
    (∃ ns, (routedCanary "my route").targetNamespace? = some ns) ∧
    (∀ word w, Ends (fair word) (Api.reconcileRoutes (routedCanary "my route")).run w (.error (.api .unreadable)) w) ∧
    ∃ w' w'',
      Ends (fair notFound) (Api.reconcileRoutes (routedCanary "podinfo/status")).run (sizedWorld strayRule)
        (.ok ()) w' ∧
      Ends (fair notFound) (Api.reconcileRoutes (routedCanary "podinfo/status")).run w' (.ok ()) w'' ∧
      w''.store.version = w'.store.version + 1 := by
  have hns : (routedCanary "my route").targetNamespace? = some "prod" := rfl
  refine ⟨⟨_, hns⟩, fun word w => ?_, ?_⟩
  · rw [run_reconcileRoutes_eq hns, Api.get, show objectTarget? (routeAt (routedCanary "my route") "prod") .whole = none
      by decide +kernel]
    exact ends_done_iff.2 ⟨rfl, rfl⟩
  · let once := reconciled (routedCanary "podinfo/status") (sizedWorld strayRule)
    let twice := reconciled (routedCanary "podinfo/status") once.2
    have hruns : (once.1.isOk, twice.1.isOk, once.2.store.version, twice.2.store.version) = (true, true, 1, 2) := by
      decide +kernel
    simp only [Prod.mk.injEq] at hruns
    obtain ⟨honce, htwice, hversion, hversion'⟩ := hruns
    have hok : ∀ {result : Except RouterError Unit}, result.isOk = true → result = .ok () := fun {result} h => by
      cases result with
      | error _ => cases h
      | ok _ => rfl
    refine ⟨once.2, twice.2, ?_, ?_, by rw [hversion, hversion']⟩
    · rw [← hok honce]
      exact ends_run _ _
    · rw [← hok htwice]
      exact ends_run _ _

end Rollout
