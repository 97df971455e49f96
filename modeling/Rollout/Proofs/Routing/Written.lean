/-
A split that is written into a route and read back. The patch is made for the route as it was read and
merged into it (`HttpRoute.written`). Main statement: `HttpRoute.weights_written`, for any route that can be
read and any weights, the route reads with these weights then; its further rules, what the first rule holds
apart from its backends and mirrors, and everything outside of the rules and the version are as they were, and
writing the same split again changes nothing.
-/
import Rollout.Proofs.Api.Effects
import Rollout.Proofs.Json.Update

namespace Rollout

open Json Store

namespace HttpRoute

/-! ## Backends and mirrors -/

section Backends

theorem primaryService_ne_canaryService (c : Canary) : c.primaryService ≠ c.canaryService := by
  intro heq
  have hlists := congrArg String.toList heq
  simp only [Canary.primaryService, Canary.canaryService, String.toList_append, List.append_cancel_left_eq] at hlists
  exact absurd hlists (by decide)

/-- A backend has its name. -/
theorem isNamed_toJson (name : String) (b : BackendRef) : isNamed name b.toJson = (b.name == name) := by
  have hget : b.toJson.get? "name" = some (.str b.name) := by
    refine (Assoc.lookup_ofList ?_ "name").trans rfl
    show ["group", "kind", "name", "port", "weight"].Nodup
    decide
  unfold isNamed
  rw [hget]
  rfl

/-- The weight of a backend is read as it was written. -/
theorem weight_toJson (b : BackendRef) :
    (((b.toJson.get? "weight").bind (·.int64?)).map (·.toInt32)).getD 1 = b.weight := by
  have hget : b.toJson.get? "weight" = some (ofInt32 b.weight) := by
    refine (Assoc.lookup_ofList ?_ "weight").trans rfl
    show ["group", "kind", "name", "port", "weight"].Nodup
    decide
  -- 64 bits hold what 32 do
  have hlow : Int64.minValue.toInt ≤ b.weight.toInt := le_trans (by decide) (Int32.minValue_le_toInt b.weight)
  have hhigh : b.weight.toInt ≤ Int64.maxValue.toInt := le_trans (Int32.toInt_le b.weight) (by decide)
  have hread : (ofInt32 b.weight).int64? = some (Int64.ofInt b.weight.toInt) := if_pos ⟨hlow, hhigh⟩
  rw [hget, Option.bind_some, hread, Option.map_some, Option.getD_some, Int64.toInt32_ofInt, Int32.ofInt_toInt]

theorem isMirror_mirrorFilter (c : Canary) : isMirror (mirrorFilter c) = true := by
  have hget : (mirrorFilter c).get? "type" = some (.str mirrorType) := by
    refine (Assoc.lookup_ofList ?_ "type").trans rfl
    show ["type", "requestMirror"].Nodup
    decide
  unfold isMirror
  rw [hget]
  exact beq_self_eq_true _

/-- There is a mirror with a split exactly if one is asked for. -/
theorem any_isMirror_splitFilters (c : Canary) (w : RouteWeights) (fs : List Json) :
    (splitFilters c w fs).any isMirror = w.mirrored := by
  unfold splitFilters
  rw [List.any_append, List.any_filter]
  cases w.mirrored <;> simp [isMirror_mirrorFilter]

end Backends

/-! ## The first rule -/

section Rule

variable {c : Canary} {w : RouteWeights} {rule : Json} (ho : rule.Ordered)

include ho

theorem get?_splitRule_backendRefs : (splitRule c w rule).get? "backendRefs" = some (splitBackends c w) := by
  rw [splitRule_eq, get?_withFilters (ho.set _ (ordered_splitBackends c w)) _ (by decide), get?_set, if_pos rfl]

theorem get?_splitRule_of_ne {key : String} (hbackends : key ≠ "backendRefs") (hfilters : key ≠ "filters") :
    (splitRule c w rule).get? key = rule.get? key := by
  rw [splitRule_eq, get?_withFilters (ho.set _ (ordered_splitBackends c w)) _ hfilters, get?_set, if_neg hbackends]

theorem filters_splitRule : filters (splitRule c w rule) = splitFilters c w (filters rule) := by
  rw [splitRule_eq, filters_withFilters (ho.set _ (ordered_splitBackends c w))]

/-- The filters of a rule with a split are left out when there are none. -/
theorem get?_splitRule_filters_eq_none_iff :
    (splitRule c w rule).get? "filters" = none ↔ filters (splitRule c w rule) = [] := by
  have hset : (rule.set "backendRefs" (splitBackends c w)).Ordered := ho.set _ (ordered_splitBackends c w)
  rw [filters_splitRule ho, splitRule_eq]
  cases splitFilters c w (filters rule) with
  | nil => rw [withFilters, hset.get?_unset, if_pos rfl]; simp
  | cons first rest => rw [withFilters, get?_set, if_pos rfl]; simp

/-- The two backends of a split are read with their weights. -/
theorem weightOf?_splitRule :
    weightOf? (splitRule c w rule) c.primaryService = some w.primary ∧
      weightOf? (splitRule c w rule) c.canaryService = some w.canary := by
  have hne : (c.primaryService == c.canaryService) = false := by
    simpa using primaryService_ne_canaryService c
  unfold weightOf?
  rw [get?_splitRule_backendRefs ho, Option.bind_some, splitBackends, items?, Option.bind_some, Option.bind_some,
    backendRefs, List.map_cons, List.map_cons, List.map_nil]
  constructor
  · rw [List.find?_cons_of_pos (by rw [isNamed_toJson]; exact beq_self_eq_true _), Option.map_some, weight_toJson]
  · rw [List.find?_cons_of_neg (by rw [isNamed_toJson, hne]; simp),
      List.find?_cons_of_pos (by rw [isNamed_toJson]; exact beq_self_eq_true _), Option.map_some, weight_toJson]

end Rule

/-! ## The route -/

/-- A route with a split written into it, after it was read. -/
def written (c : Canary) (w : RouteWeights) (m : Manifest) (route : Json) : Json := (patch c w m).merge route

/-- The patch of a route is that of its version and, behind it, that of its rules. -/
theorem merge_routePatch (version : Json) (rules : List Json) (route : Json) :
    merge (routePatch version rules) route = merge (nested ["spec"] (.obj [("rules", .arr rules)]))
      (merge (nested ["metadata"] (.obj [("resourceVersion", version)])) route) := rfl

/-- A rule is there where the rules are. -/
theorem pointer?_first_rule {route first : Json} {rest : List Json}
    (h : route.path? ["spec", "rules"] = some (.arr (first :: rest))) :
    route.pointer? ["spec", "rules", "0"] = some first := by
  obtain ⟨spec, hspec, hrules⟩ := Option.bind_eq_some_iff.1 h
  rw [path?_singleton] at hrules
  cases route
  case obj members =>
    cases spec
    case obj specMembers =>
      show ((members.lookup "spec").bind (·.pointer? ["rules", "0"])) = _
      rw [show members.lookup "spec" = _ from hspec]
      show ((specMembers.lookup "rules").bind (·.pointer? ["0"])) = _
      rw [show specMembers.lookup "rules" = _ from hrules]
      show ((index? "0").bind fun i => (first :: rest)[i]?).bind (·.pointer? []) = _
      rw [show index? "0" = some 0 by decide]
      rfl
    all_goals cases hrules
  all_goals cases hspec

/-- The rules of a route as it is read are its own. -/
theorem rules_eq {route : Json} {m : Manifest} (hm : Manifest.ofJson? route = some m) : rules m.body = rules route := by
  unfold rules
  rw [pointer?_eq_path? (by decide +kernel), pointer?_eq_path? (by decide +kernel), path?_cons, path?_cons,
    Manifest.get?_body hm]

theorem rules_of_path? {route : Json} {items : List Json} (h : route.path? ["spec", "rules"] = some (.arr items)) :
    rules route = items := by
  unfold rules
  rw [pointer?_eq_path? (by decide +kernel), h]
  rfl

theorem ordered_rules {route : Json} (ho : route.Ordered) : ∀ rule ∈ rules route, rule.Ordered := by
  unfold rules
  rw [pointer?_eq_path? (by decide +kernel)]
  cases hrules : route.path? ["spec", "rules"] with
  | none => simp
  | some j =>
    have hordered : j.Ordered := ho.path? _ hrules
    cases j
    case arr items => exact (orderedItems_iff items).1 hordered
    all_goals simp [items?]

/-- Rules with a split are not empty, and go on as they did. -/
theorem splitRules_eq (c : Canary) (w : RouteWeights) (rules : List Json) :
    splitRules c w rules = splitRule c w (rules.head?.getD (.obj [])) :: rules.tail := by
  cases rules <;> rfl

/-- The version that is written is a text or nothing. -/
theorem ordered_version (version : Option String) :
    (nested ["metadata"] (.obj [("resourceVersion", ofOption .str version)])).Ordered := by
  refine ordered_nested (ordered_nested ?_ ["resourceVersion"]) ["metadata"]
  cases version <;> trivial

/-- Writing a version twice is writing it once. -/
theorem changed?_version (version : Option String) (found : Option Json) :
    changed? (ofOption .str version) (changed? (ofOption .str version) found) =
      changed? (ofOption .str version) found := by
  cases version <;> rfl

section Route

variable {c : Canary} {w : RouteWeights} {route : Json} {m : Manifest}

theorem written_eq (hm : Manifest.ofJson? route = some m) : written c w m route =
    merge (routePatch (ofOption .str m.metadata.resourceVersion) (splitRules c w (rules route))) route := by
  rw [written, patch_eq, rules_eq hm]

variable (ho : route.Ordered) (hm : Manifest.ofJson? route = some m)

include ho hm

theorem ordered_written : (written c w m route).Ordered := by
  have hrules : (arr (splitRules c w (rules route))).Ordered :=
    (orderedItems_iff _).2 (ordered_splitRules (ordered_rules ho))
  rw [written_eq hm, merge_routePatch]
  exact Ordered.merge (ordered_nested hrules ["spec", "rules"]) (Ordered.merge (ordered_version _) ho)

/-- The rules of the route carry the split. -/
theorem path?_written_rules :
    (written c w m route).path? ["spec", "rules"] = some (.arr (splitRules c w (rules route))) := by
  rw [written_eq hm, merge_routePatch]
  exact path?_merge_nested (List.pairwise_singleton _ _) "rules" ["spec"] (Ordered.merge (ordered_version _) ho)

/-- Whatever is neither on the way to the version or the rules nor below them is left. -/
theorem path?_written {path : List String} (hversion : ¬ path <+: ["metadata", "resourceVersion"])
    (hversion' : ¬ ["metadata", "resourceVersion"] <+: path) (hrules : ¬ path <+: ["spec", "rules"])
    (hrules' : ¬ ["spec", "rules"] <+: path) : (written c w m route).path? path = route.path? path := by
  have halone : ∀ {key : String} {value : Json}, ∀ k, k ≠ key → [(key, value)].lookup k = none := by
    intro key value k hk
    have hne : (k == key) = false := by simpa using hk
    rw [List.lookup_cons, hne]
    rfl
  rw [written_eq hm, merge_routePatch,
    path?_merge_nested_apart (List.pairwise_singleton _ _) halone ["spec"] (Ordered.merge (ordered_version _) ho)
      hrules hrules',
    path?_merge_nested_apart (List.pairwise_singleton _ _) halone ["metadata"] ho hversion hversion']

/-- The specification has the rules with the split next to what it had. -/
theorem get?_written_spec : (written c w m route).get? "spec" =
    some (.obj (Assoc.insert "rules" (.arr (splitRules c w (rules route)))
      ((route.get? "spec").getD .null).membersOrNone)) := by
  have hkept : (merge (nested ["metadata"] (.obj [("resourceVersion", ofOption .str m.metadata.resourceVersion)]))
      route).get? "spec" = route.get? "spec" := by
    rw [nested, nested, get?_merge (List.pairwise_singleton _ _) ho]
    rfl
  rw [written_eq hm, merge_routePatch, merge_nested, update, get?_set, if_pos rfl, hkept, update]
  rfl

/-- The metadata have the version that was read next to what they had. -/
theorem get?_written_metadata {members metadata : List (String × Json)} (hroute : route = .obj members)
    (hd : Described members metadata) : (written c w m route).get? "metadata" =
      some (.obj (mergeMembers [("resourceVersion", ofOption .str m.metadata.resourceVersion)] metadata)) := by
  have hmetadata : ((route.get? "metadata").getD .null).membersOrNone = metadata := by
    rw [hroute]
    unfold Described at hd
    show ((members.lookup "metadata").getD .null).membersOrNone = metadata
    cases hl : members.lookup "metadata" with
    | none => rw [hl] at hd; cases hd; rfl
    | some j => rw [hl] at hd; rw [show j = obj metadata from hd]; rfl
  have hput : (merge (nested ["metadata"] (.obj [("resourceVersion", ofOption .str m.metadata.resourceVersion)]))
      route).get? "metadata" =
        some (.obj (mergeMembers [("resourceVersion", ofOption .str m.metadata.resourceVersion)] metadata)) := by
    rw [merge_nested, update, get?_set, if_pos rfl, update, hmetadata]
    rfl
  rw [written_eq hm, merge_routePatch, nested, nested, get?_merge (List.pairwise_singleton _ _)
    (Ordered.merge (ordered_version _) ho)]
  exact hput

/-- The route can be read again, with the metadata that it had. -/
theorem exists_read_written : ∃ m', Manifest.ofJson? (written c w m route) = some m' ∧ m'.metadata = m.metadata := by
  obtain ⟨members, metadata, hroute, hd, hmetadata, -⟩ := Manifest.ofJson?_eq_some hm
  have hwritten := get?_written_metadata (c := c) (w := w) ho hm hroute hd
  obtain ⟨after, hafter⟩ : ∃ after, written c w m route = .obj after := by
    rw [written_eq hm]
    exact ⟨_, rfl⟩
  rw [hafter] at hwritten ⊢
  have hdescribed : Described after
      (mergeMembers [("resourceVersion", ofOption .str m.metadata.resourceVersion)] metadata) := by
    unfold Described
    rw [show after.lookup "metadata" = _ from hwritten]
    rfl
  exact Manifest.exists_ofJson?_described hdescribed
    (Metadata.ofJson?_merge_version (ordered_obj_iff.1 (hd.ordered (hroute ▸ ho))).1 hmetadata)

/-- Once a split is written, writing it again changes nothing. -/
theorem written_written {m' : Manifest} (hm' : Manifest.ofJson? (written c w m route) = some m')
    (hmetadata' : m'.metadata = m.metadata) : written c w m' (written c w m route) = written c w m route := by
  obtain ⟨members, metadata, hroute, hd, -, -⟩ := Manifest.ofJson?_eq_some hm
  have hordered := ordered_written (c := c) (w := w) ho hm
  have hrules := rules_of_path? (path?_written_rules (c := c) (w := w) ho hm)
  have hmetadata := get?_written_metadata (c := c) (w := w) ho hm hroute hd
  have hspec := get?_written_spec (c := c) (w := w) ho hm
  have hversioned := (ordered_obj_iff.1 (hd.ordered (hroute ▸ ho))).1
  generalize written c w m route = after at hm' hordered hrules hmetadata hspec ⊢
  have hversion : merge (nested ["metadata"] (.obj [("resourceVersion", ofOption .str m.metadata.resourceVersion)]))
      after = after := by
    refine merge_nested_eq_self hordered hmetadata ?_
    rw [lookup_mergeMembers _ (List.pairwise_singleton _ _) hversioned, List.lookup_cons_self]
    exact changed?_version _ _
  rw [written_eq hm', merge_routePatch, hmetadata', hversion, hrules, splitRules_splitRules (ordered_rules ho)]
  refine merge_nested_eq_self hordered hspec ?_
  rw [Assoc.lookup_insert, if_pos rfl]
  rfl

end Route

/-- A split written into a route. For any route that is in order and can be read, any canary, and any weights: the
route then reads with these weights; where it had rules, the first one carries the split and the further ones are as
they were; of the first rule all members but the backends and the filters are as they were, its filters are those that
were there and shadow no requests, in their order, and the mirror that is asked for, and are left out when there are
none; every value whose path neither leads to the version or the rules nor begins there is as it was, and a
specification that was no object holds the rules alone; and the route can be read again, and writing the same split
again changes nothing. -/
theorem weights_written (c : Canary) (w : RouteWeights) {route : Json} {m : Manifest} (ho : route.Ordered)
    (hm : Manifest.ofJson? route = some m) :
    weights (written c w m route) c.primaryService c.canaryService = w ∧
    (∀ items, route.path? ["spec", "rules"] = some (.arr items) →
      ∃ first, (written c w m route).path? ["spec", "rules"] = some (.arr (first :: items.tail)) ∧
        ∀ old ∈ items.head?,
          (∀ key, key ≠ "backendRefs" → key ≠ "filters" → first.get? key = old.get? key) ∧
          filters first = (filters old).filter (!isMirror ·) ++ (if w.mirrored then [mirrorFilter c] else []) ∧
          (first.get? "filters" = none ↔ filters first = [])) ∧
    (∀ path : List String, ¬ path <+: ["metadata", "resourceVersion"] → ¬ ["metadata", "resourceVersion"] <+: path →
      ¬ path <+: ["spec", "rules"] → ¬ ["spec", "rules"] <+: path →
        (written c w m route).path? path = route.path? path) ∧
    ((∀ spec, route.get? "spec" ≠ some (.obj spec)) →
      ∃ rules, (written c w m route).get? "spec" = some (.obj [("rules", rules)])) ∧
    ∃ m', Manifest.ofJson? (written c w m route) = some m' ∧
      written c w m' (written c w m route) = written c w m route := by
  have hrules := path?_written_rules (c := c) (w := w) ho hm
  rw [splitRules_eq] at hrules
  have hfirst : ((rules route).head?.getD (.obj [])).Ordered := by
    cases hhead : (rules route).head? with
    | none => exact ordered_obj_iff.2 ⟨List.Pairwise.nil, by simp⟩
    | some rule => exact ordered_rules ho rule (List.mem_of_head? hhead)
  obtain ⟨hprimary, hcanary⟩ := weightOf?_splitRule (c := c) (w := w) hfirst
  refine ⟨?_, fun items hitems => ?_, fun path => path?_written ho hm, fun hspec => ?_, ?_⟩
  · unfold weights
    rw [pointer?_first_rule hrules]
    dsimp only
    rw [hprimary, hcanary, filters_splitRule hfirst, any_isMirror_splitFilters]
    rfl
  · rw [rules_of_path? hitems] at hrules hfirst
    refine ⟨_, hrules, fun old hold => ?_⟩
    rw [show items.head? = some old from hold, Option.getD_some] at hfirst ⊢
    exact ⟨fun key => get?_splitRule_of_ne hfirst, filters_splitRule hfirst, get?_splitRule_filters_eq_none_iff hfirst⟩
  · rw [get?_written_spec ho hm]
    cases hfound : route.get? "spec" with
    | none => exact ⟨_, rfl⟩
    | some j =>
      cases j
      case obj spec => exact absurd hfound (hspec spec)
      all_goals exact ⟨_, rfl⟩
  · obtain ⟨m', hm', hmetadata⟩ := exists_read_written (c := c) (w := w) ho hm
    exact ⟨m', hm', written_written ho hm hm' hmetadata⟩

/-! ### A route with filters of its own -/

/-- A rule with a match, a filter that changes headers, and a mirror to a service that is gone. -/
def sharedRule : Json := .obj [
  ("backendRefs", .arr [.obj [("name", .str "podinfo"), ("port", .int 9898)]]),
  ("filters", .arr [.obj [("requestHeaderModifier", .obj [("remove", .arr [.str "x-env"])]),
      ("type", .str "RequestHeaderModifier")],
    .obj [("requestMirror", .obj [("backendRef", .obj [("name", .str "stale")])]), ("type", .str "RequestMirror")]]),
  ("matches", .arr [.obj [("path", .obj [("value", .str "/api")])]])]

/-- A rule that another service answers. -/
def otherRule : Json := .obj [("backendRefs", .arr [.obj [("name", .str "cdn")]])]

/-- A route with both. -/
def sharedRoute : Json := .obj [
  ("apiVersion", .str "gateway.networking.k8s.io/v1"), ("kind", .str "HTTPRoute"),
  ("metadata", .obj [("name", .str "podinfo"), ("namespace", .str "prod"), ("resourceVersion", .str "42")]),
  ("spec", .obj [("parentRefs", .arr [.obj [("name", .str "public")]]), ("rules", .arr [sharedRule, otherRule])])]

/-- A canary behind this route. -/
def sharedCanary : Canary where
  metadata := { name := some "podinfo", ns := some "prod" }
  spec := { targetRef := ⟨"apps/v1", "Deployment", "podinfo", none⟩, service := { port := 9898 } }

theorem ordered_sharedRoute : sharedRoute.Ordered := by
  simp only [sharedRoute, sharedRule, otherRule, Ordered, OrderedItems, OrderedMembers]
  decide

/-- A mirrored split is read back, the match and the other rule are there, and so is the parent. -/
theorem weights_written_shared : ∃ m first, Manifest.ofJson? sharedRoute = some m ∧
    weights (written sharedCanary ⟨70, 30, true⟩ m sharedRoute) "podinfo-primary" "podinfo-canary" = ⟨70, 30, true⟩ ∧
    (written sharedCanary ⟨70, 30, true⟩ m sharedRoute).path? ["spec", "rules"] = some (.arr [first, otherRule]) ∧
    first.get? "matches" = some (.arr [.obj [("path", .obj [("value", .str "/api")])]]) ∧
    (written sharedCanary ⟨70, 30, true⟩ m sharedRoute).path? ["spec", "parentRefs"] =
      some (.arr [.obj [("name", .str "public")]]) := by
  obtain ⟨m, hm⟩ : ∃ m, Manifest.ofJson? sharedRoute = some m := ⟨_, rfl⟩
  obtain ⟨hweights, hrules, hframe, -, -⟩ := weights_written sharedCanary ⟨70, 30, true⟩ ordered_sharedRoute hm
  obtain ⟨first, hfirst, hkept⟩ := hrules [sharedRule, otherRule] rfl
  obtain ⟨hmembers, -, -⟩ := hkept sharedRule rfl
  exact ⟨m, first, hm, hweights, hfirst, hmembers "matches" (by decide) (by decide),
    hframe ["spec", "parentRefs"] (by decide) (by decide) (by decide) (by decide)⟩

end HttpRoute

end Rollout
