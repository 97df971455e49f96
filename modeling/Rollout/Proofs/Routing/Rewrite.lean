/-
Writing a split into the rules of a route. What is written twice is written once
(`HttpRoute.splitRules_splitRules`): the backends and the filters of the first rule are set to what
they are then. And rules that come through as text unchanged do so with the split
(`HttpRoute.steady_splitRules`).
-/
import Rollout.Proofs.Json.Resent
import Rollout.Routing.HttpRoute

namespace Rollout

open Json

namespace HttpRoute

variable {c : Canary} {w : RouteWeights}

/-! ## The parts of a rule -/

/-- The backends of a split. -/
def splitBackends (c : Canary) (w : RouteWeights) : Json := .arr ((backendRefs c w).map (·.toJson))

/-- The filters of a rule with a split. -/
def splitFilters (c : Canary) (w : RouteWeights) (filters : List Json) : List Json :=
  filters.filter (!isMirror ·) ++ if w.mirrored then [mirrorFilter c] else []

/-- A rule with these filters, which are left out when there are none. -/
def withFilters (rule : Json) : List Json → Json
  | [] => rule.unset "filters"
  | first :: rest => rule.set "filters" (.arr (first :: rest))

theorem splitRule_eq (c : Canary) (w : RouteWeights) (rule : Json) :
    splitRule c w rule =
      withFilters (rule.set "backendRefs" (splitBackends c w)) (splitFilters c w (filters rule)) := by
  have hfilters : filters (rule.set "backendRefs" (splitBackends c w)) = filters rule := by
    unfold filters
    rw [get?_set, if_neg (by decide)]
  have hsplit : splitFilters c w (filters (rule.set "backendRefs" (splitBackends c w))) =
      splitFilters c w (filters rule) := by rw [hfilters]
  unfold splitRule
  dsimp only
  unfold splitFilters splitBackends at hsplit
  rw [hsplit]
  unfold splitFilters splitBackends
  cases (filters rule).filter (!isMirror ·) ++ if w.mirrored then [mirrorFilter c] else [] <;> rfl

/-- What holds of the filters that are there and of a mirror holds of those with the split. -/
theorem forall_mem_splitFilters {P : Json → Prop} {fs : List Json} (h : ∀ filter ∈ fs, P filter)
    (hmirror : P (mirrorFilter c)) : ∀ filter ∈ splitFilters c w fs, P filter := by
  intro filter hmem
  rcases List.mem_append.1 hmem with hmem | hmem
  · exact h filter (List.mem_of_mem_filter hmem)
  · split at hmem
    · rw [List.mem_singleton.1 hmem]; exact hmirror
    · cases hmem

/-- The filters that shadow requests are replaced, so doing it twice is doing it once. -/
theorem splitFilters_splitFilters (filters : List Json) :
    splitFilters c w (splitFilters c w filters) = splitFilters c w filters := by
  have hmirror : isMirror (mirrorFilter c) = true := by
    unfold isMirror mirrorFilter
    simp [object, Assoc.ofList, Json.get?, text?]
  unfold splitFilters
  rw [List.filter_append, List.filter_filter]
  congr 1
  by_cases hw : w.mirrored = true
  · simp [hw, hmirror]
  · simp [hw]

theorem filters_withFilters {rule : Json} (h : rule.Ordered) (fs : List Json) : filters (withFilters rule fs) = fs := by
  unfold filters
  cases fs with
  | nil =>
    rw [withFilters, h.get?_unset, if_pos rfl]; rfl
  | cons first rest =>
    rw [withFilters, get?_set, if_pos rfl]; rfl

theorem get?_withFilters {rule : Json} (h : rule.Ordered) (fs : List Json) {key : String} (hkey : key ≠ "filters") :
    (withFilters rule fs).get? key = rule.get? key := by
  cases fs with
  | nil => rw [withFilters, h.get?_unset, if_neg hkey]
  | cons first rest => rw [withFilters, get?_set, if_neg hkey]

theorem withFilters_eq {members : List (String × Json)} (h : (obj members).Ordered) {fs : List Json}
    (hfs : (obj members).get? "filters" = if fs = [] then none else some (.arr fs)) :
    withFilters (obj members) fs = obj members := by
  cases fs with
  | nil => exact h.unset_eq (by rw [hfs, if_pos rfl])
  | cons first rest => exact h.set_eq (by rw [hfs, if_neg (by simp)])

/-! ## Order -/

theorem ordered_filters {rule : Json} (h : rule.Ordered) : ∀ filter ∈ filters rule, filter.Ordered := by
  have hget := h.get? (k := "filters")
  unfold filters
  cases hf : rule.get? "filters" with
  | none => simp
  | some j =>
    rw [hf] at hget
    cases j
    case arr items => exact (orderedItems_iff items).1 hget
    all_goals simp [items?]

theorem ordered_splitBackends (c : Canary) (w : RouteWeights) : (splitBackends c w).Ordered := by
  refine (orderedItems_iff _).2 fun j hj => ?_
  obtain ⟨b, -, rfl⟩ := List.mem_map.1 hj
  exact ordered_object (by simp [Ordered, ofInt32])

theorem ordered_mirrorFilter (c : Canary) : (mirrorFilter c).Ordered := by
  have hbackend : (object [("name", .str c.canaryService), ("port", ofInt32 c.spec.service.port)]).Ordered :=
    ordered_object (by simp [Ordered, ofInt32])
  have hmirror : (object
      [("backendRef", object [("name", .str c.canaryService), ("port", ofInt32 c.spec.service.port)])]).Ordered :=
    ordered_object (by simpa using hbackend)
  exact ordered_object (by simpa [Ordered] using hmirror)

theorem ordered_withFilters {rule : Json} (h : rule.Ordered) {fs : List Json} (hfs : ∀ filter ∈ fs, filter.Ordered) :
    (withFilters rule fs).Ordered := by
  cases fs with
  | nil => exact h.unset "filters"
  | cons first rest => exact h.set "filters" ((orderedItems_iff _).2 hfs)

theorem ordered_splitRule {rule : Json} (h : rule.Ordered) : (splitRule c w rule).Ordered := by
  rw [splitRule_eq]
  exact ordered_withFilters (h.set _ (ordered_splitBackends c w))
    (forall_mem_splitFilters (ordered_filters h) (ordered_mirrorFilter c))

theorem ordered_splitRules {rules : List Json} (h : ∀ rule ∈ rules, rule.Ordered) :
    ∀ rule ∈ splitRules c w rules, rule.Ordered := by
  cases rules with
  | nil => simpa [splitRules] using ordered_splitRule (c := c) (w := w) (ordered_obj_iff.2 ⟨List.Pairwise.nil, by simp⟩)
  | cons first rest =>
    rw [splitRules, List.forall_mem_cons]
    exact ⟨ordered_splitRule (h first (List.mem_cons_self ..)), fun rule hmem => h rule (List.mem_cons_of_mem _ hmem)⟩

/-! ## Twice is once -/

theorem splitRule_splitRule {rule : Json} (h : rule.Ordered) :
    splitRule c w (splitRule c w rule) = splitRule c w rule := by
  have hset : (rule.set "backendRefs" (splitBackends c w)).Ordered := h.set _ (ordered_splitBackends c w)
  -- the rule as it is after the first time
  obtain ⟨members, hmembers⟩ : ∃ members, splitRule c w rule = obj members := by
    rw [splitRule_eq]
    cases splitFilters c w (filters rule) <;> exact ⟨_, rfl⟩
  have hordered : (obj members).Ordered := hmembers ▸ ordered_splitRule h
  have hfilters : filters (obj members) = splitFilters c w (filters rule) := by
    rw [← hmembers, splitRule_eq, filters_withFilters hset]
  have hbackends : (obj members).get? "backendRefs" = some (splitBackends c w) := by
    rw [← hmembers, splitRule_eq, get?_withFilters hset _ (by decide), get?_set, if_pos rfl]
  rw [hmembers, splitRule_eq, hordered.set_eq hbackends, hfilters, splitFilters_splitFilters]
  refine withFilters_eq hordered ?_
  rw [← hmembers, splitRule_eq]
  cases splitFilters c w (filters rule) with
  | nil => rw [withFilters, hset.get?_unset, if_pos rfl, if_pos rfl]
  | cons first rest => rw [withFilters, get?_set, if_pos rfl, if_neg (by simp)]

theorem splitRules_splitRules {rules : List Json} (h : ∀ rule ∈ rules, rule.Ordered) :
    splitRules c w (splitRules c w rules) = splitRules c w rules := by
  cases rules with
  | nil => rw [splitRules, splitRules, splitRule_splitRule (ordered_obj_iff.2 ⟨List.Pairwise.nil, by simp⟩)]
  | cons first rest => rw [splitRules, splitRules, splitRule_splitRule (h first (List.mem_cons_self ..))]

/-! ## As text -/

theorem steady_str (text : String) : (str text).Steady := rfl

theorem steady_ofInt32 (n : Int32) : (ofInt32 n).Steady := rfl

theorem steady_mirrorFilter (c : Canary) : (mirrorFilter c).Steady := by
  have hbackend : (object [("name", .str c.canaryService), ("port", ofInt32 c.spec.service.port)]).Steady :=
    steady_object (by simp [steady_str, steady_ofInt32])
  have hmirror : (object
      [("backendRef", object [("name", .str c.canaryService), ("port", ofInt32 c.spec.service.port)])]).Steady :=
    steady_object (by simpa using hbackend)
  exact steady_object (by simpa [steady_str] using hmirror)

theorem steady_splitBackends (c : Canary) (w : RouteWeights) : (splitBackends c w).Steady := by
  refine steady_arr_iff.2 fun j hj => ?_
  obtain ⟨b, -, rfl⟩ := List.mem_map.1 hj
  exact steady_object (by simp [steady_str, steady_ofInt32])

theorem steady_filters {rule : Json} (h : rule.Steady) : ∀ filter ∈ filters rule, filter.Steady := by
  have hrel := h.get? "filters"
  unfold filters
  cases hf : rule.get? "filters" with
  | none => simp
  | some j =>
    rw [hf] at hrel
    cases hrel with
    | some hj =>
      cases j
      case arr items => exact steady_arr_iff.1 hj
      all_goals simp [items?]

/-- A rule that comes through as text unchanged does so with the split. -/
theorem steady_splitRule {rule : Json} (h : rule.Steady) : (splitRule c w rule).Steady := by
  rw [splitRule_eq]
  have hset := h.set "backendRefs" (steady_splitBackends c w)
  have hfilters : ∀ filter ∈ splitFilters c w (filters rule), filter.Steady :=
    forall_mem_splitFilters (steady_filters h) (steady_mirrorFilter c)
  cases hfs : splitFilters c w (filters rule) with
  | nil => exact hset.unset "filters"
  | cons first rest => exact hset.set "filters" (steady_arr_iff.2 (hfs ▸ hfilters))

theorem steady_splitRules {rules : List Json} (h : ∀ rule ∈ rules, rule.Steady) :
    ∀ rule ∈ splitRules c w rules, rule.Steady := by
  cases rules with
  | nil => simpa [splitRules] using steady_splitRule (c := c) (w := w) (steady_obj_iff.2 (by simp))
  | cons first rest =>
    rw [splitRules, List.forall_mem_cons]
    exact ⟨steady_splitRule (h first (List.mem_cons_self ..)), fun rule hmem => h rule (List.mem_cons_of_mem _ hmem)⟩

/-! ## Rules as they are read -/

/-- The rules that are read where these are stored. -/
def rulesRead (stored : Option Json) : List Json := ((stored.bind (·.resent?)).bind (·.items?)).getD []

theorem ordered_rulesRead {stored : Option Json} (h : ∀ j ∈ stored, j.Ordered) :
    ∀ rule ∈ rulesRead stored, rule.Ordered := by
  unfold rulesRead
  cases stored with
  | none => simp
  | some j =>
    rw [Option.bind_some]
    cases hr : j.resent? with
    | none => simp
    | some r =>
      have hordered : r.Ordered := ReadAs.ordered hr (h j rfl)
      cases r
      case arr items => exact (orderedItems_iff items).1 hordered
      all_goals simp [items?]

theorem rulesRead_of_steady {rules : List Json} (h : ∀ rule ∈ rules, rule.Steady) :
    rulesRead (some (.arr rules)) = rules := by
  unfold rulesRead
  rw [Option.bind_some, show (arr rules).resent? = some (arr rules) from steady_arr_iff.2 h]; rfl

/-- A route has the rules that are read. -/
theorem rules_body {j r : Json} {m : Manifest} (hr : j.ReadAs r) (hbody : m.body.get? "spec" = r.get? "spec") :
    rules m.body = rulesRead (j.path? ["spec", "rules"]) := by
  have hrel := hr.path? ["spec", "rules"]
  unfold rules rulesRead
  rw [pointer?_eq_path? (by decide +kernel), path?_cons, hbody, ← path?_cons]
  generalize j.path? ["spec", "rules"] = stored at hrel ⊢
  generalize r.path? ["spec", "rules"] = found at hrel ⊢
  cases hrel with
  | none => rfl
  | @some stored found hrules =>
    rw [Option.bind_some, Option.bind_some, show stored.resent? = some found from hrules]; rfl

end HttpRoute

end Rollout
