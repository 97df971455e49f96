/-
Changes of workloads as merge patches. A change has a place in the object, where it leaves one value
(`WorkloadChange.place`, `WorkloadChange.value`). Its patch is made for the object as it was read, and
does the same to the object as it is stored: where no patch is needed the value is there already
(`WorkloadChange.patch_eq`), and merged in, the patch leaves it there (`WorkloadChange.Members.path?_merge`).
-/
import Rollout.Proofs.Json.Resent
import Rollout.Workload.Change

namespace Rollout

open Json

namespace WorkloadChange

/-! ## The place of a change -/

/-- The path to the object that a change is about, and the key there. -/
def place : WorkloadChange → List String × String
  | .replicas _ => (["spec"], "replicas")
  | .nodeSelector key _ => (selectorPath, key)

/-- What the change leaves there, if anything. -/
def value : WorkloadChange → Option Json
  | .replicas count => some (.int count.toInt)
  | .nodeSelector _ value => value.map .str

/-- The path to what the change leaves. -/
def path (change : WorkloadChange) : List String := change.place.1 ++ [change.place.2]

/-- The members that a patch for the change may have at its place: none where nothing is left and
nothing was, else the one value. -/
def Members (change : WorkloadChange) (found : Option Json) (members : List (String × Json)) : Prop :=
  members = [(change.place.2, change.value.getD .null)] ∨ members = [] ∧ found = none ∧ change.value = none

/-- The patch for a change, unless it is empty, is nested along the path to its place. -/
theorem patch_eq (change : WorkloadChange) {members : List (String × Json)} (ho : (obj members).Ordered) :
    change.patch (obj members) = obj [] ∧ (obj members).path? change.path = change.value ∨
      ∃ changes, change.patch (obj members) = nested change.place.1 (obj changes) ∧
        change.Members ((obj members).path? change.path) changes := by
  cases change with
  | replicas count =>
    rcases diff_update_set (fun _ => eq_of_int_same) (by simp) ho "spec" [] "replicas" with h | h
    · exact .inl h
    · exact .inr ⟨_, h, .inl rfl⟩
  | nodeSelector key value =>
    cases value with
    | some text =>
      rcases diff_update_set (fun _ => eq_of_str_same) (by simp) ho "spec" ["template", "spec", "nodeSelector"] key
        with h | h
      · exact .inl h
      · exact .inr ⟨_, h, .inl rfl⟩
    | none =>
      have hpath : (obj members).path? (path (.nodeSelector key none)) =
          ((obj members).path? selectorPath).bind (·.get? key) := by
        rw [path, path?_append]
        simp only [place, path?_singleton]
      rw [hpath]
      rcases (leads_unset key).diff_update ho "spec" ["template", "spec", "nodeSelector"] with
        h | ⟨w, hw, rfl | ⟨rfl, hnone⟩⟩
      · exact .inl h
      · exact .inr ⟨_, hw, .inl rfl⟩
      · exact .inr ⟨_, hw, .inr ⟨rfl, hnone, rfl⟩⟩

/-! ## Merging it in -/

variable {change : WorkloadChange} {found : Option Json} {changes : List (String × Json)}

/-- What is read as the value that a change leaves is that value. -/
theorem eq_of_readAs (change : WorkloadChange) {found : Option Json} (h : Option.Rel ReadAs found change.value) :
    found = change.value := by
  cases change with
  | replicas count =>
    cases found with
    | none => cases h
    | some j => cases h with | some h => rw [h.eq (by simp) (by simp) (by simp)]; rfl
  | nodeSelector key value =>
    cases value with
    | none => cases h; rfl
    | some text =>
      cases found with
      | none => cases h
      | some j => cases h with | some h => rw [h.eq (by simp) (by simp) (by simp)]; rfl

/-- What is left is put as it is, and nothing by null. -/
theorem changed?_value (change : WorkloadChange) (found : Option Json) :
    changed? (change.value.getD .null) found = change.value := by
  cases change with
  | replicas count => rfl
  | nodeSelector key value => cases value <;> rfl

theorem Members.ordered (h : change.Members found changes) : Assoc.Ordered changes := by
  rcases h with rfl | ⟨rfl, -⟩
  · exact List.pairwise_singleton _ _
  · exact List.Pairwise.nil

theorem Members.ordered_obj (h : change.Members found changes) : (obj changes).Ordered := by
  refine ordered_obj_iff.2 ⟨h.ordered, fun e he => ?_⟩
  rcases h with rfl | ⟨rfl, -⟩
  · obtain rfl := List.mem_singleton.1 he
    cases change with
    | replicas count => trivial
    | nodeSelector key value => cases value <;> trivial
  · cases he

theorem Members.steady (h : change.Members found changes) : (obj changes).Steady := by
  refine steady_obj_iff.2 fun e he => ?_
  rcases h with rfl | ⟨rfl, -⟩
  · obtain rfl := List.mem_singleton.1 he
    cases change with
    | replicas count => rfl
    | nodeSelector key value => cases value <;> rfl
  · cases he

/-- The members of a patch leave the value at the place of the change. -/
theorem Members.path?_merge (h : change.Members found changes) {j : Json} (hj : j.Ordered)
    (hfound : found = none → j.path? change.path = none) :
    (merge (nested change.place.1 (obj changes)) j).path? change.path = change.value := by
  unfold path at hfound ⊢
  rw [path?_merge_nested h.ordered _ _ hj]
  rcases h with rfl | ⟨rfl, hnone, hvalue⟩
  · rw [List.lookup_cons, beq_self_eq_true]
    exact changed?_value change _
  · rw [hvalue]
    exact hfound hnone

end WorkloadChange

end Rollout
