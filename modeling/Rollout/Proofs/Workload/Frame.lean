/-
Changes of workloads among other writers. The patch for a change is made for the object as it was read and
carries no version, so it may meet an object that others have changed meanwhile. Main statement:
`WorkloadChange.patch_concurrent`, where the value at the end of the change's path is still the one that was
read, the patch puts what the change asks for and leaves everything that lies neither above nor below it; on
the object that was read it makes the change itself.
-/
import Rollout.Proofs.Json.Update
import Rollout.Proofs.Workload.Change

namespace Rollout

open Json

namespace WorkloadChange

/-! ## The change at its place -/

/-- What the change makes of the object at its place. -/
def edit : WorkloadChange → Json → Json
  | .replicas count => (·.set "replicas" (.int count.toInt))
  | .nodeSelector key (some value) => (·.set key (.str value))
  | .nodeSelector key none => (·.unset key)

theorem apply_eq (change : WorkloadChange) (object : Json) :
    change.apply object = object.update change.edit change.place.1 := by
  rcases change with _ | ⟨key, _ | value⟩ <;> rfl

theorem exists_place (change : WorkloadChange) : ∃ rest, change.place.1 = "spec" :: rest := by
  cases change <;> exact ⟨_, rfl⟩

theorem exact_edit (change : WorkloadChange) : Exact change.edit := by
  rcases change with count | ⟨key, _ | value⟩
  · exact (exact_put (fun _ => eq_of_int_same) (by simp) (by simp)).set "replicas"
  · exact exact_unset key
  · exact (exact_put (fun _ => eq_of_str_same) (by simp) (by simp)).set key

theorem edit_edit (change : WorkloadChange) {members : List (String × Json)} (h : Assoc.Ordered members) :
    change.edit (.obj (change.edit (.obj members)).membersOrNone) = change.edit (.obj members) := by
  have hset : ∀ key value, Assoc.insert key value (Assoc.insert key value members) = Assoc.insert key value members :=
    fun key value => (h.insert key value).insert_eq (by rw [Assoc.lookup_insert, if_pos rfl])
  rcases change with count | ⟨key, _ | value⟩
  · exact congrArg obj (hset "replicas" _)
  · exact congrArg obj ((h.erase key).erase_eq (by rw [Assoc.lookup_erase h, if_pos rfl]))
  · exact congrArg obj (hset key _)

theorem ordered_edit (change : WorkloadChange) {j : Json} (h : j.Ordered) : (change.edit j).Ordered := by
  rcases change with count | ⟨key, _ | value⟩
  · exact h.set "replicas" trivial
  · exact h.unset key
  · exact h.set key trivial

theorem ordered_apply (change : WorkloadChange) {object : Json} (h : object.Ordered) :
    (change.apply object).Ordered := by
  rw [change.apply_eq]
  exact Ordered.update change.ordered_edit _ h

/-- Making a change twice is making it once. -/
theorem apply_apply (change : WorkloadChange) {object : Json} (h : object.Ordered) :
    change.apply (change.apply object) = change.apply object := by
  rw [change.apply_eq object, change.apply_eq]
  exact update_update (fun _ hm => change.edit_edit hm) _ h

/-- A change makes an object. -/
theorem exists_apply_eq (change : WorkloadChange) (object : Json) : ∃ members, change.apply object = .obj members := by
  obtain ⟨rest, hplace⟩ := change.exists_place
  rw [change.apply_eq, hplace]
  exact ⟨_, rfl⟩

/-! ## The patch where it arrives -/

/-- What equals the value that a change leaves is that value. -/
theorem eq_of_sameFound (change : WorkloadChange) {found : Option Json} (h : SameFound found change.value) :
    found = change.value := by
  rcases change with count | ⟨key, _ | value⟩
  · obtain ⟨j, rfl, hj⟩ := exists_of_some_rel h
    rw [eq_of_int_same (same_symm hj)]; rfl
  · cases h; rfl
  · obtain ⟨j, rfl, hj⟩ := exists_of_some_rel h
    rw [eq_of_str_same (same_symm hj)]; rfl

theorem Members.lookup_eq_none {change : WorkloadChange} {found : Option Json} {changes : List (String × Json)}
    (h : change.Members found changes) (key : String) (hkey : key ≠ change.place.2) : changes.lookup key = none := by
  rcases h with rfl | ⟨rfl, -⟩
  · have hne : (key == change.place.2) = false := by simpa using hkey
    rw [List.lookup_cons, hne]; rfl
  · rfl

section Arrival

variable (change : WorkloadChange) {snapshot : List (String × Json)} (hs : (obj snapshot).Ordered)

include hs

/-- On the object for which it was found, the patch makes the change. -/
theorem merge_patch : (change.patch (obj snapshot)).merge (obj snapshot) = change.apply (obj snapshot) := by
  obtain ⟨rest, hplace⟩ := change.exists_place
  unfold patch
  rw [change.apply_eq, hplace]
  exact change.exact_edit.merge_diff_update hs "spec" rest

theorem patch_eq_empty_iff : change.patch (obj snapshot) = obj [] ↔ change.apply (obj snapshot) = obj snapshot := by
  constructor
  · intro h
    rw [← change.merge_patch hs, h]
    rfl
  · intro h
    have hmembers := (ordered_obj_iff.1 hs).1
    unfold patch
    rw [h]
    exact (diff_eq_empty_iff hmembers hmembers).2 (same_self _)

/-- Once a change is made there is nothing left to patch. -/
theorem patch_apply : change.patch (change.apply (obj snapshot)) = obj [] := by
  obtain ⟨members, hmembers⟩ := change.exists_apply_eq (obj snapshot)
  have hordered := change.ordered_apply hs
  have hagain := change.apply_apply hs
  rw [hmembers] at hordered hagain ⊢
  exact (change.patch_eq_empty_iff hordered).2 hagain

variable {stored : List (String × Json)} (ht : (obj stored).Ordered)

include ht

/-- On an object that has the same at the end of the path, the patch leaves the value of the change there. -/
theorem path?_merge_patch (hsame : SameFound ((obj stored).path? change.path) ((obj snapshot).path? change.path)) :
    ((change.patch (obj snapshot)).merge (obj stored)).path? change.path = change.value := by
  rcases change.patch_eq hs with ⟨hempty, hthere⟩ | ⟨changes, hpatch, hmembers⟩
  · rw [hthere] at hsame
    rw [hempty]
    exact change.eq_of_sameFound hsame
  · rw [hpatch]
    refine hmembers.path?_merge ht fun hnone => ?_
    rw [hnone] at hsame
    cases hfound : (obj stored).path? change.path with
    | none => rfl
    | some j => rw [hfound] at hsame; cases hsame

/-- The patch leaves all paths that lead neither to the end of its path nor beyond. -/
theorem path?_merge_patch_apart {path : List String} (habove : ¬ path <+: change.path)
    (hbelow : ¬ change.path <+: path) :
    ((change.patch (obj snapshot)).merge (obj stored)).path? path = (obj stored).path? path := by
  rcases change.patch_eq hs with ⟨hempty, -⟩ | ⟨changes, hpatch, hmembers⟩
  · rw [hempty]; rfl
  · rw [hpatch]
    exact path?_merge_nested_apart hmembers.ordered hmembers.lookup_eq_none change.place.1 ht habove hbelow

end Arrival

/-- The patch that is found for a change of the object that was read, where it meets the object that is stored.
If both hold the same at the end of the change's path, the value asked for is there afterwards, and whatever is
at a path that is neither a beginning of that path nor goes on from it is as it was. On the object that was read
the patch makes exactly the change, it is empty exactly where the change changes nothing, and for the same change
once more it is empty. -/
theorem patch_concurrent (change : WorkloadChange) {snapshot stored : List (String × Json)}
    (hs : (obj snapshot).Ordered) (ht : (obj stored).Ordered) :
    (SameFound ((obj stored).path? change.path) ((obj snapshot).path? change.path) →
      ((change.patch (obj snapshot)).merge (obj stored)).path? change.path = change.value ∧
      ∀ path : List String, ¬ path <+: change.path → ¬ change.path <+: path →
        ((change.patch (obj snapshot)).merge (obj stored)).path? path = (obj stored).path? path) ∧
    (change.patch (obj snapshot)).merge (obj snapshot) = change.apply (obj snapshot) ∧
    (change.patch (obj snapshot) = obj [] ↔ change.apply (obj snapshot) = obj snapshot) ∧
    change.patch (change.apply (obj snapshot)) = obj [] := by
  refine ⟨fun hsame => ⟨change.path?_merge_patch hs ht hsame, fun path habove hbelow => ?_⟩,
    change.merge_patch hs, change.patch_eq_empty_iff hs, change.patch_apply hs⟩
  exact change.path?_merge_patch_apart hs ht habove hbelow

/-- A selector is removed from an object that was scaled after it was read: the count of the other writer
stays, and the selector is gone. -/
theorem patch_concurrent_scaled :
    let change := WorkloadChange.nodeSelector "disk" none
    let selected := obj [("spec", obj [("nodeSelector", obj [("disk", .str "ssd")])])]
    let snapshot := [("spec", obj [("replicas", .int 3), ("template", selected)])]
    let stored := [("spec", obj [("replicas", .int 7), ("template", selected)])]
    ((change.patch (obj snapshot)).merge (obj stored)).path? change.path = none ∧
      ((change.patch (obj snapshot)).merge (obj stored)).path? ["spec", "replicas"] = some (.int 7) := by
  intro change selected snapshot stored
  have hs : (obj snapshot).Ordered := by simp only [snapshot, selected, Ordered, OrderedMembers]; decide
  have ht : (obj stored).Ordered := by simp only [stored, selected, Ordered, OrderedMembers]; decide
  obtain ⟨hleaf, hapart⟩ := (change.patch_concurrent hs ht).1 (sameFound_some_iff.2 (same_self (.str "ssd")))
  exact ⟨hleaf, hapart ["spec", "replicas"] (by decide) (by decide)⟩

end WorkloadChange

end Rollout
