/-
Parking is no new version. A workload with one pod on every node is scaled by an entry of its node selector,
and the entry is left out of what makes a version. Main statement: `withoutParking_update`, whatever a change
of the parking entry makes of the selector, be it missing, emptied, or held together by entries of the user,
what makes the version stays the same.
-/
import Rollout.Proofs.Workload.Frame
import Rollout.Workload.SpecHash

namespace Rollout

open Json

/-! ## Changes of the parking entry -/

namespace WorkloadChange

/-- Changes nothing of an object but its parking entry. -/
structure OnlyParks (f : Json → Json) : Prop where
  ordered : ∀ {j : Json}, j.Ordered → (f j).Ordered
  entries : ∀ entries : List (String × Json), Assoc.Ordered entries → ∃ entries', f (.obj entries) = .obj entries' ∧
    Assoc.erase parkingKey entries' = Assoc.erase parkingKey entries

theorem onlyParks_edit (count : Int32) : OnlyParks (parking count).edit := by
  refine ⟨(parking count).ordered_edit, fun entries h => ?_⟩
  unfold parking
  split
  · exact ⟨_, rfl, h.erase_insert _ _⟩
  · exact ⟨_, rfl, h.erase_erase _⟩

/-- The members of a patch that parks or unparks, merged in. -/
theorem Members.onlyParks {count : Int32} {found : Option Json} {changes : List (String × Json)}
    (hm : (parking count).Members found changes) : OnlyParks (merge (.obj changes)) := by
  refine ⟨Ordered.merge hm.ordered_obj, fun entries h => ?_⟩
  rcases hm with rfl | ⟨rfl, -⟩
  · by_cases hcount : count = 0
    · have hput : (parking count).value.getD .null = .str "true" := by rw [parking, if_pos hcount]; rfl
      rw [hput, merge_obj, mergeMembers_cons (by simp), mergeMembers_nil]
      exact ⟨_, rfl, h.erase_insert _ _⟩
    · have hput : (parking count).value.getD .null = .null := by rw [parking, if_neg hcount]; rfl
      rw [hput, merge_obj, mergeMembers_cons_null, mergeMembers_nil]
      exact ⟨_, rfl, h.erase_erase _⟩
  · exact ⟨entries, rfl, rfl⟩

end WorkloadChange

open WorkloadChange

/-! ## What makes a version -/

/-- The pods of a template are described by an object, and select their nodes by entries if at all. -/
structure Selectable (template : Json) (pod : List (String × Json)) : Prop where
  found : template.get? "spec" = some (.obj pod)
  selector : ∀ j, pod.lookup "nodeSelector" = some j → ∃ entries, j = .obj entries

/-- The description of pods without the parking entry. -/
def unparked (pod : List (String × Json)) : List (String × Json) :=
  match Assoc.erase parkingKey ((pod.lookup "nodeSelector").getD .null).membersOrNone with
  | [] => Assoc.erase "nodeSelector" pod
  | rest => Assoc.insert "nodeSelector" (.obj rest) pod

/-- Only the entries apart from the parking entry count. -/
theorem unparked_insert {pod selector : List (String × Json)} (ho : Assoc.Ordered pod)
    (h : Assoc.erase parkingKey selector =
      Assoc.erase parkingKey ((pod.lookup "nodeSelector").getD .null).membersOrNone) :
    unparked (Assoc.insert "nodeSelector" (.obj selector) pod) = unparked pod := by
  unfold unparked
  rw [Assoc.lookup_insert, if_pos rfl, Option.getD_some, membersOrNone_obj, h]
  split
  · exact ho.erase_insert _ _
  · exact ho.insert_insert _ _ _

section Template

variable {template : Json} {pod : List (String × Json)} (ho : template.Ordered) (h : Selectable template pod)

include ho h

theorem Selectable.ordered_pod : (obj pod).Ordered := by
  have hget := ho.get? (k := "spec")
  rw [h.found] at hget
  exact hget

theorem withoutParking_eq : withoutParking template = template.set "spec" (.obj (unparked pod)) := by
  unfold withoutParking unparked
  rw [h.found]
  dsimp only
  cases hl : pod.lookup "nodeSelector" with
  | none =>
    cases template
    case obj members =>
      show obj members = (obj members).set "spec" (.obj (Assoc.erase "nodeSelector" pod))
      rw [(ordered_obj_iff.1 (h.ordered_pod ho)).1.erase_eq hl, ho.set_eq h.found]
    all_goals cases h.found
  | some j =>
    obtain ⟨entries, rfl⟩ := h.selector j hl
    dsimp only [Option.getD_some, membersOrNone_obj]
    cases Assoc.erase parkingKey entries <;> rfl

/-- A change of the parking entry leaves a template of the same version, whose pods select by entries again. -/
theorem withoutParking_update {f : Json → Json} (hf : OnlyParks f) :
    withoutParking (template.update f ["spec", "nodeSelector"]) = withoutParking template ∧
      ∃ pod', Selectable (template.update f ["spec", "nodeSelector"]) pod' := by
  have hpod := h.ordered_pod ho
  -- the selector as the change finds it, empty where there is none
  have hselector : Assoc.Ordered ((pod.lookup "nodeSelector").getD .null).membersOrNone :=
    (Ordered.membersOrNone (hpod.get? (k := "nodeSelector"))).1
  obtain ⟨entries', hchanged, herase⟩ := hf.entries _ hselector
  have hupdate : template.update f ["spec", "nodeSelector"] =
      template.set "spec" (.obj (Assoc.insert "nodeSelector" (.obj entries') pod)) := by
    rw [← hchanged, update, h.found]
    rfl
  have hselectable : Selectable (template.update f ["spec", "nodeSelector"])
      (Assoc.insert "nodeSelector" (.obj entries') pod) := by
    refine ⟨by rw [hupdate, get?_set, if_pos rfl], fun j hj => ⟨entries', ?_⟩⟩
    rw [Assoc.lookup_insert, if_pos rfl] at hj
    exact (Option.some.inj hj).symm
  refine ⟨?_, _, hselectable⟩
  rw [withoutParking_eq (Ordered.update hf.ordered _ ho) hselectable, withoutParking_eq ho h,
    unparked_insert (ordered_obj_iff.1 hpod).1 herase, hupdate]
  exact congrArg obj (ho.membersOrNone.1.insert_insert _ _ _)

end Template

/-- The second template is the first with another parking entry at most. -/
def Reparked (template template' : Json) : Prop :=
  template' = template ∨ ∃ f, OnlyParks f ∧ template' = template.update f ["spec", "nodeSelector"]

theorem Reparked.same_version {template template' : Json} {pod : List (String × Json)} (h : Reparked template template')
    (ho : template.Ordered) (hs : Selectable template pod) :
    withoutParking template' = withoutParking template ∧ template'.Ordered ∧ ∃ pod', Selectable template' pod' := by
  rcases h with rfl | ⟨f, hf, rfl⟩
  · exact ⟨rfl, ho, pod, hs⟩
  · obtain ⟨hversion, hselectable⟩ := withoutParking_update ho hs hf
    exact ⟨hversion, Ordered.update hf.ordered _ ho, hselectable⟩

end Rollout
