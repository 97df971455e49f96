/-
The order of revisions as a total order, and what a stable sort makes of it. Two revisions are equal in the order if
they have one number and one name (`Revision.key`); sorting keeps those as they stand to each other
(`Revision.sort_sorted`), and lists that are the same but for their order are sorted to the same keys
(`Revision.Sorted.map_key_eq`). Main statement: `Revision.compare_lawful`.
-/
import Rollout.Proofs.Baseline.History

namespace Rollout

/-- Of two names a missing one comes first. -/
theorem compareNames_lt_iff {a b : Option String} : compareNames a b = .lt ↔ a < b := by
  rcases a with _ | a <;> rcases b with _ | b
  · simp [compareNames]
  · simp [compareNames]
  · simp [compareNames]
  · rw [compareNames_some_lt_iff, Option.some_lt_some]

namespace Revision

/-! ## The order -/

/-- What the order looks at. -/
def key (r : Revision) : Option String × Int64 := (r.metadata.name, r.number)

theorem compare_eq_iff_key {a b : Revision} : a.compare b = .eq ↔ a.key = b.key := by
  rw [compare_eq_iff, key, key, Prod.mk.injEq, and_comm]

theorem compare_congr_key {a b c d : Revision} (hac : a.key = c.key) (hbd : b.key = d.key) :
    a.compare b = c.compare d := by
  rw [compare_congr (compare_eq_iff_key.2 hac), ← compare_swap, compare_congr (compare_eq_iff_key.2 hbd), compare_swap]

theorem isLE_compare_iff {a b : Revision} : (a.compare b).isLE ↔ (a.compare b != .gt) = true :=
  Ordering.isLE_iff_eq_lt_or_eq_eq.trans compare_ne_gt_iff.symm

instance : Std.TransCmp compare where
  eq_swap := (compare_swap ..).symm
  isLE_trans hab hbc := isLE_compare_iff.2 (compare_trans _ _ _ (isLE_compare_iff.1 hab) (isLE_compare_iff.1 hbc))

/-! ## Sorting -/

/-- A list as a stable sort leaves it: the revisions of the other list in order, those of one key as they stood
there. -/
structure Sorted (listed sorted : List Revision) : Prop where
  perm : sorted.Perm listed
  ordered : sorted.Pairwise fun a b => (a.compare b).isLE
  stable : ∀ k, sorted.filter (·.key = k) = listed.filter (·.key = k)

theorem sort_sorted (listed : List Revision) : Sorted listed (sort listed) where
  perm := sort_perm listed
  ordered := (pairwise_sort listed).imp fun h => Ordering.isLE_iff_eq_lt_or_eq_eq.2 h
  stable k := by
    -- revisions of one key are in order however they stand, and the sort leaves what is in order
    have hordered : (listed.filter (·.key = k)).Pairwise fun a b => (a.compare b != .gt) = true := by
      refine List.pairwise_of_forall_mem_list fun a ha b hb => ?_
      have hkey : a.key = b.key := by
        rw [of_decide_eq_true (List.mem_filter.1 ha).2, of_decide_eq_true (List.mem_filter.1 hb).2]
      exact compare_ne_gt_iff.2 (.inr (compare_eq_iff_key.2 hkey))
    have hkept : (listed.filter (·.key = k)).Sublist (sort listed) :=
      List.sublist_mergeSort compare_trans compare_total hordered List.filter_sublist
    have hsub : (listed.filter (·.key = k)).Sublist ((sort listed).filter (·.key = k)) := by
      simpa only [List.filter_filter, Bool.and_self] using hkept.filter (·.key = k)
    exact (hsub.eq_of_length ((sort_perm listed).filter _).length_eq.symm).symm

namespace Sorted

variable {listed listed' s s' : List Revision}

theorem pairwise_map_key (h : Sorted listed s) :
    (s.map key).Pairwise fun k l => ∃ a b : Revision, a.key = k ∧ b.key = l ∧ (a.compare b).isLE :=
  List.pairwise_map.2 (h.ordered.imp fun hab => ⟨_, _, rfl, rfl, hab⟩)

/-- How a list was ordered before does not show in the keys. -/
theorem map_key_eq (h : Sorted listed s) (h' : Sorted listed' s') (hperm : listed.Perm listed') :
    s.map key = s'.map key := by
  have hkeys : (s.map key).Perm (s'.map key) := (h.perm.trans (hperm.trans h'.perm.symm)).map key
  refine List.Perm.eq_of_pairwise ?_ h.pairwise_map_key h'.pairwise_map_key hkeys
  rintro _ _ - - ⟨a, b, rfl, rfl, hab⟩ ⟨b', a', hb, ha, hba⟩
  rw [compare_congr_key hb ha] at hba
  exact compare_eq_iff_key.1 (Std.OrientedCmp.isLE_antisymm hab hba)

end Sorted

/-- Revisions are known from their keys one by one and, for each key, from those that have it. -/
theorem eq_of_map_key_eq {s s' : List Revision} (hmap : s.map key = s'.map key)
    (hfilter : ∀ k, s.filter (·.key = k) = s'.filter (·.key = k)) : s = s' := by
  induction s generalizing s' with
  | nil => exact (List.map_eq_nil_iff.1 hmap.symm).symm
  | cons a s ih =>
    obtain ⟨a', rest, rfl, hkey, hrest⟩ := List.map_eq_cons_iff.1 hmap.symm
    have hfirst := hfilter a.key
    rw [List.filter_cons_of_pos (by simp), List.filter_cons_of_pos (by simp [hkey]), List.cons.injEq] at hfirst
    obtain ⟨rfl, -⟩ := hfirst
    rw [ih hrest.symm fun k => ?_]
    have hk := hfilter k
    by_cases ha : a.key = k
    · rw [List.filter_cons_of_pos (by simpa using ha), List.filter_cons_of_pos (by simpa using ha)] at hk
      exact (List.cons.inj hk).2
    · rwa [List.filter_cons_of_neg (by simpa using ha), List.filter_cons_of_neg (by simpa using ha)] at hk

/-- There is only one way to sort a list stably. -/
theorem sorted_iff {listed s : List Revision} : Sorted listed s ↔ s = sort listed := by
  refine ⟨fun h => ?_, fun h => h ▸ sort_sorted listed⟩
  have hsort := sort_sorted listed
  exact eq_of_map_key_eq (h.map_key_eq hsort (.refl listed)) fun k => (h.stable k).trans (hsort.stable k).symm

/-! ## The laws -/

/-- Comparing revisions is a total order, newest first and then by name, in which only revisions of one key are equal;
so a stable sort has one result, and its keys are the same in whatever order the revisions are listed. -/
theorem compare_lawful :
    (∀ a : Revision, a.compare a = .eq) ∧
    (∀ a b : Revision, b.compare a = (a.compare b).swap) ∧
    (∀ a b c : Revision, (a.compare b).isLE → (b.compare c).isLE → (a.compare c).isLE) ∧
    (∀ a b : Revision, a.compare b = .eq ↔ a.number = b.number ∧ a.metadata.name = b.metadata.name) ∧
    (∀ a b : Revision, a.compare b = .lt ↔
      b.number < a.number ∨ a.number = b.number ∧ a.metadata.name < b.metadata.name) ∧
    (∀ listed s, Sorted listed s ↔ s = sort listed) ∧
    ∀ listed listed' : List Revision, listed.Perm listed' → (sort listed).map key = (sort listed').map key := by
  refine ⟨fun _ => Std.ReflCmp.compare_self, fun a b => (compare_swap a b).symm, fun _ _ _ => Std.TransCmp.isLE_trans,
    fun _ _ => compare_eq_iff, fun a b => ?_, fun _ _ => sorted_iff, fun listed listed' hperm => ?_⟩
  · rw [compare_lt_iff, compareNames_lt_iff]
  · exact (sort_sorted listed).map_key_eq (sort_sorted listed') hperm

/-- Four revisions in order: three of one number, of which one has no name, and an older one. -/
def namedApart : List Revision :=
  [(none, 3), (some "podinfo-v3a", 3), (some "podinfo-v3b", 3), (some "podinfo-v1", 1)].map fun (name, number) =>
    { metadata := { name }, number, data := none }

/-- Listed the other way round they are sorted back. -/
theorem compare_lawful_reversed : (sort namedApart.reverse).map key =
    [(none, 3), (some "podinfo-v3a", 3), (some "podinfo-v3b", 3), (some "podinfo-v1", 1)] := by
  obtain ⟨-, -, -, -, -, hsorted, hkeys⟩ := compare_lawful
  have hself : namedApart = sort namedApart := (hsorted _ _).1 ⟨.refl _, by decide, fun _ => rfl⟩
  rw [hkeys _ _ (List.reverse_perm _), ← hself]
  rfl

end Revision

end Rollout
