/-
Changes at the end of a path. What a change leaves there is what it makes of what was there
(`path?_update_append`), and for many changes making one twice is making it once (`update_update`). The patch
that is found for a change makes exactly that change, not only an equal one, where its end is exact
(`Exact.merge_diff_update`); and a patch for the end of a path leaves alone what is neither above nor below it
(`path?_merge_nested_apart`).
-/
import Rollout.Proofs.Json.Exact

namespace Rollout.Json

variable {f : Json → Json}

/-! ## What is left -/

/-- At a part of its path, a change leaves what the rest of the path makes of what was there. -/
theorem path?_update_append (rest : List String) : ∀ (path : List String) (j : Json),
    (j.update f (path ++ rest)).path? path = some (((j.path? path).getD .null).update f rest)
  | [], _ => rfl
  | key :: path, j => by
    have hmember : (j.update f (key :: path ++ rest)).get? key =
        some (((j.get? key).getD .null).update f (path ++ rest)) := by
      rw [List.cons_append, update, get?_set, if_pos rfl]
    rw [path?_cons, hmember, Option.bind_some, path?_update_append rest path, path?_cons]
    cases j.get? key with
    | some member => rfl
    | none => cases path <;> rfl

theorem Ordered.update (hf : ∀ {j : Json}, j.Ordered → (f j).Ordered) : ∀ (path : List String) {j : Json}, j.Ordered →
    (j.update f path).Ordered
  | [], _, hj => hf (ordered_obj_iff.2 hj.membersOrNone)
  | key :: rest, _, hj => hj.set key (Ordered.update hf rest hj.get?)

/-- A change whose end is made once and for all is. -/
theorem update_update (hf : ∀ members, Assoc.Ordered members →
    f (.obj (f (.obj members)).membersOrNone) = f (.obj members)) : ∀ (path : List String) {j : Json}, j.Ordered →
      (j.update f path).update f path = j.update f path
  | [], j, hj => hf _ hj.membersOrNone.1
  | key :: rest, j, hj => by
    have hmember := update_update hf rest (hj.get? (k := key))
    have hset := (hj.membersOrNone.1.insert key (((j.get? key).getD .null).update f rest)).insert_eq
      (show _ = some (((j.get? key).getD .null).update f rest) by rw [Assoc.lookup_insert, if_pos rfl])
    rw [update, update, get?_set, if_pos rfl, Option.getD_some, hmember]
    exact congrArg obj hset

/-! ## What the patch for a change makes -/

/-- Whatever is found at its end, the change is reached as it is. -/
def Exact (f : Json → Json) : Prop :=
  ∀ found : Option Json, (∀ j, found = some j → j.Ordered) →
    reached? found (some (f (.obj (found.getD .null).membersOrNone))) =
      some (f (.obj (found.getD .null).membersOrNone))

/-- What is no object and only equal to itself is put as it is. -/
theorem exact_put {j : Json} (hsame : ∀ o, j.same o = true → o = j) (hobj : ∀ members, j ≠ .obj members)
    (hnull : j ≠ .null) : Exact fun _ => j := by
  intro found _
  by_cases h : SameFound (some j) found
  · obtain ⟨o, rfl, ho⟩ := exists_of_rel_some h
    rw [reached?_of_same h, hsame o ho]
  · rw [reached?_of_changed h, diff_of_not_obj fun _ new _ => hobj new, changed?_of_ne_null hnull,
      merge_of_not_obj hobj]

theorem exact_unset (key : String) : Exact (·.unset key) := by
  intro found ho
  have hmembers : Assoc.Ordered (found.getD .null).membersOrNone := by
    cases found with
    | none => exact List.Pairwise.nil
    | some o => exact (ho o rfl).membersOrNone.1
  have hlookup : (found.getD .null).membersOrNone.lookup key = found.bind (·.get? key) := by
    cases found with
    | none => rfl
    | some o => exact (get?_eq_lookup o key).symm
  rcases leads_unset key found ho with ⟨hsettled, hnone⟩ | ⟨w, hw, hmade⟩
  · -- nothing is to be done: an object without the member stands there
    obtain ⟨o, rfl, hsame⟩ := exists_of_rel_some (change?_eq_none_iff.1 hsettled)
    rw [reached?_of_same (.some hsame)]
    cases o
    case obj members => exact congrArg (fun members => some (obj members)) (hmembers.erase_eq hnone).symm
    all_goals cases hsame
  · have hreached : reached? found (some ((obj (found.getD .null).membersOrNone).unset key)) = changed? w found := by
      unfold reached?
      rw [hw]
    rw [hreached]
    rcases hmade with rfl | ⟨rfl, hnone⟩
    · rfl
    · rw [changed?_obj, merge_obj, mergeMembers_nil]
      exact congrArg (fun members => some (obj members)) (hmembers.erase_eq (hlookup.trans hnone)).symm

/-- A change along a path is reached as it is if its end is. -/
theorem Exact.reached?_update (hf : Exact f) : ∀ (path : List String) (found : Option Json),
    (∀ j, found = some j → j.Ordered) →
      reached? found (some ((found.getD .null).update f path)) = some ((found.getD .null).update f path)
  | [], found, ho => hf found ho
  | key :: rest, found, ho => by
    have hordered : ∀ j, found.bind (·.get? key) = some j → j.Ordered := by
      intro j hj
      obtain ⟨o, rfl, hget⟩ := Option.bind_eq_some_iff.1 hj
      have hmember := (ho o rfl).get? (k := key)
      rw [hget] at hmember
      exact hmember
    have ih := hf.reached?_update rest (found.bind (·.get? key)) hordered
    unfold reached? at ih ⊢
    cases hchange : change? (found.bind (·.get? key))
        (some (((found.bind (·.get? key)).getD .null).update f rest)) with
    | none =>
      -- the member is there as it is wanted
      rw [hchange] at ih
      rw [change?_update_eq_none ho hchange]
      obtain ⟨o, rfl, hget⟩ := Option.bind_eq_some_iff.1 ih
      cases o
      case obj members =>
        have hinsert := (ordered_obj_iff.1 (ho _ rfl)).1.insert_eq hget
        rw [getD_update_cons]
        exact congrArg (fun members => some (obj members)) hinsert.symm
      all_goals cases hget
    | some w =>
      rw [hchange] at ih
      rw [change?_update_eq_some ho hchange, getD_update_cons]
      dsimp only at ih ⊢
      have hw : w ≠ .null := by
        rintro rfl
        cases ih
      have hmember : merge w ((found.bind (·.get? key)).getD .null) =
          ((found.bind (·.get? key)).getD .null).update f rest := by
        rw [changed?_of_ne_null hw] at ih
        exact Option.some.inj ih
      have hlookup : (found.getD .null).membersOrNone.lookup key = found.bind (·.get? key) := by
        cases found with
        | none => rfl
        | some o => exact (get?_eq_lookup o key).symm
      rw [changed?_obj, merge_obj, mergeMembers_cons hw, mergeMembers_nil, hlookup, hmember]

theorem Exact.set {j : Json} (hf : Exact fun _ => j) (key : String) : Exact (·.set key j) :=
  fun found ho => hf.reached?_update [key] found ho

/-- The patch that is found for a change of an object makes this change of it. -/
theorem Exact.merge_diff_update (hf : Exact f) {members : List (String × Json)} (ho : (obj members).Ordered)
    (key : String) (rest : List String) :
    merge (diff (obj members) ((obj members).update f (key :: rest))) (obj members) =
      (obj members).update f (key :: rest) := by
  have hreached := hf.reached?_update (key :: rest) (some (obj members)) fun j hj => by cases hj; exact ho
  obtain ⟨new, hnew⟩ : ∃ new, (obj members).update f (key :: rest) = obj new := ⟨_, rfl⟩
  rw [Option.getD_some, hnew] at hreached
  rw [hnew]
  have hordered := (ordered_obj_iff.1 ho).1
  by_cases hsame : SameFound (some (obj new)) (some (obj members))
  · rw [reached?_of_same hsame] at hreached
    rw [← Option.some.inj hreached, (diff_eq_empty_iff hordered hordered).2 (same_self _)]
    rfl
  · rw [reached?_of_changed hsame, Option.getD_some, diff_obj, changed?_obj] at hreached
    rw [diff_obj]
    exact Option.some.inj hreached

/-! ## Nested patches -/

/-- A nested patch is merged in along its path. -/
theorem merge_nested (changes : List (String × Json)) : ∀ (path : List String) (j : Json),
    merge (nested path (obj changes)) j = j.update (merge (obj changes)) path
  | [], _ => rfl
  | key :: rest, j => by
    have hne : nested rest (obj changes) ≠ .null := by cases rest <;> simp [nested]
    rw [nested, merge_obj, mergeMembers_cons hne, mergeMembers_nil, merge_nested changes rest, update, get?_eq_lookup]
    rfl

/-- A patch for one member of a member changes nothing where it has been made. -/
theorem merge_nested_eq_self {j value : Json} {key inner : String} {members : List (String × Json)}
    (ho : j.Ordered) (hmember : j.get? key = some (.obj members))
    (hvalue : changed? value (members.lookup inner) = members.lookup inner) :
    merge (nested [key] (.obj [(inner, value)])) j = j := by
  have hinner : Assoc.Ordered members := by
    have hordered := ho.get? (k := key)
    rw [hmember] at hordered
    exact (ordered_obj_iff.1 hordered).1
  have hmerged : mergeMembers [(inner, value)] members = members := by
    by_cases hnull : value = .null
    · subst hnull
      rw [mergeMembers_cons_null, mergeMembers_nil]
      exact hinner.erase_eq hvalue.symm
    · rw [changed?_of_ne_null hnull] at hvalue
      rw [mergeMembers_cons hnull, mergeMembers_nil]
      exact hinner.insert_eq hvalue.symm
  obtain ⟨all, rfl⟩ : ∃ all, j = .obj all := by
    cases j
    case obj all => exact ⟨all, rfl⟩
    all_goals cases hmember
  rw [merge_nested, update, hmember, Option.getD_some, update, membersOrNone_obj, merge_obj, membersOrNone_obj, hmerged]
  exact ho.set_eq hmember

/-! ## What is left alone -/

/-- A change of one member at the end of a path leaves every value whose path leads neither to it nor beyond. -/
theorem path?_update_apart {key : String}
    (hf : ∀ members, Assoc.Ordered members → ∀ k, k ≠ key → (f (obj members)).get? k = members.lookup k) :
    ∀ (place : List String) {j : Json}, j.Ordered → ∀ {path : List String}, ¬ path <+: place ++ [key] →
      ¬ place ++ [key] <+: path → (j.update f place).path? path = j.path? path
  | place, j, _, [], habove, _ => absurd List.nil_prefix habove
  | [], j, hj, k :: rest, _, hbelow => by
    have hne : k ≠ key := by
      rintro rfl
      exact hbelow (by simp)
    rw [update, path?_cons, hf _ hj.membersOrNone.1 k hne, path?_cons, get?_eq_lookup]
  | first :: place, j, hj, k :: rest, habove, hbelow => by
    rw [update, path?_cons, get?_set, path?_cons j]
    by_cases hk : k = first
    · subst hk
      rw [List.cons_append, List.cons_prefix_cons] at habove hbelow
      have habove' : ¬ rest <+: place ++ [key] := fun h => habove ⟨rfl, h⟩
      -- the rest of the path is not empty, so where the member is missing both sides hold nothing
      obtain ⟨next, more, rfl⟩ : ∃ next more, rest = next :: more :=
        List.exists_cons_of_ne_nil fun hnil => habove' (hnil ▸ List.nil_prefix)
      rw [if_pos rfl, Option.bind_some, path?_update_apart hf place hj.get? habove' fun h => hbelow ⟨rfl, h⟩,
        path?_getD]
    · rw [if_neg hk]

/-- So does a patch for one member at the end of a path. -/
theorem path?_merge_nested_apart {changes : List (String × Json)} (hc : Assoc.Ordered changes) {key : String}
    (hkey : ∀ k, k ≠ key → changes.lookup k = none) (place : List String) {j : Json} (hj : j.Ordered)
    {path : List String} (habove : ¬ path <+: place ++ [key]) (hbelow : ¬ place ++ [key] <+: path) :
    (merge (nested place (obj changes)) j).path? path = j.path? path := by
  rw [merge_nested]
  refine path?_update_apart (fun members hm k hk => ?_) place hj habove hbelow
  rw [merge_obj, membersOrNone_obj]
  refine (lookup_mergeMembers k hc hm).trans ?_
  rw [hkey k hk]

end Rollout.Json
