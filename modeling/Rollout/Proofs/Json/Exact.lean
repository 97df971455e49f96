/-
How far a found patch leads. A merge patch cannot put a null, so the patch from one value to another leads
to a value equal to the other one as long as no null is new there. Main statement: `merge_diff_same_iff`,
this is the only condition, and between objects the patch is empty exactly where there is nothing to change.
Values are equal as `Json.same` has it: integers and doubles differ, and the two zeros are one.
-/
import Rollout.Proofs.Json.Path

namespace Rollout

theorem Double.same_symm {x y : Double} (h : x.same y = true) : y.same x = true := by
  simp only [Double.same, Bool.and_eq_true, Bool.or_eq_true, beq_iff_eq] at h ⊢
  obtain ⟨hposition, hsign⟩ := h
  exact ⟨hposition.symm, hsign.imp Eq.symm fun hzero => hposition ▸ hzero⟩

namespace Json

/-! ## Values by their members -/

section Members

variable {motive : Json → Prop}

mutual

/-- What holds of every value that is no object, and of every object if it holds of its members, holds of
every value. -/
@[elab_as_elim]
theorem memberInduction (object : ∀ members, (∀ e ∈ members, motive e.2) → motive (.obj members))
    (other : ∀ j, (∀ members, j ≠ .obj members) → motive j) : ∀ j : Json, motive j
  | .obj members => object members (forall_members object other members)
  | .null | .bool _ | .int _ | .double _ | .str _ | .arr _ => other _ (by simp)

theorem forall_members (object : ∀ members, (∀ e ∈ members, motive e.2) → motive (.obj members))
    (other : ∀ j, (∀ members, j ≠ .obj members) → motive j) :
    ∀ members : List (String × Json), ∀ e ∈ members, motive e.2
  | [] => by simp
  | (_, value) :: rest =>
    List.forall_mem_cons.2 ⟨memberInduction object other value, forall_members object other rest⟩

end

end Members

/-! ## Equality of values -/

mutual

theorem same_symm : ∀ {a b : Json}, a.same b = true → b.same a = true
  | .null, b, h => by cases b <;> first | rfl | cases h
  | .bool _, b, h => by cases b <;> simp_all [same]
  | .int _, b, h => by cases b <;> simp_all [same]
  | .str _, b, h => by cases b <;> simp_all [same]
  | .double x, b, h => by
    cases b
    case double y => exact Double.same_symm h
    all_goals cases h
  | .arr items, b, h => by
    cases b
    case arr items' => exact sameItems_symm h
    all_goals cases h
  | .obj members, b, h => by
    cases b
    case obj members' => exact sameMembers_symm h
    all_goals cases h

theorem sameItems_symm : ∀ {as bs : List Json}, sameItems as bs = true → sameItems bs as = true
  | [], [], _ => rfl
  | [], _ :: _, h => by simp [sameItems] at h
  | _ :: _, [], h => by simp [sameItems] at h
  | a :: as, b :: bs, h => by
    simp only [sameItems, Bool.and_eq_true] at h ⊢
    exact ⟨same_symm h.1, sameItems_symm h.2⟩

theorem sameMembers_symm : ∀ {as bs : List (String × Json)}, sameMembers as bs = true → sameMembers bs as = true
  | [], [], _ => rfl
  | [], _ :: _, h => by simp [sameMembers] at h
  | _ :: _, [], h => by simp [sameMembers] at h
  | (k, a) :: as, (l, b) :: bs, h => by
    simp only [sameMembers, Bool.and_eq_true, beq_iff_eq] at h ⊢
    exact ⟨⟨h.1.1.symm, same_symm h.1.2⟩, sameMembers_symm h.2⟩

end

/-- What is found in two places is equal: nothing in both, or equal values. -/
abbrev SameFound : Option Json → Option Json → Prop := Option.Rel fun a b => a.same b = true

theorem SameFound.symm {found found' : Option Json} (h : SameFound found found') : SameFound found' found := by
  cases h with
  | none => exact .none
  | some h => exact .some (same_symm h)

theorem sameFound_some_iff {a b : Json} : SameFound (some a) (some b) ↔ a.same b = true := by
  refine ⟨fun h => ?_, fun h => .some h⟩
  cases h with
  | some h => exact h

/-- The first key of an object in order comes before every other. -/
theorem head_le_of_lookup {k key : String} {value j : Json} {rest : List (String × Json)}
    (ho : Assoc.Ordered ((key, value) :: rest)) (h : ((key, value) :: rest).lookup k = some j) : key ≤ k := by
  rcases List.mem_cons.1 (mem_of_lookup h) with heq | hmem
  · cases heq; exact String.le_refl _
  · exact Std.le_of_lt ((Assoc.ordered_cons_iff.1 ho).1 _ hmem)

/-- Objects in order are equal when they show equal members. -/
theorem sameMembers_of_lookup : ∀ {as bs : List (String × Json)}, Assoc.Ordered as → Assoc.Ordered bs →
    (∀ k : String, SameFound (as.lookup k) (bs.lookup k)) → sameMembers as bs = true
  | [], [], _, _, _ => rfl
  | [], (l, b) :: bs, _, _, h => by
    obtain ⟨a, ha, -⟩ := exists_of_rel_some (List.lookup_cons_self (k := l) ▸ (h l).symm)
    cases ha
  | (k, a) :: as, [], _, _, h => by
    obtain ⟨b, hb, -⟩ := exists_of_rel_some (List.lookup_cons_self (k := k) ▸ h k)
    cases hb
  | (k, a) :: as, (l, b) :: bs, ha, hb, h => by
    have hk := h k
    have hl := (h l).symm
    rw [List.lookup_cons_self] at hk hl
    -- each of the first keys is found in the other object, so neither comes before the other
    obtain ⟨b', hb', -⟩ := exists_of_rel_some hk
    obtain ⟨a', ha', -⟩ := exists_of_rel_some hl
    obtain rfl : k = l := String.le_antisymm (head_le_of_lookup ha ha') (head_le_of_lookup hb hb')
    rw [List.lookup_cons_self] at hk
    have hrest : ∀ k', SameFound (as.lookup k') (bs.lookup k') := by
      intro k'
      by_cases hk' : k' = k
      · rw [hk', ha.lookup_tail, hb.lookup_tail]
        exact .none
      · have hne : (k' == k) = false := by simpa using hk'
        have hfound := h k'
        rw [List.lookup_cons, List.lookup_cons, hne] at hfound
        exact hfound
    rw [sameMembers, beq_self_eq_true, sameFound_some_iff.1 hk,
      sameMembers_of_lookup (Assoc.ordered_cons_iff.1 ha).2 (Assoc.ordered_cons_iff.1 hb).2 hrest]
    rfl

theorem sameMembers_iff {as bs : List (String × Json)} (ha : Assoc.Ordered as) (hb : Assoc.Ordered bs) :
    sameMembers as bs = true ↔ ∀ k : String, SameFound (as.lookup k) (bs.lookup k) :=
  ⟨lookup_of_sameMembers, sameMembers_of_lookup ha hb⟩

/-- Equal values have equal members. -/
theorem get?_of_same {a b : Json} (h : a.same b = true) (k : String) : SameFound (a.get? k) (b.get? k) := by
  cases a <;> cases b
  case obj.obj members members' => exact lookup_of_sameMembers h k
  all_goals first | exact .none | cases h

/-- Equal values hold equal values at each path. -/
theorem path?_of_same : ∀ (path : List String) {a b : Json}, a.same b = true → SameFound (a.path? path) (b.path? path)
  | [], _, _, h => .some h
  | key :: rest, a, b, h => by
    rw [path?_cons, path?_cons]
    have hmember := get?_of_same h key
    cases ha : a.get? key with
    | none =>
      rw [ha] at hmember
      cases hb : b.get? key with
      | none => exact .none
      | some y => rw [hb] at hmember; cases hmember
    | some x =>
      rw [ha] at hmember
      obtain ⟨y, hb, hxy⟩ := exists_of_rel_some hmember
      rw [hb]
      exact path?_of_same rest hxy

/-! ## Nothing to change -/

theorem change?_eq_none_iff {found wanted : Option Json} : change? found wanted = none ↔ SameFound wanted found := by
  cases found with
  | none => cases wanted <;> simp [change?]
  | some old => cases wanted <;> simp [change?]

/-- Where something is to be changed, it is the patch from what was found. -/
theorem change?_eq_some_diff {found : Option Json} {wanted : Json} (h : change? found (some wanted) ≠ none) :
    change? found (some wanted) = some (diff (found.getD .null) wanted) := by
  cases found with
  | none => rw [Option.getD_none, diff_of_not_obj (by simp)]; rfl
  | some old =>
    rw [ne_eq, change?_eq_none_iff, sameFound_some_iff] at h
    exact if_neg h

/-- The patch between two objects is empty exactly when they are equal. -/
theorem diff_eq_empty_iff {old new : List (String × Json)} (ho : Assoc.Ordered old) (hn : Assoc.Ordered new) :
    diff (obj old) (obj new) = obj [] ↔ (obj new).same (obj old) = true := by
  have hnil : patchMembers old new = [] ↔ ∀ k : String, (patchMembers old new).lookup k = none := by
    refine ⟨fun h k => by rw [h]; rfl, fun h => ?_⟩
    exact (ordered_patchMembers old new).ext List.Pairwise.nil h
  rw [diff_obj, obj.injEq, hnil]
  show _ ↔ sameMembers new old = true
  rw [sameMembers_iff hn ho]
  refine forall_congr' fun k => ?_
  rw [lookup_patchMembers ho hn, change?_eq_none_iff]

/-! ## Nulls -/

/-- Every null that the second value holds at a path of keys, at its end only, the first holds there too. -/
def NullsFrom (before after : Json) : Prop :=
  ∀ path : List String, path ≠ [] → after.path? path = some .null → before.path? path = some .null

theorem nullsFrom_of_not_obj {before after : Json} (h : ∀ members, after ≠ .obj members) : NullsFrom before after := by
  intro path hpath hnull
  obtain ⟨key, rest, rfl⟩ := List.exists_cons_of_ne_nil hpath
  cases after
  case obj members => exact absurd rfl (h members)
  all_goals cases hnull

theorem nullsFrom_of_same {before after : Json} (h : after.same before = true) : NullsFrom before after := by
  intro path _ hnull
  have hfound := path?_of_same path h
  rw [hnull] at hfound
  obtain ⟨j, hj, hsame⟩ := exists_of_rel_some hfound
  rw [hj]
  cases j <;> first | rfl | cases hsame

/-- The nulls of an object are those members that are null, and the nulls of its members. -/
theorem nullsFrom_obj_iff {before : Json} {new : List (String × Json)} : NullsFrom before (.obj new) ↔
    ∀ k v, new.lookup k = some v →
      (v = .null → before.get? k = some .null) ∧ NullsFrom ((before.get? k).getD .null) v := by
  constructor
  · intro h k v hv
    have hbelow : ∀ path, (obj new).path? (k :: path) = v.path? path := by
      intro path
      rw [path?_cons, show (obj new).get? k = some v from hv, Option.bind_some]
    refine ⟨fun hnull => ?_, fun path hpath hnull => ?_⟩
    · have hfound := h [k] (by simp) (by rw [hbelow, hnull]; rfl)
      rwa [path?_singleton] at hfound
    · obtain ⟨key, rest, rfl⟩ := List.exists_cons_of_ne_nil hpath
      have hfound := h (k :: key :: rest) (by simp) (by rw [hbelow]; exact hnull)
      rwa [path?_cons, ← path?_getD] at hfound
  · intro h path hpath hnull
    obtain ⟨k, rest, rfl⟩ := List.exists_cons_of_ne_nil hpath
    obtain ⟨v, hv, hrest⟩ := Option.bind_eq_some_iff.1 hnull
    obtain ⟨hhere, hbelow⟩ := h k v hv
    cases rest with
    | nil =>
      cases hrest
      rw [path?_singleton]
      exact hhere rfl
    | cons key rest =>
      rw [path?_cons, ← path?_getD]
      exact hbelow _ (by simp) hrest

/-! ## What is reached -/

/-- What a member becomes by the change that is found for it. -/
def reached? (found wanted : Option Json) : Option Json :=
  match change? found wanted with
  | none => found
  | some change => changed? change found

theorem merge_diff_obj (before : Json) {new : List (String × Json)} (hn : Assoc.Ordered new) :
    merge (diff before (obj new)) before =
      obj (mergeMembers (patchMembers before.membersOrNone new) before.membersOrNone) := by
  cases before
  case obj old => rw [diff_obj, merge_obj, membersOrNone_obj]
  all_goals
    -- the patch is the object itself, as it is from an object without members
    have hpatch : patchMembers [] new = new :=
      (ordered_patchMembers [] new).ext hn fun k => by rw [lookup_patchMembers List.Pairwise.nil hn]; rfl
    rw [diff_of_not_obj (by simp), merge_obj]
    exact congrArg (fun changes => obj (mergeMembers changes [])) hpatch.symm

/-- The member under a key is reached by itself. -/
theorem get?_merge_diff {before : Json} {new : List (String × Json)} (hb : before.Ordered) (hn : Assoc.Ordered new)
    (k : String) : (merge (diff before (obj new)) before).get? k = reached? (before.get? k) (new.lookup k) := by
  rw [merge_diff_obj before hn, get?_eq_lookup before]
  exact lookup_merge_diff hb.membersOrNone.1 hn hb.membersOrNone.1 k

/-- What is not wanted is removed. -/
theorem reached?_none (found : Option Json) : reached? found none = none := by
  cases found <;> rfl

theorem reached?_of_same {found : Option Json} {wanted : Json} (h : SameFound (some wanted) found) :
    reached? found (some wanted) = found := by
  unfold reached?
  rw [change?_eq_none_iff.2 h]

theorem reached?_of_changed {found : Option Json} {wanted : Json} (h : ¬ SameFound (some wanted) found) :
    reached? found (some wanted) = changed? (diff (found.getD .null) wanted) found := by
  unfold reached?
  rw [change?_eq_some_diff (mt change?_eq_none_iff.1 h)]

/-- A member is reached if it is no new null and the value under it is reached. -/
theorem reached?_some_iff {found : Option Json} {wanted : Json}
    (ih : (merge (diff (found.getD .null) wanted) (found.getD .null)).same wanted = true ↔
      NullsFrom (found.getD .null) wanted) :
    SameFound (reached? found (some wanted)) (some wanted) ↔
      (wanted = .null → found = some .null) ∧ NullsFrom (found.getD .null) wanted := by
  by_cases hsame : SameFound (some wanted) found
  · obtain ⟨old, rfl, hold⟩ := exists_of_rel_some hsame
    rw [reached?_of_same hsame]
    refine ⟨fun _ => ⟨fun hnull => ?_, nullsFrom_of_same hold⟩, fun _ => hsame.symm⟩
    subst hnull
    cases old <;> first | rfl | cases hold
  · rw [reached?_of_changed hsame]
    by_cases hnull : wanted = .null
    · -- the patch to a null removes
      subst hnull
      rw [diff_of_not_obj (by simp)]
      refine ⟨nofun, fun h => absurd ?_ hsame⟩
      rw [h.1 rfl]
      exact .some rfl
    · rw [changed?_of_ne_null (diff_ne_null hnull), sameFound_some_iff, ih]
      exact ⟨fun h => ⟨fun heq => absurd heq hnull, h⟩, fun h => h.2⟩

/-- The patch to a value leads to it exactly when all its nulls were there. -/
theorem same_merge_diff_iff {after : Json} (ha : after.Ordered) : ∀ {before : Json}, before.Ordered →
    ((merge (diff before after) before).same after = true ↔ NullsFrom before after) := by
  induction after using memberInduction with
  | other after hobj =>
    intro before _
    rw [diff_of_not_obj fun _ new _ => hobj new, merge_of_not_obj hobj]
    exact iff_of_true after.same_self (nullsFrom_of_not_obj hobj)
  | object new ih =>
    intro before hb
    obtain ⟨hn, hvalues⟩ := ordered_obj_iff.1 ha
    have hmerged : (merge (diff before (obj new)) before).Ordered := Ordered.merge (Ordered.diff ha) hb
    have hget := get?_merge_diff hb hn
    rw [merge_diff_obj before hn] at hmerged hget ⊢
    rw [nullsFrom_obj_iff]
    refine (sameMembers_iff (ordered_obj_iff.1 hmerged).1 hn).trans (forall_congr' fun k => ?_)
    rw [show List.lookup k _ = _ from hget k]
    cases hk : new.lookup k with
    | none => simp [reached?_none, SameFound]
    | some wanted =>
      have hmem := mem_of_lookup hk
      rw [reached?_some_iff (ih _ hmem (hvalues _ hmem) hb.get?)]
      simp

/-- Applied to a value, the patch from it to another leads to a value equal to the other one if and only if
every null that the other holds at a path of keys stood there before. Between objects, the patch is empty if
and only if they are equal. -/
theorem merge_diff_same_iff {before after : Json} (hb : before.Ordered) (ha : after.Ordered) :
    ((merge (diff before after) before).same after = true ↔
      ∀ path : List String, path ≠ [] → after.path? path = some .null → before.path? path = some .null) ∧
    ∀ old new, before = .obj old → after = .obj new → (diff before after = .obj [] ↔ before.same after = true) := by
  refine ⟨same_merge_diff_iff ha hb, fun old new hold hnew => ?_⟩
  subst hold hnew
  rw [diff_eq_empty_iff (ordered_obj_iff.1 hb).1 (ordered_obj_iff.1 ha).1]
  exact ⟨same_symm, same_symm⟩

/-- A pause is taken away and a count changed below a member that was and stays null, so the patch leads all
the way; and as the two objects differ, it is not empty. -/
theorem merge_diff_same_iff_kept :
    let before := obj [("note", .null), ("spec", obj [("paused", .bool true), ("replicas", .int 3)])]
    let after := obj [("note", .null), ("spec", obj [("replicas", .int 5)])]
    (∀ path : List String, path ≠ [] → after.path? path = some .null → before.path? path = some .null) ∧
      diff before after ≠ .obj [] := by
  intro before after
  have hb : before.Ordered := by simp only [before, Ordered, OrderedMembers]; decide
  have ha : after.Ordered := by simp only [after, Ordered, OrderedMembers]; decide
  have h := merge_diff_same_iff hb ha
  refine ⟨h.1.1 (by decide), fun hempty => ?_⟩
  exact absurd ((h.2 _ _ rfl rfl).1 hempty) (by decide)

end Json

end Rollout
