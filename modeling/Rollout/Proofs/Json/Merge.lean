/-
Merge patches through the view of an object, its members by key. Applying a patch treats each
member by itself (`lookup_mergeMembers`), and so does finding one (`lookup_diffMembers`,
`lookup_patchMembers`), so what a found patch makes of an object can be read off key by key
(`lookup_merge_diff`). Both keep the order of members (`Ordered.merge`, `Ordered.diff`).
-/
import Rollout.Json.MergePatch
import Mathlib.Tactic

namespace Rollout

/-! ## Ordered lists of members -/

namespace Assoc

variable {α : Type}

theorem ordered_cons_iff {e : String × α} {rest : List (String × α)} :
    Ordered (e :: rest) ↔ (∀ f ∈ rest, e.1 < f.1) ∧ Ordered rest := List.pairwise_cons

/-- The first of an ordered list has a key that comes nowhere behind it. -/
theorem Ordered.lookup_tail {k : String} {v : α} {rest : List (String × α)}
    (h : Ordered ((k, v) :: rest)) : rest.lookup k = none :=
  lookup_eq_none fun e he heq => String.lt_irrefl _ (heq ▸ (ordered_cons_iff.1 h).1 e he)

theorem Ordered.filter {entries : List (String × α)} (h : Ordered entries) (p : String × α → Bool) :
    Ordered (entries.filter p) := List.Pairwise.filter p h

/-- A filter on keys filters the view. -/
theorem lookup_filter_key (p : String → Bool) (k : String) : ∀ (entries : List (String × α)),
    (entries.filter fun e => p e.1).lookup k = if p k then entries.lookup k else none
  | [] => by simp
  | (k', v) :: rest => by
    rw [List.filter_cons]
    by_cases hk : k = k'
    · subst hk
      by_cases hp : p k = true
      · simp [hp]
      · simp only [hp, if_false, lookup_filter_key p k rest, Bool.false_eq_true]
    · have hne : (k == k') = false := by simpa using hk
      split
      · simp only [List.lookup_cons, hne, lookup_filter_key p k rest]
      · simp only [List.lookup_cons, hne, lookup_filter_key p k rest]

theorem Ordered.nodup_keys {entries : List (String × α)} (h : Ordered entries) :
    (entries.map (·.1)).Nodup := by
  rw [List.nodup_iff_pairwise_ne, List.pairwise_map]
  refine List.Pairwise.imp ?_ h
  intro a b hlt heq
  exact String.lt_irrefl _ (heq ▸ hlt)

/-- What is inserted in turn, no key twice, shows through before what was there. -/
theorem lookup_insertAll : ∀ {entries : List (String × α)} (map : List (String × α)) (k : String),
    (entries.map (·.1)).Nodup →
      (entries.foldl (fun map e => insert e.1 e.2 map) map).lookup k =
        (entries.lookup k).or (map.lookup k)
  | [], map, k, _ => by simp
  | (k', v) :: rest, map, k, h => by
    rw [List.map_cons, List.nodup_cons] at h
    rw [List.foldl_cons, lookup_insertAll _ k h.2, lookup_insert, List.lookup_cons]
    by_cases hk : k = k'
    · subst hk
      have hnone : rest.lookup k = none :=
        lookup_eq_none fun e he heq => h.1 (List.mem_map.2 ⟨e, he, heq.symm⟩)
      simp [hnone]
    · have hne : (k == k') = false := by simpa using hk
      simp [hk, hne]

theorem lookup_ofList {entries : List (String × α)} (h : (entries.map (·.1)).Nodup) (k : String) :
    (ofList entries).lookup k = entries.lookup k := by
  unfold ofList; rw [lookup_insertAll [] k h]; simp

theorem ofList_append_singleton (entries : List (String × α)) (e : String × α) :
    ofList (entries ++ [e]) = insert e.1 e.2 (ofList entries) := by
  unfold ofList
  rw [List.foldl_append]
  rfl

/-- Of the entries under one key the last counts. -/
theorem lookup_ofList_reverse (entries : List (String × α)) (k : String) :
    (ofList entries).lookup k = entries.reverse.lookup k := by
  induction entries using List.reverseRecOn with
  | nil => rfl
  | append_singleton entries e ih =>
    obtain ⟨k', v⟩ := e
    rw [ofList_append_singleton, lookup_insert, ih, List.reverse_append, List.reverse_singleton,
      List.singleton_append, List.lookup_cons]
    by_cases hk : k = k'
    · simp [hk]
    · have hne : (k == k') = false := by simpa using hk
      simp [hk, hne]

theorem mem_of_mem_insertAll {e : String × α} : ∀ (entries : List (String × α)) {map : List (String × α)},
    e ∈ entries.foldl (fun map f => insert f.1 f.2 map) map → e ∈ entries ∨ e ∈ map
  | [], _, h => .inr h
  | f :: rest, map, h => by
    rcases mem_of_mem_insertAll rest h with h | h
    · exact .inl (List.mem_cons_of_mem _ h)
    · rcases mem_insert h with rfl | h
      · exact .inl (List.mem_cons_self ..)
      · exact .inr h

theorem mem_of_mem_ofList {entries : List (String × α)} {e : String × α} (h : e ∈ ofList entries) :
    e ∈ entries :=
  (mem_of_mem_insertAll entries h).resolve_right (by simp)

/-- A list in order is the map of its entries. -/
theorem Ordered.ofList_eq {entries : List (String × α)} (h : Ordered entries) : ofList entries = entries :=
  (ordered_ofList entries).ext h fun k => lookup_ofList h.nodup_keys k

theorem Ordered.insertAll {entries : List (String × α)} : ∀ {map : List (String × α)},
    Ordered map → Ordered (entries.foldl (fun map e => Assoc.insert e.1 e.2 map) map) := by
  induction entries with
  | nil => exact fun h => h
  | cons e rest ih => exact fun h => ih (h.insert _ _)

/-- Putting what is there already changes nothing. -/
theorem Ordered.insert_eq {entries : List (String × α)} (h : Ordered entries) {k : String} {v : α}
    (hk : entries.lookup k = some v) : Assoc.insert k v entries = entries := by
  refine (h.insert k v).ext h fun k' => ?_
  rw [lookup_insert]
  split
  · rename_i hkey; rw [hkey, hk]
  · rfl

/-- Removing what is not there changes nothing. -/
theorem Ordered.erase_eq {entries : List (String × α)} (h : Ordered entries) {k : String}
    (hk : entries.lookup k = none) : Assoc.erase k entries = entries := by
  refine (h.erase k).ext h fun k' => ?_
  rw [lookup_erase h]
  split
  · rename_i hkey; rw [hkey, hk]
  · rfl

/-- What is put last under a key is all that counts. -/
theorem Ordered.insert_insert {entries : List (String × α)} (h : Ordered entries) (k : String) (v w : α) :
    Assoc.insert k w (Assoc.insert k v entries) = Assoc.insert k w entries := by
  refine ((h.insert k v).insert k w).ext (h.insert k w) fun k' => ?_
  rw [lookup_insert, lookup_insert, lookup_insert]
  split <;> rfl

theorem Ordered.erase_insert {entries : List (String × α)} (h : Ordered entries) (k : String) (v : α) :
    Assoc.erase k (Assoc.insert k v entries) = Assoc.erase k entries := by
  refine ((h.insert k v).erase k).ext (h.erase k) fun k' => ?_
  rw [lookup_erase (h.insert k v), lookup_erase h, lookup_insert]
  split <;> rfl

theorem Ordered.erase_erase {entries : List (String × α)} (h : Ordered entries) (k : String) :
    Assoc.erase k (Assoc.erase k entries) = Assoc.erase k entries :=
  (h.erase k).erase_eq (by rw [lookup_erase h, if_pos rfl])

end Assoc

namespace Json

/-! ## Ordered values -/

theorem orderedItems_iff : ∀ (items : List Json), OrderedItems items ↔ ∀ j ∈ items, j.Ordered
  | [] => by simp [OrderedItems]
  | j :: rest => by simp [OrderedItems, orderedItems_iff rest]

theorem orderedMembers_iff : ∀ (members : List (String × Json)),
    OrderedMembers members ↔ ∀ e ∈ members, e.2.Ordered
  | [] => by simp [OrderedMembers]
  | (k, v) :: rest => by simp [OrderedMembers, orderedMembers_iff rest]

theorem ordered_obj_iff {members : List (String × Json)} :
    (obj members).Ordered ↔ Assoc.Ordered members ∧ ∀ e ∈ members, e.2.Ordered := by
  simp only [Ordered, orderedMembers_iff]

theorem Ordered.membersOrNone {j : Json} (h : j.Ordered) :
    Assoc.Ordered j.membersOrNone ∧ ∀ e ∈ j.membersOrNone, e.2.Ordered := by
  cases j
  case obj members => exact ordered_obj_iff.1 h
  all_goals exact ⟨List.Pairwise.nil, by simp [Json.membersOrNone]⟩

theorem mem_of_lookup {members : List (String × Json)} {k : String} {v : Json}
    (h : members.lookup k = some v) : (k, v) ∈ members := by
  obtain ⟨l₁, l₂, rfl, -⟩ := List.lookup_eq_some_iff.1 h
  simp

theorem Ordered.lookup {members : List (String × Json)} (h : ∀ e ∈ members, e.2.Ordered) {k : String} :
    ((members.lookup k).getD .null).Ordered := by
  cases hl : members.lookup k with
  | none => simp [Ordered]
  | some v => exact h _ (mem_of_lookup hl)

theorem Ordered.get? {j : Json} (h : j.Ordered) {k : String} : ((j.get? k).getD .null).Ordered := by
  cases j
  case obj members => exact Ordered.lookup (ordered_obj_iff.1 h).2
  all_goals simp [Json.get?, Ordered]

theorem Ordered.insertMember {members : List (String × Json)} {k : String} {v : Json}
    (h : Assoc.Ordered members ∧ ∀ e ∈ members, e.2.Ordered) (hv : v.Ordered) :
    Assoc.Ordered (Assoc.insert k v members) ∧ ∀ e ∈ Assoc.insert k v members, e.2.Ordered := by
  refine ⟨h.1.insert _ _, fun e he => ?_⟩
  rcases Assoc.mem_insert he with rfl | he
  · exact hv
  · exact h.2 e he

theorem Ordered.insertAll {entries members : List (String × Json)} (he : ∀ e ∈ entries, e.2.Ordered)
    (hm : ∀ e ∈ members, e.2.Ordered) :
    ∀ e ∈ entries.foldl (fun map e => Assoc.insert e.1 e.2 map) members, e.2.Ordered := by
  intro e h
  rcases Assoc.mem_of_mem_insertAll entries h with h | h
  · exact he e h
  · exact hm e h

theorem Ordered.set {j v : Json} (h : j.Ordered) (k : String) (hv : v.Ordered) : (j.set k v).Ordered :=
  ordered_obj_iff.2 (Ordered.insertMember h.membersOrNone hv)

/-! ## Applying a patch -/

/-- What a change makes of a member: null removes it. -/
def changed? (change : Json) (found : Option Json) : Option Json :=
  match change with
  | .null => none
  | change => some (merge change (found.getD .null))

@[simp] theorem membersOrNone_obj (members : List (String × Json)) : (obj members).membersOrNone = members := rfl

@[simp] theorem membersOrNone_null : null.membersOrNone = [] := rfl

@[simp] theorem merge_obj (changes : List (String × Json)) (target : Json) :
    merge (obj changes) target = obj (mergeMembers changes target.membersOrNone) := rfl

theorem merge_of_not_obj {patch : Json} (h : ∀ changes, patch ≠ .obj changes) (target : Json) :
    merge patch target = patch := by
  cases patch
  case obj changes => exact absurd rfl (h changes)
  all_goals rfl

@[simp] theorem mergeMembers_nil (target : List (String × Json)) : mergeMembers [] target = target := rfl

theorem mergeMembers_cons_null (key : String) (rest target : List (String × Json)) :
    mergeMembers ((key, .null) :: rest) target = mergeMembers rest (Assoc.erase key target) := rfl

theorem mergeMembers_cons {change : Json} (h : change ≠ .null) (key : String)
    (rest target : List (String × Json)) :
    mergeMembers ((key, change) :: rest) target =
      mergeMembers rest (Assoc.insert key (merge change ((target.lookup key).getD .null)) target) := by
  cases change <;> first | rfl | exact absurd rfl h

theorem changed?_of_ne_null {change : Json} (h : change ≠ .null) (found : Option Json) :
    changed? change found = some (merge change (found.getD .null)) := by
  cases change <;> first | rfl | exact absurd rfl h

/-- Each change of a patch concerns the member under its key alone. -/
theorem lookup_mergeMembers : ∀ {changes target : List (String × Json)} (k : String),
    Assoc.Ordered changes → Assoc.Ordered target →
      (mergeMembers changes target).lookup k =
        match changes.lookup k with
        | none => target.lookup k
        | some change => changed? change (target.lookup k)
  | [], target, k, _, _ => by simp
  | (key, change) :: rest, target, k, hc, ht => by
    obtain ⟨-, hrest⟩ := Assoc.ordered_cons_iff.1 hc
    -- the key comes nowhere behind, so the rest of the patch leaves its member alone
    by_cases hn : change = .null
    · subst hn
      rw [mergeMembers_cons_null, lookup_mergeMembers k hrest (Assoc.Ordered.erase ht key),
        Assoc.lookup_erase ht, List.lookup_cons]
      by_cases hk : k = key
      · subst hk; simp [hc.lookup_tail, changed?]
      · have hne : (k == key) = false := by simpa using hk
        simp [hk, hne]
    · rw [mergeMembers_cons hn, lookup_mergeMembers k hrest (Assoc.Ordered.insert ht key _),
        Assoc.lookup_insert, List.lookup_cons]
      by_cases hk : k = key
      · subst hk; simp [hc.lookup_tail, changed?_of_ne_null hn]
      · have hne : (k == key) = false := by simpa using hk
        simp [hk, hne]

mutual

/-- A patch of ordered values gives an ordered value. -/
theorem Ordered.merge : ∀ {patch target : Json}, patch.Ordered → target.Ordered →
    (patch.merge target).Ordered
  | .obj changes, target, hp, ht => by
    rw [merge_obj]
    exact ordered_obj_iff.2 (Ordered.mergeMembers (ordered_obj_iff.1 hp).2 ht.membersOrNone)
  | .null, _, hp, _ | .bool _, _, hp, _ | .int _, _, hp, _ | .double _, _, hp, _ | .str _, _, hp, _
  | .arr _, _, hp, _ => hp

theorem Ordered.mergeMembers : ∀ {changes target : List (String × Json)},
    (∀ e ∈ changes, e.2.Ordered) → (Assoc.Ordered target ∧ ∀ e ∈ target, e.2.Ordered) →
      Assoc.Ordered (Json.mergeMembers changes target) ∧
        ∀ e ∈ Json.mergeMembers changes target, e.2.Ordered
  | [], _, _, ht => ht
  | (key, change) :: rest, target, hc, ht => by
    have hchange : change.Ordered := hc _ (List.mem_cons_self ..)
    have hrest : ∀ e ∈ rest, e.2.Ordered := fun e he => hc e (List.mem_cons_of_mem _ he)
    by_cases hn : change = .null
    · subst hn
      rw [mergeMembers_cons_null]
      exact Ordered.mergeMembers hrest
        ⟨ht.1.erase key, fun e he => ht.2 e (Assoc.mem_of_mem_erase he)⟩
    · rw [mergeMembers_cons hn]
      exact Ordered.mergeMembers hrest
        (Ordered.insertMember ht (Ordered.merge hchange (Ordered.lookup ht.2)))

end

/-! ## Finding a patch -/

/-- The change that leads from one state of a member to another, if one is needed. -/
def change? : Option Json → Option Json → Option Json
  | none, after => after
  | some _, none => some .null
  | some before, some after => if after.same before then none else some (diff before after)

theorem lookup_diffMembers (new : List (String × Json)) (k : String) :
    ∀ {old : List (String × Json)}, Assoc.Ordered old →
      (diffMembers old new).lookup k = (old.lookup k).bind fun v => change? (some v) (new.lookup k)
  | [], _ => by simp [diffMembers]
  | (key, value) :: rest, h => by
    have ih := lookup_diffMembers new k (Assoc.ordered_cons_iff.1 h).2
    rw [diffMembers, List.lookup_cons]
    by_cases hk : k = key
    · subst hk
      rw [h.lookup_tail] at ih
      cases hn : new.lookup k with
      | none => simp [change?]
      | some v' =>
        simp only [change?, beq_self_eq_true, Option.bind_some]
        split
        · simpa using ih
        · simp
    · have hne : (k == key) = false := by simpa using hk
      rw [hne]
      cases hn : new.lookup key with
      | none => simp [hk, ih]
      | some v' =>
        simp only
        split
        · exact ih
        · simp [hk, ih]

/-- The members of the patch from one object to another. -/
def patchMembers (old new : List (String × Json)) : List (String × Json) :=
  (new.filter fun e => (old.lookup e.1).isNone).foldl (fun patch e => Assoc.insert e.1 e.2 patch)
    (diffMembers old new)

@[simp] theorem diff_obj (old new : List (String × Json)) :
    diff (obj old) (obj new) = obj (patchMembers old new) := by
  rw [diff]; rfl

/-- The patch between two objects has, under each key, the change of the member there. -/
theorem lookup_patchMembers {old new : List (String × Json)} (ho : Assoc.Ordered old)
    (hn : Assoc.Ordered new) (k : String) :
    (patchMembers old new).lookup k = change? (old.lookup k) (new.lookup k) := by
  unfold patchMembers
  -- what only the new object has is put in last, and has no member among the changes
  rw [Assoc.lookup_insertAll _ k (hn.filter _).nodup_keys, lookup_diffMembers new k ho,
    Assoc.lookup_filter_key (fun key => (old.lookup key).isNone) k]
  cases old.lookup k with
  | none => simp [change?]
  | some v => simp

theorem ordered_diffMembers (new : List (String × Json)) :
    ∀ (old : List (String × Json)), Assoc.Ordered (diffMembers old new)
  | [] => by rw [diffMembers]; exact List.Pairwise.nil
  | (key, value) :: rest => by
    have ih := ordered_diffMembers new rest
    rw [diffMembers]
    split
    · exact ih.insert _ _
    · split
      · exact ih
      · exact ih.insert _ _

theorem ordered_patchMembers (old new : List (String × Json)) : Assoc.Ordered (patchMembers old new) :=
  (ordered_diffMembers new old).insertAll

theorem diff_of_not_obj {before after : Json}
    (h : ∀ old new, before = .obj old → after ≠ .obj new) : diff before after = after := by
  rw [diff]
  intro old new hb ha
  exact h old new hb ha

theorem diff_ne_null {before after : Json} (h : after ≠ .null) : diff before after ≠ .null := by
  by_cases hobj : ∃ old new, before = .obj old ∧ after = .obj new
  · obtain ⟨old, new, rfl, rfl⟩ := hobj
    rw [diff_obj]; simp
  · rw [diff_of_not_obj fun old new hb ha => hobj ⟨old, new, hb, ha⟩]; exact h

mutual

/-- The patch to an ordered value is ordered. -/
theorem Ordered.diff : ∀ {before after : Json}, after.Ordered → (before.diff after).Ordered
  | .obj old, after, h => by
    cases after
    case obj new =>
      obtain ⟨hn, hv⟩ := ordered_obj_iff.1 h
      rw [diff_obj, ordered_obj_iff]
      refine ⟨ordered_patchMembers old new, Ordered.insertAll (fun e he => ?_) (Ordered.diffMembers hv)⟩
      exact hv e (List.mem_filter.1 he).1
    all_goals rw [diff_of_not_obj (by simp)]; exact h
  | .null, _, h | .bool _, _, h | .int _, _, h | .double _, _, h | .str _, _, h | .arr _, _, h => by
    rw [diff_of_not_obj (by simp)]; exact h

theorem Ordered.diffMembers : ∀ {old new : List (String × Json)}, (∀ e ∈ new, e.2.Ordered) →
    ∀ e ∈ Json.diffMembers old new, e.2.Ordered
  | [], _, _ => by rw [Json.diffMembers]; simp
  | (key, value) :: rest, new, h => by
    have ih : ∀ e ∈ Json.diffMembers rest new, e.2.Ordered := Ordered.diffMembers h
    have hinsert : ∀ {v : Json}, v.Ordered →
        ∀ e ∈ Assoc.insert key v (Json.diffMembers rest new), e.2.Ordered := by
      intro v hv e he
      rcases Assoc.mem_insert he with rfl | he
      · exact hv
      · exact ih e he
    rw [Json.diffMembers]
    split
    · exact hinsert (by simp [Ordered])
    · rename_i value' hl
      split
      · exact ih
      · exact hinsert (Ordered.diff (h _ (mem_of_lookup hl)))

end

/-- Under each key, what the patch from one object to another makes of a third. -/
theorem lookup_merge_diff {old new raw : List (String × Json)} (ho : Assoc.Ordered old)
    (hn : Assoc.Ordered new) (hr : Assoc.Ordered raw) (k : String) :
    (mergeMembers (patchMembers old new) raw).lookup k =
      match change? (old.lookup k) (new.lookup k) with
      | none => raw.lookup k
      | some change => changed? change (raw.lookup k) := by
  rw [lookup_mergeMembers k (ordered_patchMembers old new) hr, lookup_patchMembers ho hn]

end Json

end Rollout
