/-
Merge patches along a path. A change at the end of a path is found as a patch that is nested along the
path (`diff_update`), and merging such a patch concerns the end of the path alone
(`path?_merge_nested`). So what a change finds its way into, whatever object it was found on, is the
value at its own path.
-/
import Rollout.Proofs.Json.Merge

namespace Rollout

theorem Double.same_self (x : Double) : x.same x = true := by simp [Double.same]

theorem exists_of_rel_some {α β : Type} {R : α → β → Prop} {a : α} {o : Option β} (h : Option.Rel R (some a) o) :
    ∃ b, o = some b ∧ R a b := by
  cases h with
  | some h => exact ⟨_, rfl, h⟩

theorem exists_of_some_rel {α β : Type} {R : α → β → Prop} {o : Option α} {b : β} (h : Option.Rel R o (some b)) :
    ∃ a, o = some a ∧ R a b := by
  cases h with
  | some h => exact ⟨_, rfl, h⟩

section Related

variable {α β γ δ : Type} {R : α → β → Prop} {S : γ → δ → Prop} {o : Option α} {p : Option β}

theorem rel_bind (h : Option.Rel R o p) {f : α → Option γ} {g : β → Option δ}
    (hfg : ∀ {a b}, R a b → Option.Rel S (f a) (g b)) : Option.Rel S (o.bind f) (p.bind g) := by
  cases h with
  | none => exact .none
  | some h => exact hfg h

theorem bind_eq_of_rel (h : Option.Rel R o p) {f : α → Option γ} {g : β → Option γ}
    (hfg : ∀ {a b}, R a b → g b = f a) : p.bind g = o.bind f := by
  cases h with
  | none => rfl
  | some h => exact hfg h

theorem isSome_eq_of_rel (h : Option.Rel R o p) : p.isSome = o.isSome := by
  cases h <;> rfl

end Related

namespace Json

/-! ## Equality of values -/

mutual

theorem same_self : ∀ j : Json, j.same j = true
  | .null => rfl
  | .bool _ | .int _ | .str _ => by simp [same]
  | .double x => x.same_self
  | .arr items => sameItems_self items
  | .obj members => sameMembers_self members

theorem sameItems_self : ∀ items : List Json, sameItems items items = true
  | [] => rfl
  | item :: rest => by simp [sameItems, same_self item, sameItems_self rest]

theorem sameMembers_self : ∀ members : List (String × Json), sameMembers members members = true
  | [] => rfl
  | (key, value) :: rest => by simp [sameMembers, same_self value, sameMembers_self rest]

end

theorem eq_of_int_same {n : Int} {j : Json} (h : (int n).same j = true) : j = .int n := by
  cases j <;> simp [same] at h
  rw [h]

theorem eq_of_str_same {s : String} {j : Json} (h : (str s).same j = true) : j = .str s := by
  cases j <;> simp [same] at h
  rw [h]

@[simp] theorem change?_self (found : Option Json) : change? found found = none := by
  cases found with
  | none => rfl
  | some j => simp [change?, same_self]

/-- Nothing is to be changed where the values are equal. -/
theorem change?_some_eq_none_iff {found : Option Json} {after : Json} :
    change? found (some after) = none ↔ ∃ j, found = some j ∧ after.same j = true := by
  cases found with
  | none => simp [change?]
  | some j =>
    by_cases h : after.same j = true
    · simp [change?, h]
    · simp [change?, h]

/-- Equal objects have equal members. -/
theorem lookup_of_sameMembers : ∀ {as bs : List (String × Json)}, sameMembers as bs = true →
    ∀ k : String, Option.Rel (fun a b => a.same b = true) (as.lookup k) (bs.lookup k)
  | [], [], _, _ => .none
  | [], _ :: _, hs, _ => by simp [sameMembers] at hs
  | _ :: _, [], hs, _ => by simp [sameMembers] at hs
  | (k', a) :: as, (l, b) :: bs, hs, k => by
    simp only [sameMembers, Bool.and_eq_true, beq_iff_eq] at hs
    obtain ⟨⟨rfl, hab⟩, hrest⟩ := hs
    rw [List.lookup_cons, List.lookup_cons]
    cases k == k' with
    | true => exact .some hab
    | false => exact lookup_of_sameMembers hrest k

/-- A member in the place of an equal one makes an equal object. -/
theorem sameMembers_insert {key : String} {old new : Json} (hs : new.same old = true) :
    ∀ {members : List (String × Json)}, Assoc.Ordered members → members.lookup key = some old →
      sameMembers (Assoc.insert key new members) members = true
  | [], _, h => by simp at h
  | (k, v) :: rest, ho, h => by
    obtain ⟨hhead, hrest⟩ := Assoc.ordered_cons_iff.1 ho
    rw [List.lookup_cons] at h
    by_cases hk : key = k
    · subst hk
      simp only [beq_self_eq_true] at h
      cases h
      rw [Assoc.insert, if_neg (String.lt_irrefl _), if_pos rfl]
      simp [sameMembers, hs, sameMembers_self]
    · have hne : (key == k) = false := by simpa using hk
      rw [hne] at h
      have hlt : ¬ key < k := fun hlt =>
        String.lt_irrefl _ (String.lt_trans hlt (hhead _ (mem_of_lookup h)))
      rw [Assoc.insert, if_neg hlt, if_neg hk]
      simp [sameMembers, same_self, sameMembers_insert hs hrest h]

/-! ## Members -/

theorem get?_eq_lookup (j : Json) (k : String) : j.get? k = j.membersOrNone.lookup k := by
  cases j <;> rfl

theorem get?_set (j : Json) (key : String) (value : Json) (k : String) :
    (j.set key value).get? k = if k = key then some value else j.get? k := by
  rw [get?_eq_lookup j]
  exact Assoc.lookup_insert key value _ k

theorem Ordered.get?_unset {j : Json} (h : j.Ordered) (key k : String) :
    (j.unset key).get? k = if k = key then none else j.get? k := by
  rw [get?_eq_lookup j]
  exact Assoc.lookup_erase h.membersOrNone.1 key k

theorem Ordered.unset {j : Json} (h : j.Ordered) (key : String) : (j.unset key).Ordered :=
  ordered_obj_iff.2 ⟨h.membersOrNone.1.erase key, fun e he => h.membersOrNone.2 e (Assoc.mem_of_mem_erase he)⟩

theorem Ordered.set_eq {members : List (String × Json)} {key : String} {value : Json} (h : (obj members).Ordered)
    (hk : (obj members).get? key = some value) : (obj members).set key value = obj members := by
  show obj (Assoc.insert key value members) = _
  rw [(ordered_obj_iff.1 h).1.insert_eq hk]

theorem ordered_object {members : List (String × Json)} (h : ∀ e ∈ members, e.2.Ordered) : (object members).Ordered :=
  ordered_obj_iff.2 ⟨Assoc.ordered_ofList _, fun e he => h e (Assoc.mem_of_mem_ofList he)⟩

theorem Ordered.unset_eq {members : List (String × Json)} {key : String} (h : (obj members).Ordered)
    (hk : (obj members).get? key = none) : (obj members).unset key = obj members := by
  show obj (Assoc.erase key members) = _
  rw [(ordered_obj_iff.1 h).1.erase_eq hk]

theorem get?_merge {changes : List (String × Json)} {j : Json} (hc : Assoc.Ordered changes) (hj : j.Ordered)
    (k : String) : (merge (obj changes) j).get? k =
      match changes.lookup k with
      | none => j.get? k
      | some change => changed? change (j.get? k) := by
  rw [merge_obj, get?_eq_lookup j]
  exact lookup_mergeMembers k hc hj.membersOrNone.1

@[simp] theorem changed?_obj (changes : List (String × Json)) (found : Option Json) :
    changed? (obj changes) found = some (merge (obj changes) (found.getD .null)) := rfl

/-- The patch to an object with one member set holds the change of that member alone. -/
theorem patchMembers_insert {members : List (String × Json)} (h : Assoc.Ordered members) (key : String) (after : Json) :
    patchMembers members (Assoc.insert key after members) =
      ((change? (members.lookup key) (some after)).map fun change => (key, change)).toList := by
  have hordered :
      Assoc.Ordered ((change? (members.lookup key) (some after)).map fun change => (key, change)).toList := by
    cases change? (members.lookup key) (some after) with
    | none => exact List.Pairwise.nil
    | some change => exact List.pairwise_singleton _ _
  refine (ordered_patchMembers _ _).ext hordered fun k => ?_
  rw [lookup_patchMembers h (h.insert _ _), Assoc.lookup_insert]
  by_cases hk : k = key
  · subst hk
    rw [if_pos rfl]
    cases change? (members.lookup k) (some after) <;> simp
  · have hne : (k == key) = false := by simpa using hk
    rw [if_neg hk, change?_self]
    cases change? (members.lookup key) (some after) <;> simp [List.lookup_cons, hne]

/-! ## Nested values -/

/-- A value under a path of keys, with nothing else. -/
def nested : List String → Json → Json
  | [], j => j
  | key :: rest, j => .obj [(key, nested rest j)]

@[simp] theorem path?_nil (j : Json) : j.path? [] = some j := rfl

theorem path?_cons (j : Json) (key : String) (rest : List String) :
    j.path? (key :: rest) = (j.get? key).bind (·.path? rest) := rfl

theorem path?_append : ∀ (path : List String) (j : Json) (rest : List String),
    j.path? (path ++ rest) = (j.path? path).bind (·.path? rest)
  | [], _, _ => rfl
  | key :: path, j, rest => by
    rw [List.cons_append, path?_cons, path?_cons, Option.bind_assoc]
    cases j.get? key with
    | none => rfl
    | some member => exact path?_append path member rest

@[simp] theorem path?_singleton (j : Json) (key : String) : j.path? [key] = j.get? key := by
  rw [path?_cons]
  cases j.get? key <;> rfl

theorem Ordered.path? : ∀ (path : List String) {j member : Json},
    j.Ordered → j.path? path = some member → member.Ordered
  | [], _, _, h, hm => by cases hm; exact h
  | key :: rest, j, member, h, hm => by
    obtain ⟨inner, hinner, hrest⟩ := Option.bind_eq_some_iff.1 hm
    have hget := h.get? (k := key)
    rw [hinner] at hget
    exact Ordered.path? rest hget hrest

/-- A pointer whose tokens are no numbers leads where the path does. -/
theorem pointer?_eq_path? : ∀ {path : List String}, (∀ token ∈ path, index? token = none) → ∀ j : Json,
    j.pointer? path = j.path? path
  | [], _, j => by cases j <;> rfl
  | token :: rest, h, j => by
    obtain ⟨htoken, hrest⟩ := List.forall_mem_cons.1 h
    rw [path?_cons, funext (fun member : Json => (pointer?_eq_path? hrest member).symm)]
    cases j
    case arr items =>
      show ((index? token).bind fun i => items[i]?).bind (·.pointer? rest) = _
      rw [htoken]; rfl
    all_goals rfl

theorem pointer?_append : ∀ (path : List String) (j : Json) (rest : List String),
    j.pointer? (path ++ rest) = (j.pointer? path).bind (·.pointer? rest)
  | [], j, _ => by cases j <;> rfl
  | token :: path, j, rest => by
    rw [List.cons_append]
    cases j
    case obj members =>
      show (members.lookup token).bind (·.pointer? (path ++ rest)) =
        ((members.lookup token).bind (·.pointer? path)).bind (·.pointer? rest)
      cases members.lookup token with
      | none => rfl
      | some member => exact pointer?_append path member rest
    case arr items =>
      show ((index? token).bind fun i => items[i]?).bind (·.pointer? (path ++ rest)) =
        (((index? token).bind fun i => items[i]?).bind (·.pointer? path)).bind (·.pointer? rest)
      cases (index? token).bind fun i => items[i]? with
      | none => rfl
      | some item => exact pointer?_append path item rest
    all_goals rfl

/-- What is not there has nothing at any path. -/
theorem path?_getD {found : Option Json} {key : String} {rest : List String} :
    (found.getD .null).path? (key :: rest) = found.bind (·.path? (key :: rest)) := by
  cases found <;> rfl

theorem ordered_nested {j : Json} (h : j.Ordered) : ∀ path : List String, (nested path j).Ordered
  | [] => h
  | key :: rest => ordered_obj_iff.2 ⟨List.pairwise_singleton _ _, by simpa using ordered_nested h rest⟩

theorem nested_append (path rest : List String) (j : Json) : nested (path ++ rest) j = nested path (nested rest j) := by
  induction path with
  | nil => rfl
  | cons key path ih => rw [List.cons_append, nested, nested, ih]

/-- Merging a nested patch treats each member of the object at the end of the path by itself. -/
theorem path?_merge_nested {changes : List (String × Json)} (hc : Assoc.Ordered changes) (key : String) :
    ∀ (path : List String) {j : Json}, j.Ordered →
      (merge (nested path (obj changes)) j).path? (path ++ [key]) =
        match changes.lookup key with
        | none => j.path? (path ++ [key])
        | some change => changed? change (j.path? (path ++ [key]))
  | [], j, hj => by
    rw [List.nil_append, path?_singleton, path?_singleton]
    exact get?_merge hc hj key
  | first :: rest, j, hj => by
    have hnested : ∃ members, nested rest (obj changes) = obj members := by
      cases rest with
      | nil => exact ⟨_, rfl⟩
      | cons second rest => exact ⟨_, rfl⟩
    obtain ⟨members, hmembers⟩ := hnested
    have hfound : ∃ next more, rest ++ [key] = next :: more := by
      cases rest with
      | nil => exact ⟨_, _, rfl⟩
      | cons next more => exact ⟨next, _, rfl⟩
    obtain ⟨next, more, hpath⟩ := hfound
    have hstep : (merge (nested (first :: rest) (obj changes)) j).get? first =
        some (merge (nested rest (obj changes)) ((j.get? first).getD .null)) := by
      rw [nested, get?_merge (List.pairwise_singleton _ _) hj, hmembers]
      simp
    rw [List.cons_append, path?_cons, path?_cons, hstep, Option.bind_some,
      path?_merge_nested hc key rest hj.get?, hpath, path?_getD]

/-! ## Changes at the end of a path -/

/-- The patch for a change of one member of an object. -/
theorem diff_update_member {members : List (String × Json)} (h : Assoc.Ordered members) (f : Json → Json) (key : String)
    (rest : List String) : diff (obj members) ((obj members).update f (key :: rest)) =
      obj ((change? (members.lookup key) (some (((members.lookup key).getD .null).update f rest))).map
        fun change => (key, change)).toList := by
  rw [show (obj members).update f (key :: rest) =
    obj (Assoc.insert key (((members.lookup key).getD .null).update f rest) members) from rfl, diff_obj,
    patchMembers_insert h]

/-- Whatever stands at the end of a path, a change of it is found to be settled already or to be a
patch of a certain form. -/
def Leads (f : Json → Json) (settled : Option Json → Prop) (patch : Option Json → Json → Prop) : Prop :=
  ∀ found : Option Json, (∀ j, found = some j → j.Ordered) →
    change? found (some (f (.obj (found.getD .null).membersOrNone))) = none ∧ settled found ∨
      ∃ w, change? found (some (f (.obj (found.getD .null).membersOrNone))) = some w ∧ patch found w

section Update

variable {f : Json → Json} {settled : Option Json → Prop} {patch : Option Json → Json → Prop}

/-- A change along a path puts a member, which becomes what the rest of the path makes of it. -/
theorem getD_update_cons (found : Option Json) (key : String) (rest : List String) :
    (found.getD .null).update f (key :: rest) =
      .obj (Assoc.insert key (((found.bind (·.get? key)).getD .null).update f rest)
        (found.getD .null).membersOrNone) := by
  cases found <;> rfl

/-- What is at a path is settled where the member on the way is. -/
theorem change?_update_eq_none {found : Option Json} (ho : ∀ j, found = some j → j.Ordered) {key : String}
    {rest : List String}
    (h : change? (found.bind (·.get? key)) (some (((found.bind (·.get? key)).getD .null).update f rest)) = none) :
    change? found (some ((found.getD .null).update f (key :: rest))) = none := by
  obtain ⟨old, hold, hsame⟩ := change?_some_eq_none_iff.1 h
  obtain ⟨o, rfl, hlookup⟩ := Option.bind_eq_some_iff.1 hold
  cases o
  case obj members =>
    rw [getD_update_cons]
    exact change?_some_eq_none_iff.2 ⟨_, rfl, sameMembers_insert hsame (ordered_obj_iff.1 (ho _ rfl)).1 hlookup⟩
  all_goals cases hlookup

/-- The patch for what is at a path holds the patch for the member on the way, and nothing else. -/
theorem change?_update_eq_some {found : Option Json} (ho : ∀ j, found = some j → j.Ordered) {key : String}
    {rest : List String} {w : Json}
    (h : change? (found.bind (·.get? key)) (some (((found.bind (·.get? key)).getD .null).update f rest)) = some w) :
    change? found (some ((found.getD .null).update f (key :: rest))) = some (.obj [(key, w)]) := by
  -- where there is no object yet, the member is all there is
  have hfresh : found.bind (·.get? key) = none → (found.getD .null).membersOrNone = [] →
      (found.getD .null).update f (key :: rest) = .obj [(key, w)] := by
    intro hnone hempty
    rw [hnone] at h
    rw [getD_update_cons, hempty, hnone, Option.some.inj h]; rfl
  cases found with
  | none => rw [hfresh rfl rfl]; rfl
  | some o =>
    cases o
    case obj members =>
      have hmembers := (ordered_obj_iff.1 (ho _ rfl)).1
      have hmember : change? (members.lookup key) (some (((members.lookup key).getD .null).update f rest)) = some w := h
      have hchanged : ¬ ((obj members).update f (key :: rest)).same (obj members) = true := by
        intro hsame
        have hrel := lookup_of_sameMembers hsame key
        rw [Assoc.lookup_insert, if_pos rfl] at hrel
        have hnone : change? (members.lookup key)
            (some (((members.lookup key).getD .null).update f rest)) = none := by
          cases hold : members.lookup key with
          | none => rw [hold] at hrel; cases hrel
          | some old =>
            rw [hold] at hrel
            cases hrel with
            | some hs => exact change?_some_eq_none_iff.2 ⟨old, rfl, by rw [← hold]; exact hs⟩
        rw [hmember] at hnone
        cases hnone
      show (if _ then none else some _) = _
      rw [Option.getD_some, if_neg hchanged, diff_update_member hmembers, hmember]; rfl
    all_goals
      have hnew := hfresh rfl rfl
      rw [Option.getD_some] at hnew ⊢
      rw [hnew]; rfl

/-- The patch for a change along a path is none if the change is settled, and else is nested along the
path. -/
theorem Leads.change?_update (hf : Leads f settled patch) : ∀ (path : List String) (found : Option Json),
    (∀ j, found = some j → j.Ordered) →
      change? found (some ((found.getD .null).update f path)) = none ∧ settled (found.bind (·.path? path)) ∨
        ∃ w, change? found (some ((found.getD .null).update f path)) = some (nested path w) ∧
          patch (found.bind (·.path? path)) w
  | [], found, ho => by
    have hbind : (found.bind fun j => j.path? []) = found := by cases found <;> rfl
    rw [hbind]
    exact hf found ho
  | key :: rest, found, ho => by
    have hordered : ∀ j, found.bind (·.get? key) = some j → j.Ordered := by
      intro j hj
      obtain ⟨o, rfl, hget⟩ := Option.bind_eq_some_iff.1 hj
      have ho := (ho o rfl).get? (k := key)
      rw [hget] at ho
      exact ho
    have hpath : (found.bind fun j => j.path? (key :: rest)) = (found.bind (·.get? key)).bind (·.path? rest) := by
      cases found <;> rfl
    rw [hpath]
    rcases hf.change?_update rest (found.bind (·.get? key)) hordered with ⟨hnone, hsettled⟩ | ⟨w, hsome, hpatch⟩
    · exact .inl ⟨change?_update_eq_none ho hnone, hsettled⟩
    · exact .inr ⟨w, change?_update_eq_some ho hsome, hpatch⟩

/-- The patch for a change along a path of an object is empty, or is nested along the path. -/
theorem Leads.diff_update (hf : Leads f settled patch) {members : List (String × Json)} (ho : (obj members).Ordered)
    (key : String) (rest : List String) :
    diff (obj members) ((obj members).update f (key :: rest)) = obj [] ∧ settled ((obj members).path? (key :: rest)) ∨
      ∃ w, diff (obj members) ((obj members).update f (key :: rest)) = nested (key :: rest) w ∧
        patch ((obj members).path? (key :: rest)) w := by
  obtain ⟨hmembers, hvalues⟩ := ordered_obj_iff.1 ho
  have hordered : ∀ j, members.lookup key = some j → j.Ordered := fun j hj => hvalues _ (mem_of_lookup hj)
  rw [diff_update_member hmembers]
  rcases hf.change?_update rest (members.lookup key) hordered with ⟨hnone, hsettled⟩ | ⟨w, hsome, hpatch⟩
  · rw [hnone]; exact .inl ⟨rfl, hsettled⟩
  · rw [hsome]; exact .inr ⟨w, rfl, hpatch⟩

end Update

/-! ### Putting and removing -/

/-- A member is put by what is put in the place of it. -/
theorem update_set (key : String) (j : Json) : ∀ (path : List String) (o : Json),
    o.update (·.set key j) path = o.update (fun _ => j) (path ++ [key])
  | [], _ => rfl
  | first :: rest, o => by
    rw [List.cons_append, update, update, update_set key j rest]

/-- What is no object and only equal to itself is put as it is. -/
theorem leads_put {j : Json} (hsame : ∀ o, j.same o = true → o = j) (hobj : ∀ members, j ≠ .obj members) :
    Leads (fun _ => j) (fun found => found = some j) (fun _ w => w = j) := by
  intro found _
  by_cases h : found = some j
  · exact .inl ⟨by rw [h, change?_self], h⟩
  · refine .inr ⟨j, ?_, rfl⟩
    cases found with
    | none => rfl
    | some o =>
      have hne : ¬ j.same o = true := fun hs => h (by rw [hsame o hs])
      show (if _ then none else some _) = _
      rw [if_neg hne, diff_of_not_obj fun _ new _ => hobj new]

/-- The patch for putting such a value at the end of a path is empty, or holds the value there. -/
theorem diff_update_set {j : Json} (hsame : ∀ o, j.same o = true → o = j) (hobj : ∀ members, j ≠ .obj members)
    {members : List (String × Json)} (ho : (obj members).Ordered) (key : String) (rest : List String) (last : String) :
    diff (obj members) ((obj members).update (·.set last j) (key :: rest)) = obj [] ∧
        (obj members).path? (key :: rest ++ [last]) = some j ∨
      diff (obj members) ((obj members).update (·.set last j) (key :: rest)) =
        nested (key :: rest) (obj [(last, j)]) := by
  rw [update_set, List.cons_append]
  rcases (leads_put hsame hobj).diff_update ho key (rest ++ [last]) with h | ⟨w, hw, rfl⟩
  · exact .inl h
  · rw [hw, ← List.cons_append, nested_append]
    exact .inr rfl

/-- A member is removed by null, if there is one; what is no object becomes an empty one. -/
theorem leads_unset (key : String) : Leads (·.unset key) (fun found => found.bind (·.get? key) = none)
    (fun found w => w = .obj [(key, .null)] ∨ w = .obj [] ∧ found.bind (·.get? key) = none) := by
  intro found ho
  cases found with
  | none => exact .inr ⟨.obj [], rfl, .inr ⟨rfl, rfl⟩⟩
  | some o =>
    cases o
    case obj members =>
      have hmembers := (ordered_obj_iff.1 (ho _ rfl)).1
      have herase := Assoc.lookup_erase hmembers key
      cases hl : members.lookup key with
      | none =>
        refine .inl ⟨?_, hl⟩
        show change? _ (some (.obj (Assoc.erase key members))) = none
        rw [hmembers.erase_eq hl, change?_self]
      | some old =>
        refine .inr ⟨_, ?_, .inl rfl⟩
        have hne : ¬ (obj (Assoc.erase key members)).same (obj members) = true := by
          intro hs
          have hrel := lookup_of_sameMembers hs key
          rw [herase, if_pos rfl, hl] at hrel
          cases hrel
        show (if (obj (Assoc.erase key members)).same (obj members) = true then none
          else some (diff (obj members) (obj (Assoc.erase key members)))) = _
        rw [if_neg hne, diff_obj]
        congr 2
        refine (ordered_patchMembers _ _).ext (List.pairwise_singleton _ _) fun k => ?_
        rw [lookup_patchMembers hmembers (hmembers.erase key), herase, List.lookup_cons]
        by_cases hk : k = key
        · subst hk; simp [hl, change?]
        · have hne : (k == key) = false := by simpa using hk
          simp [hk, hne]
    all_goals exact .inr ⟨.obj [], rfl, .inr ⟨rfl, rfl⟩⟩

end Json

end Rollout
