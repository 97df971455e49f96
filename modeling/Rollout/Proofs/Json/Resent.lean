/-
What becomes of a value on its way as text. Objects keep their keys and each member goes by itself
(`ReadAs.path?`), so a patch that comes through unchanged makes of what was read what it makes of what
was sent (`ReadAs.merge`).
-/
import Rollout.Json.Transfer
import Rollout.Proofs.Json.Path

namespace Rollout.Json

/-- The second value is what is read where the first was written. -/
def ReadAs (j r : Json) : Prop := j.resent? = some r

/-- A value is read in one way. -/
theorem ReadAs.unique {j r r' : Json} (h : j.ReadAs r) (h' : j.ReadAs r') : r = r' :=
  Option.some.inj (h.symm.trans h')

/-! ## Members -/

theorem resentMembers?_cons_iff {key : String} {value : Json} {rest read : List (String × Json)} :
    resentMembers? ((key, value) :: rest) = some read ↔
      ∃ v r, value.ReadAs v ∧ resentMembers? rest = some r ∧ read = (key, v) :: r := by
  rw [resentMembers?]
  simp only [Option.bind_eq_bind, Option.bind_eq_some_iff, Option.pure_def, Option.some.injEq, ReadAs]
  constructor
  · rintro ⟨v, hv, r, hr, rfl⟩; exact ⟨v, r, hv, hr, rfl⟩
  · rintro ⟨v, r, hv, hr, rfl⟩; exact ⟨v, hv, r, hr, rfl⟩

theorem readAs_obj_iff {members : List (String × Json)} {r : Json} :
    (obj members).ReadAs r ↔ ∃ read, resentMembers? members = some read ∧ r = .obj read := by
  unfold ReadAs
  rw [resent?, Option.map_eq_some_iff]
  simp only [eq_comm]

theorem resentItems?_cons_iff {item : Json} {rest read : List Json} :
    resentItems? (item :: rest) = some read ↔
      ∃ v r, item.ReadAs v ∧ resentItems? rest = some r ∧ read = v :: r := by
  rw [resentItems?]
  simp only [Option.bind_eq_bind, Option.bind_eq_some_iff, Option.pure_def, Option.some.injEq, ReadAs]
  constructor
  · rintro ⟨v, hv, r, hr, rfl⟩; exact ⟨v, r, hv, hr, rfl⟩
  · rintro ⟨v, r, hv, hr, rfl⟩; exact ⟨v, hv, r, hr, rfl⟩

theorem readAs_arr_iff {items : List Json} {r : Json} :
    (arr items).ReadAs r ↔ ∃ read, resentItems? items = some read ∧ r = .arr read := by
  unfold ReadAs
  rw [resent?, Option.map_eq_some_iff]
  simp only [eq_comm]

/-- Only an object is read as one. -/
theorem ReadAs.exists_obj {j : Json} {read : List (String × Json)} (h : j.ReadAs (.obj read)) :
    ∃ members, j = .obj members ∧ resentMembers? members = some read := by
  cases j
  case obj members =>
    obtain ⟨_, hread, heq⟩ := readAs_obj_iff.1 h
    cases heq
    exact ⟨members, rfl, hread⟩
  case arr items =>
    obtain ⟨_, -, heq⟩ := readAs_arr_iff.1 h
    cases heq
  case double x =>
    obtain ⟨_, -, heq⟩ := Option.map_eq_some_iff.1 (show x.resent?.map double = some (.obj read) from h)
    cases heq
  all_goals cases h

/-- A value that is no double and holds none was written as it is read. -/
theorem ReadAs.eq {j r : Json} (h : j.ReadAs r) (hobj : ∀ members, r ≠ .obj members) (harr : ∀ items, r ≠ .arr items)
    (hdouble : ∀ x, r ≠ .double x) : j = r := by
  cases j
  case obj members => obtain ⟨_, -, heq⟩ := readAs_obj_iff.1 h; exact absurd heq (hobj _)
  case arr items =>
    obtain ⟨_, -, heq⟩ := readAs_arr_iff.1 h
    exact absurd heq (harr _)
  case double x =>
    obtain ⟨_, -, heq⟩ := Option.map_eq_some_iff.1 (show x.resent?.map double = some r from h)
    exact absurd heq.symm (hdouble _)
  all_goals exact Option.some.inj h

/-- Members are read one by one, under the same keys. -/
theorem lookup_resentMembers : ∀ {members read : List (String × Json)}, resentMembers? members = some read →
    ∀ k : String, Option.Rel ReadAs (members.lookup k) (read.lookup k)
  | [], read, h, k => by
    rw [resentMembers?] at h
    cases h
    exact .none
  | (key, value) :: rest, read, h, k => by
    obtain ⟨v, r, hv, hr, rfl⟩ := resentMembers?_cons_iff.1 h
    rw [List.lookup_cons, List.lookup_cons]
    cases k == key with
    | true => exact .some hv
    | false => exact lookup_resentMembers hr k

theorem keys_resentMembers : ∀ {members read : List (String × Json)}, resentMembers? members = some read →
    read.map (·.1) = members.map (·.1)
  | [], read, h => by rw [resentMembers?] at h; cases h; rfl
  | (key, value) :: rest, read, h => by
    obtain ⟨v, r, -, hr, rfl⟩ := resentMembers?_cons_iff.1 h
    rw [List.map_cons, List.map_cons, keys_resentMembers hr]

theorem resentMembers?_insert {key : String} {value v : Json} (hv : value.ReadAs v) :
    ∀ {members read : List (String × Json)}, resentMembers? members = some read →
      resentMembers? (Assoc.insert key value members) = some (Assoc.insert key v read)
  | [], read, h => by
    rw [resentMembers?] at h
    cases h
    exact resentMembers?_cons_iff.2 ⟨v, [], hv, rfl, rfl⟩
  | (k, old) :: rest, read, h => by
    obtain ⟨o, r, ho, hr, rfl⟩ := resentMembers?_cons_iff.1 h
    rw [Assoc.insert, Assoc.insert]
    split
    · exact resentMembers?_cons_iff.2 ⟨v, _, hv, h, rfl⟩
    · split
      · exact resentMembers?_cons_iff.2 ⟨v, r, hv, hr, rfl⟩
      · exact resentMembers?_cons_iff.2 ⟨o, _, ho, resentMembers?_insert hv hr, rfl⟩

theorem resentMembers?_erase (key : String) : ∀ {members read : List (String × Json)},
    resentMembers? members = some read → resentMembers? (Assoc.erase key members) = some (Assoc.erase key read)
  | [], read, h => by rw [resentMembers?] at h; cases h; rfl
  | (k, old) :: rest, read, h => by
    obtain ⟨o, r, ho, hr, rfl⟩ := resentMembers?_cons_iff.1 h
    rw [Assoc.erase, Assoc.erase]
    split
    · exact hr
    · exact resentMembers?_cons_iff.2 ⟨o, _, ho, resentMembers?_erase key hr, rfl⟩

/-! ## Values -/

theorem readAs_null : null.ReadAs null := rfl

theorem ReadAs.membersOrNone {j r : Json} (h : j.ReadAs r) :
    resentMembers? j.membersOrNone = some r.membersOrNone := by
  cases j
  case obj members =>
    obtain ⟨read, hread, rfl⟩ := readAs_obj_iff.1 h
    exact hread
  case arr items =>
    obtain ⟨read, -, rfl⟩ := readAs_arr_iff.1 h
    rfl
  case double x =>
    obtain ⟨y, -, rfl⟩ := Option.map_eq_some_iff.1 (show x.resent?.map double = some r from h)
    rfl
  all_goals cases h; rfl

theorem ReadAs.get? {j r : Json} (h : j.ReadAs r) (k : String) : Option.Rel ReadAs (j.get? k) (r.get? k) := by
  rw [get?_eq_lookup, get?_eq_lookup]
  exact lookup_resentMembers h.membersOrNone k

theorem ReadAs.path? : ∀ {j r : Json}, j.ReadAs r →
    ∀ path : List String, Option.Rel ReadAs (j.path? path) (r.path? path)
  | _, _, h, [] => .some h
  | j, r, h, key :: rest => by
    rw [path?_cons, path?_cons]
    cases hj : j.get? key with
    | none =>
      have hrel := h.get? key
      rw [hj] at hrel
      cases hr : r.get? key with
      | none => exact .none
      | some v => rw [hr] at hrel; cases hrel
    | some member =>
      have hrel := h.get? key
      rw [hj] at hrel
      cases hr : r.get? key with
      | none => rw [hr] at hrel; cases hrel
      | some v =>
        rw [hr] at hrel
        cases hrel with
        | some hmember => exact hmember.path? rest

theorem ReadAs.getD {found read : Option Json} (h : Option.Rel ReadAs found read) :
    (found.getD .null).ReadAs (read.getD .null) := by
  cases h with
  | none => exact readAs_null
  | some h => exact h

/-! ## Items -/

section Items

variable {items read : List Json} {p : Json → Bool}

theorem getElem?_resentItems : ∀ {items read : List Json}, resentItems? items = some read →
    ∀ i : Nat, Option.Rel ReadAs items[i]? read[i]?
  | [], read, h, i => by
    rw [resentItems?] at h
    cases h
    exact .none
  | item :: rest, read, h, i => by
    obtain ⟨v, r, hv, hr, rfl⟩ := resentItems?_cons_iff.1 h
    cases i with
    | zero => exact .some hv
    | succ i => exact getElem?_resentItems hr i

theorem find?_resentItems (hp : ∀ {j r}, j.ReadAs r → p r = p j) : ∀ {items read : List Json},
    resentItems? items = some read → Option.Rel ReadAs (items.find? p) (read.find? p)
  | [], read, h => by
    rw [resentItems?] at h
    cases h
    exact .none
  | item :: rest, read, h => by
    obtain ⟨v, r, hv, hr, rfl⟩ := resentItems?_cons_iff.1 h
    rw [List.find?_cons, List.find?_cons, hp hv]
    cases p item with
    | true => exact .some hv
    | false => exact find?_resentItems hp hr

theorem any_resentItems (hp : ∀ {j r}, j.ReadAs r → p r = p j) (h : resentItems? items = some read) :
    read.any p = items.any p := by
  rw [← List.isSome_find?, ← List.isSome_find?]
  exact isSome_eq_of_rel (find?_resentItems hp h)

end Items

theorem ReadAs.items? {j r : Json} (h : j.ReadAs r) :
    Option.Rel (fun items read => resentItems? items = some read) j.items? r.items? := by
  cases j
  case arr items =>
    obtain ⟨read, hread, rfl⟩ := readAs_arr_iff.1 h
    exact .some hread
  case obj members =>
    obtain ⟨read, -, rfl⟩ := readAs_obj_iff.1 h
    exact .none
  case double x =>
    obtain ⟨y, -, rfl⟩ := Option.map_eq_some_iff.1 (show x.resent?.map double = some r from h)
    exact .none
  all_goals cases h; exact .none

/-- What a pointer leads to is read by itself. -/
theorem ReadAs.pointer? : ∀ {j r : Json}, j.ReadAs r →
    ∀ path : List String, Option.Rel ReadAs (j.pointer? path) (r.pointer? path)
  | j, r, h, [] => by cases j <;> cases r <;> exact .some h
  | .obj members, r, h, token :: rest => by
    obtain ⟨read, hread, rfl⟩ := readAs_obj_iff.1 h
    exact rel_bind (lookup_resentMembers hread token) fun hmember => hmember.pointer? rest
  | .arr items, r, h, token :: rest => by
    obtain ⟨read, hread, rfl⟩ := readAs_arr_iff.1 h
    have hitem : Option.Rel ReadAs ((index? token).bind fun i => items[i]?)
        ((index? token).bind fun i => read[i]?) := by
      cases index? token with
      | none => exact .none
      | some i => exact getElem?_resentItems hread i
    exact rel_bind hitem fun hread => hread.pointer? rest
  | .double x, r, h, token :: rest => by
    obtain ⟨y, -, rfl⟩ := Option.map_eq_some_iff.1 (show x.resent?.map double = some r from h)
    exact .none
  | .null, r, h, token :: rest | .bool _, r, h, token :: rest | .int _, r, h, token :: rest
  | .str _, r, h, token :: rest => by cases h; exact .none

/-! ## Order -/

mutual

/-- What is read is in order when what was written is. -/
theorem ReadAs.ordered : ∀ {j r : Json}, j.ReadAs r → j.Ordered → r.Ordered
  | .obj members, r, h, ho => by
    obtain ⟨read, hread, rfl⟩ := readAs_obj_iff.1 h
    obtain ⟨hkeys, hvalues⟩ := ordered_obj_iff.1 ho
    refine ordered_obj_iff.2 ⟨?_, ReadAs.orderedMembers hread hvalues⟩
    rw [Assoc.Ordered, ← List.pairwise_map (R := (· < ·)), keys_resentMembers hread, List.pairwise_map]
    exact hkeys
  | .arr items, r, h, ho => by
    obtain ⟨read, hread, rfl⟩ := readAs_arr_iff.1 h
    exact (orderedItems_iff read).2 (ReadAs.orderedItems hread ((orderedItems_iff items).1 ho))
  | .double x, r, h, _ => by
    obtain ⟨y, -, rfl⟩ := Option.map_eq_some_iff.1 (show x.resent?.map double = some r from h)
    trivial
  | .null, r, h, ho | .bool _, r, h, ho | .int _, r, h, ho | .str _, r, h, ho => by cases h; exact ho

theorem ReadAs.orderedItems : ∀ {items read : List Json}, resentItems? items = some read →
    (∀ j ∈ items, j.Ordered) → ∀ j ∈ read, j.Ordered
  | [], read, h, _ => by rw [resentItems?] at h; cases h; simp
  | item :: rest, read, h, ho => by
    obtain ⟨v, r, hv, hr, rfl⟩ := resentItems?_cons_iff.1 h
    intro j hj
    rcases List.mem_cons.1 hj with rfl | hj
    · exact ReadAs.ordered (j := item) hv (ho item (List.mem_cons_self ..))
    · exact ReadAs.orderedItems hr (fun o hmem => ho o (List.mem_cons_of_mem _ hmem)) j hj

theorem ReadAs.orderedMembers : ∀ {members read : List (String × Json)}, resentMembers? members = some read →
    (∀ e ∈ members, e.2.Ordered) → ∀ e ∈ read, e.2.Ordered
  | [], read, h, _ => by rw [resentMembers?] at h; cases h; simp
  | (key, value) :: rest, read, h, ho => by
    obtain ⟨v, r, hv, hr, rfl⟩ := resentMembers?_cons_iff.1 h
    intro e he
    rcases List.mem_cons.1 he with rfl | he
    · exact ReadAs.ordered (j := value) hv (ho _ (List.mem_cons_self ..))
    · exact ReadAs.orderedMembers hr (fun o hmem => ho o (List.mem_cons_of_mem _ hmem)) e he

end

/-! ## Steady values -/

/-- The value comes through unchanged. -/
def Steady (j : Json) : Prop := j.ReadAs j

theorem steady_obj_iff {members : List (String × Json)} : (obj members).Steady ↔ ∀ e ∈ members, e.2.Steady := by
  unfold Steady
  rw [readAs_obj_iff]
  simp only [obj.injEq, exists_eq_right']
  induction members with
  | nil => simp [resentMembers?]
  | cons e rest ih =>
    obtain ⟨key, value⟩ := e
    rw [resentMembers?_cons_iff, List.forall_mem_cons, ← ih]
    constructor
    · rintro ⟨v, r, hv, hr, heq⟩
      cases heq
      exact ⟨hv, hr⟩
    · rintro ⟨hv, hr⟩
      exact ⟨value, rest, hv, hr, rfl⟩

theorem steady_arr_iff {items : List Json} : (arr items).Steady ↔ ∀ j ∈ items, j.Steady := by
  unfold Steady ReadAs
  rw [resent?, Option.map_eq_some_iff]
  simp only [arr.injEq, exists_eq_right]
  induction items with
  | nil => simp [resentItems?]
  | cons item rest ih =>
    rw [resentItems?, List.forall_mem_cons, ← ih]
    simp only [Option.bind_eq_bind, Option.bind_eq_some_iff, Option.pure_def, Option.some.injEq]
    constructor
    · rintro ⟨v, hv, r, hr, heq⟩
      cases heq
      exact ⟨hv, hr⟩
    · rintro ⟨hv, hr⟩
      exact ⟨item, hv, rest, hr, rfl⟩

mutual

/-- Whether a value holds no doubles. -/
def isWhole : Json → Bool
  | .double _ => false
  | .arr items => areWhole items
  | .obj members => haveWhole members
  | _ => true
termination_by structural j => j

/-- Whether items hold no doubles. -/
def areWhole : List Json → Bool
  | [] => true
  | item :: rest => isWhole item && areWhole rest
termination_by structural items => items

/-- Whether members hold no doubles. -/
def haveWhole : List (String × Json) → Bool
  | [] => true
  | (_, value) :: rest => isWhole value && haveWhole rest
termination_by structural members => members

end

mutual

/-- All but doubles comes through unchanged. -/
theorem steady_of_isWhole : ∀ {j : Json}, j.isWhole = true → j.Steady
  | .double x, h => by simp [isWhole] at h
  | .arr items, h => steady_arr_iff.2 (steady_of_areWhole h)
  | .obj members, h => steady_obj_iff.2 (steady_of_haveWhole h)
  | .null, _ | .bool _, _ | .int _, _ | .str _, _ => rfl

theorem steady_of_areWhole : ∀ {items : List Json}, areWhole items = true → ∀ j ∈ items, j.Steady
  | [], _ => by simp
  | item :: rest, h => by
    rw [areWhole, Bool.and_eq_true] at h
    exact List.forall_mem_cons.2 ⟨steady_of_isWhole h.1, steady_of_areWhole h.2⟩

theorem steady_of_haveWhole : ∀ {members : List (String × Json)}, haveWhole members = true → ∀ e ∈ members, e.2.Steady
  | [], _ => by simp
  | (key, value) :: rest, h => by
    rw [haveWhole, Bool.and_eq_true] at h
    exact List.forall_mem_cons.2 ⟨steady_of_isWhole h.1, steady_of_haveWhole h.2⟩

end

theorem steady_nested {j : Json} (h : j.Steady) : ∀ path : List String, (nested path j).Steady
  | [] => h
  | key :: rest => steady_obj_iff.2 (by simpa using steady_nested h rest)

theorem Steady.membersOrNone {j : Json} (h : j.Steady) : ∀ e ∈ j.membersOrNone, e.2.Steady := by
  cases j
  case obj members => exact steady_obj_iff.1 h
  all_goals simp [Json.membersOrNone]

theorem Steady.set {j value : Json} (h : j.Steady) (key : String) (hv : value.Steady) : (j.set key value).Steady := by
  refine steady_obj_iff.2 fun e he => ?_
  rcases Assoc.mem_insert he with rfl | he
  · exact hv
  · exact h.membersOrNone e he

theorem Steady.unset {j : Json} (h : j.Steady) (key : String) : (j.unset key).Steady :=
  steady_obj_iff.2 fun e he => h.membersOrNone e (Assoc.mem_of_mem_erase he)

theorem steady_object {members : List (String × Json)} (h : ∀ e ∈ members, e.2.Steady) : (object members).Steady :=
  steady_obj_iff.2 fun e he => h e (Assoc.mem_of_mem_ofList he)

/-! ## Merging -/

mutual

/-- A steady patch makes of what is read what it makes of what was written. -/
theorem ReadAs.merge : ∀ {patch j r : Json}, patch.Steady → j.ReadAs r → (patch.merge j).ReadAs (patch.merge r)
  | .obj changes, j, r, hp, h => by
    rw [merge_obj, merge_obj]
    exact readAs_obj_iff.2 ⟨_, ReadAs.mergeMembers (steady_obj_iff.1 hp) h.membersOrNone, rfl⟩
  | .null, _, _, hp, _ | .bool _, _, _, hp, _ | .int _, _, _, hp, _ | .double _, _, _, hp, _ | .str _, _, _, hp, _
  | .arr _, _, _, hp, _ => hp

theorem ReadAs.mergeMembers : ∀ {changes members read : List (String × Json)}, (∀ e ∈ changes, e.2.Steady) →
    resentMembers? members = some read →
      resentMembers? (Json.mergeMembers changes members) = some (Json.mergeMembers changes read)
  | [], _, _, _, h => h
  | (key, change) :: rest, members, read, hc, h => by
    have hchange : change.Steady := hc _ (List.mem_cons_self ..)
    have hrest : ∀ e ∈ rest, e.2.Steady := fun e he => hc e (List.mem_cons_of_mem _ he)
    by_cases hn : change = .null
    · subst hn
      rw [mergeMembers_cons_null, mergeMembers_cons_null]
      exact ReadAs.mergeMembers hrest (resentMembers?_erase key h)
    · rw [mergeMembers_cons hn, mergeMembers_cons hn]
      have hmember := ReadAs.merge hchange (ReadAs.getD (lookup_resentMembers h key))
      exact ReadAs.mergeMembers hrest (resentMembers?_insert hmember h)

end

end Rollout.Json
