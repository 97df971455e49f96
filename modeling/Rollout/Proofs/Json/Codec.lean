/-
Members as records read and write them. What is written shows its members under their keys
(`lookup_objectOf`), and a member reads as another text of its object lets it read when both hold
the same under its key. Texts go back and forth unchanged (`texts?_ofTexts`, `texts?_eq_some_iff`).
-/
import Rollout.Json.Decode
import Rollout.Proofs.Json.Merge

namespace Rollout.Json

variable {α : Type}

/-! ## Members of what is written -/

theorem lookup_filterMap_some (k : String) : ∀ (members : List (String × Option Json)),
    (members.map (·.1)).Nodup →
      (members.filterMap fun (key, value) => value.map fun v => (key, v)).lookup k =
        (members.lookup k).join
  | [], _ => by simp
  | (key, value) :: rest, h => by
    rw [List.map_cons, List.nodup_cons] at h
    have ih := lookup_filterMap_some k rest h.2
    rw [List.filterMap_cons, List.lookup_cons]
    by_cases hk : k = key
    · subst hk
      have hnone : rest.lookup k = none :=
        Assoc.lookup_eq_none fun e he heq => h.1 (List.mem_map.2 ⟨e, he, heq.symm⟩)
      cases value with
      | none => simpa [hnone] using ih
      | some v => simp
    · have hne : (k == key) = false := by simpa using hk
      cases value with
      | none => simpa [hne] using ih
      | some v => simpa [List.lookup_cons, hne] using ih

/-- The members of the object that `objectOf` makes. -/
def membersOf (members : List (String × Option Json)) : List (String × Json) :=
  Assoc.ofList (members.filterMap fun (key, value) => value.map fun v => (key, v))

theorem ordered_membersOf (members : List (String × Option Json)) : Assoc.Ordered (membersOf members) :=
  Assoc.ordered_ofList _

theorem nodup_keys_filterMap_some : ∀ {members : List (String × Option Json)},
    (members.map (·.1)).Nodup →
      ((members.filterMap fun (key, value) => value.map fun v => (key, v)).map (·.1)).Nodup
  | [], _ => by simp
  | (key, value) :: rest, h => by
    rw [List.map_cons, List.nodup_cons] at h
    have ih := nodup_keys_filterMap_some h.2
    cases value with
    | none => simpa using ih
    | some v =>
      simp only [List.filterMap_cons, Option.map_some, List.map_cons, List.nodup_cons]
      refine ⟨fun hm => h.1 ?_, ih⟩
      obtain ⟨e, he, hk⟩ := List.mem_map.1 hm
      obtain ⟨⟨k', v'⟩, hmem, hv⟩ := List.mem_filterMap.1 he
      obtain ⟨w, -, rfl⟩ := Option.map_eq_some_iff.1 hv
      exact List.mem_map.2 ⟨_, hmem, hk⟩

theorem lookup_membersOf {members : List (String × Option Json)} (h : (members.map (·.1)).Nodup)
    (k : String) : (membersOf members).lookup k = (members.lookup k).join := by
  unfold membersOf
  rw [Assoc.lookup_ofList (nodup_keys_filterMap_some h), lookup_filterMap_some k _ h]

theorem ordered_objectOf {members : List (String × Option Json)}
    (h : ∀ e ∈ members, ∀ v, e.2 = some v → v.Ordered) : (objectOf members).Ordered := by
  refine ordered_obj_iff.2 ⟨ordered_membersOf members, fun e he => ?_⟩
  obtain ⟨⟨key, value⟩, hm, hmap⟩ := List.mem_filterMap.1 (Assoc.mem_of_mem_ofList he)
  obtain ⟨v, hv, rfl⟩ := Option.map_eq_some_iff.1 hmap
  exact h _ hm v hv

/-! ## Members that are read -/

section Read

variable {decode : Json → Option α} {default : α} {key : String} {m m' : List (String × Json)}

theorem required_congr (h : m'.lookup key = m.lookup key) :
    required decode key m' = required decode key m := by
  unfold required; rw [h]

theorem optional_congr (h : m'.lookup key = m.lookup key) :
    optional decode key m' = optional decode key m := by
  unfold optional; rw [h]

theorem defaulted_congr (h : m'.lookup key = m.lookup key) :
    defaulted decode default key m' = defaulted decode default key m := by
  unfold defaulted; rw [h]

theorem optional_of_lookup {j : Json} (h : m.lookup key = some j) (hj : j ≠ .null) :
    optional decode key m = (decode j).map some := by
  unfold optional
  rw [h]
  cases j <;> first | rfl | exact absurd rfl hj

theorem optional_of_absent (h : (m.lookup key).getD .null = .null) : optional decode key m = some none := by
  unfold optional
  cases hl : m.lookup key with
  | none => rfl
  | some j => rw [hl] at h; simp only [Option.getD_some] at h; rw [h]

/-- An optional member reads as none where nothing is, and else as what is there. -/
theorem optional_eq_some_iff {a : Option α} :
    optional decode key m = some a ↔
      a = none ∧ (m.lookup key).getD .null = .null ∨
        ∃ j v, m.lookup key = some j ∧ j ≠ .null ∧ decode j = some v ∧ a = some v := by
  by_cases hn : (m.lookup key).getD .null = .null
  · rw [optional_of_absent hn]
    constructor
    · intro h; cases h; exact .inl ⟨rfl, hn⟩
    · rintro (⟨rfl, -⟩ | ⟨j, v, hl, hj, -⟩)
      · rfl
      · rw [hl] at hn; exact absurd hn hj
  · cases hl : m.lookup key with
    | none => rw [hl] at hn; exact absurd rfl hn
    | some j =>
      have hj : j ≠ .null := by rw [hl] at hn; exact hn
      rw [optional_of_lookup hl hj, Option.map_eq_some_iff]
      constructor
      · rintro ⟨v, hv, rfl⟩; exact .inr ⟨j, v, rfl, hj, hv, rfl⟩
      · rintro (⟨-, h⟩ | ⟨_, v, h, -, hv, rfl⟩)
        · exact absurd h hj
        · cases h; exact ⟨v, hv, rfl⟩

/-- An optional member reads as it was written. -/
theorem optional_of_written {encode : α → Json} {a : Option α} (hnull : decode .null = none)
    (hread : ∀ v, decode (encode v) = some v) (h : m.lookup key = a.map encode) : optional decode key m = some a := by
  cases a with
  | none => exact optional_of_absent (by rw [h]; rfl)
  | some v =>
    have hne : encode v ≠ .null := fun heq => by
      have hv := hread v
      rw [heq, hnull] at hv
      cases hv
    rw [optional_of_lookup h hne, hread]
    rfl

/-- A member that must be there reads as it was written. -/
theorem required_of_written {encode : α → Json} {a : α} (hread : ∀ v, decode (encode v) = some v)
    (h : m.lookup key = some (encode a)) : required decode key m = some a := by
  unfold required
  rw [h]
  exact hread a

theorem defaulted_of_lookup {j : Json} (h : m.lookup key = some j) : defaulted decode default key m = decode j := by
  unfold defaulted; rw [h]

/-- A member with a default, which is always written, reads as it was written. -/
theorem defaulted_of_written {encode : α → Json} {a : α} (hread : ∀ v, decode (encode v) = some v)
    (h : m.lookup key = some (encode a)) : defaulted decode default key m = some a :=
  (defaulted_of_lookup h).trans (hread a)

end Read

/-! ## Maps of texts -/

theorem mapM_text?_eq_some_iff : ∀ {members : List (String × Json)} {entries : List (String × String)},
    members.mapM (fun (e : String × Json) => e.2.text?.map fun s => (e.1, s)) = some entries ↔
      members = entries.map fun e => (e.1, .str e.2)
  | [], entries => by cases entries <;> simp
  | (k, v) :: rest, entries => by
    rw [List.mapM_cons]
    cases v
    case str s =>
      cases entries with
      | nil => simp [Option.bind_eq_some_iff]
      | cons e es =>
        obtain ⟨k', s'⟩ := e
        simp only [show text? (.str s) = some s from rfl, Option.map_some, Option.bind_eq_bind, Option.bind_some,
          Option.bind_eq_some_iff, mapM_text?_eq_some_iff, Option.pure_def, Option.some.injEq, List.cons.injEq,
          Prod.mk.injEq, List.map_cons, str.injEq]
        constructor
        · rintro ⟨es', h, ⟨rfl, rfl⟩, rfl⟩; exact ⟨⟨rfl, rfl⟩, h⟩
        · rintro ⟨⟨rfl, rfl⟩, h⟩; exact ⟨es, h, ⟨rfl, rfl⟩, rfl⟩
    all_goals cases entries <;> simp [text?]

theorem ordered_map_str {entries : List (String × String)} :
    Assoc.Ordered (entries.map fun e => (e.1, Json.str e.2)) ↔ Assoc.Ordered entries :=
  List.pairwise_map

/-- An ordered value reads as a map of texts exactly when it is that map, written. -/
theorem texts?_eq_some_iff {j : Json} (hj : j.Ordered) {d : Dict String} :
    texts? j = some d ↔ j = ofTexts d := by
  cases j
  case obj members =>
    -- members in order make up a map as they stand
    have ho : Assoc.Ordered members := (ordered_obj_iff.1 hj).1
    unfold texts? ofTexts
    simp only [Option.map_eq_some_iff, mapM_text?_eq_some_iff, obj.injEq]
    constructor
    · rintro ⟨entries, rfl, rfl⟩
      rw [show (Dict.ofList entries).entries = entries from (ordered_map_str.1 ho).ofList_eq]
    · rintro rfl
      refine ⟨d.entries, rfl, ?_⟩
      obtain ⟨entries, h⟩ := d
      unfold Dict.ofList
      congr
      exact h.ofList_eq
  all_goals simp [texts?, ofTexts]

theorem ordered_ofTexts (d : Dict String) : (ofTexts d).Ordered := by
  refine ordered_obj_iff.2 ⟨ordered_map_str.2 d.ordered, fun e he => ?_⟩
  obtain ⟨f, -, rfl⟩ := List.mem_map.1 he
  simp [Ordered]

theorem texts?_ofTexts (d : Dict String) : texts? (ofTexts d) = some d :=
  (texts?_eq_some_iff (ordered_ofTexts d)).2 rfl

/-! ## Numbers -/

theorem int32?_ofInt32 (n : Int32) : int32? (ofInt32 n) = some n := by
  have h₁ := Int32.minValue_le_toInt n
  have h₂ := Int32.toInt_le n
  unfold int32? ofInt32
  simp only
  rw [if_pos ⟨h₁, h₂⟩, Int32.ofInt_toInt]

theorem int64?_ofInt64 (n : Int64) : int64? (ofInt64 n) = some n := by
  have h₁ := Int64.minValue_le_toInt n
  have h₂ := Int64.toInt_le n
  unfold int64? ofInt64
  simp only
  rw [if_pos ⟨h₁, h₂⟩, Int64.ofInt_toInt]

end Rollout.Json
