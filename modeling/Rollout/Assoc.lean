/-
Finite maps from texts as association lists in strictly increasing key order. Main statements:
`lookup_insert` and `lookup_erase` say what the two operations do to the view `List.lookup`,
both keep the order, and two ordered lists with the same view are equal (`Ordered.ext`).
-/
namespace Rollout.Assoc

variable {α : Type}

/-- Puts `value` under `key` at its place in the order, replacing what was there. -/
def insert (key : String) (value : α) : List (String × α) → List (String × α)
  | [] => [(key, value)]
  | (k, v) :: rest =>
    if key < k then (key, value) :: (k, v) :: rest
    else if key = k then (key, value) :: rest
    else (k, v) :: insert key value rest

/-- Removes the entry under `key`, if there is one. -/
def erase (key : String) : List (String × α) → List (String × α)
  | [] => []
  | (k, v) :: rest => if key = k then rest else (k, v) :: erase key rest

/-- The map with the given entries; of two entries under one key the later counts. -/
def ofList (entries : List (String × α)) : List (String × α) :=
  entries.foldl (fun map entry => insert entry.1 entry.2 map) []

/-- The keys stand in strictly increasing order, so no key stands twice. -/
def Ordered (entries : List (String × α)) : Prop :=
  entries.Pairwise (fun a b => a.1 < b.1)

instance (entries : List (String × α)) : Decidable (Ordered entries) :=
  inferInstanceAs (Decidable (entries.Pairwise _))

/-! ## The view -/

@[simp] theorem lookup_insert (key : String) (value : α) (entries : List (String × α))
    (k : String) :
    (insert key value entries).lookup k = if k = key then some value else entries.lookup k := by
  induction entries with
  | nil => simp [insert, List.lookup_cons]; grind
  | cons entry rest ih =>
    obtain ⟨k', v'⟩ := entry
    simp only [insert]
    split
    · simp [List.lookup_cons]; grind
    · split
      · simp [List.lookup_cons]; grind
      · simp only [List.lookup_cons, ih]; grind

theorem mem_insert {key : String} {value : α} {entries : List (String × α)} {e : String × α}
    (h : e ∈ insert key value entries) : e = (key, value) ∨ e ∈ entries := by
  induction entries with
  | nil => exact .inl (List.mem_singleton.1 h)
  | cons entry rest ih =>
    simp only [insert] at h
    split at h
    · exact List.mem_cons.1 h
    · split at h
      · simp only [List.mem_cons] at h ⊢; grind
      · simp only [List.mem_cons] at h ⊢; grind

theorem mem_of_mem_erase {key : String} {entries : List (String × α)} {e : String × α}
    (h : e ∈ erase key entries) : e ∈ entries := by
  induction entries with
  | nil => exact h
  | cons entry rest ih =>
    simp only [erase] at h
    split at h
    · exact List.mem_cons_of_mem _ h
    · simp only [List.mem_cons] at h ⊢; grind

theorem lookup_eq_none {entries : List (String × α)} {k : String} (h : ∀ e ∈ entries, k ≠ e.1) :
    entries.lookup k = none :=
  List.lookup_eq_none_iff.2 fun e he => by simpa using h e he

theorem lookup_erase {entries : List (String × α)} (h : entries.Pairwise fun a b => a.1 < b.1)
    (key k : String) :
    (erase key entries).lookup k = if k = key then none else entries.lookup k := by
  induction entries with
  | nil => simp [erase]
  | cons entry rest ih =>
    obtain ⟨hhead, hrest⟩ := List.pairwise_cons.1 h
    obtain ⟨k', v'⟩ := entry
    simp only [erase]
    split
    · rename_i heq
      by_cases hk : k = key
      · subst hk; subst heq
        simpa using lookup_eq_none fun e he heq => String.lt_irrefl _ (heq ▸ hhead e he)
      · have : (k == k') = false := by simpa using fun h => hk (h.trans heq.symm)
        simp [List.lookup_cons, this, hk]
    · rename_i hne
      simp only [List.lookup_cons, ih hrest]
      grind

/-! ## The order -/

theorem Ordered.insert {entries : List (String × α)} (h : Ordered entries) (key : String)
    (value : α) : Ordered (insert key value entries) := by
  induction entries with
  | nil => simp [Assoc.insert, Ordered]
  | cons entry rest ih =>
    obtain ⟨k, v⟩ := entry
    obtain ⟨hhead, hrest⟩ := List.pairwise_cons.1 h
    simp only [Assoc.insert]
    split
    · rename_i hlt
      refine List.pairwise_cons.2 ⟨fun e he => ?_, h⟩
      rcases List.mem_cons.1 he with rfl | he
      · exact hlt
      · exact String.lt_trans hlt (hhead e he)
    · split
      · rename_i heq
        subst heq
        exact List.pairwise_cons.2 ⟨hhead, hrest⟩
      · rename_i hnlt hne
        refine List.pairwise_cons.2 ⟨fun e he => ?_, ih hrest⟩
        rcases mem_insert he with rfl | he
        · exact Std.lt_of_le_of_ne (String.not_lt.1 hnlt) (Ne.symm hne)
        · exact hhead e he

theorem Ordered.erase {entries : List (String × α)} (h : Ordered entries) (key : String) :
    Ordered (erase key entries) := by
  induction entries with
  | nil => exact h
  | cons entry rest ih =>
    obtain ⟨hhead, hrest⟩ := List.pairwise_cons.1 h
    simp only [Assoc.erase]
    split
    · exact hrest
    · exact List.pairwise_cons.2 ⟨fun e he => hhead e (mem_of_mem_erase he), ih hrest⟩

theorem ordered_ofList (entries : List (String × α)) : Ordered (ofList entries) := by
  suffices ∀ (map : List (String × α)), Ordered map →
      Ordered (entries.foldl (fun map entry => Assoc.insert entry.1 entry.2 map) map) from
    this [] List.Pairwise.nil
  induction entries with
  | nil => exact fun map h => h
  | cons entry rest ih => exact fun map h => ih _ (h.insert _ _)

/-- An ordered map is determined by its view. -/
theorem Ordered.ext {a b : List (String × α)} (ha : Ordered a) (hb : Ordered b)
    (h : ∀ k, a.lookup k = b.lookup k) : a = b := by
  induction a generalizing b with
  | nil =>
    rcases b with _ | ⟨⟨k', v'⟩, rest'⟩
    · rfl
    · simpa [List.lookup_cons] using h k'
  | cons e rest ih =>
    obtain ⟨k, v⟩ := e
    obtain ⟨hhead, hrest⟩ := List.pairwise_cons.1 ha
    rcases b with _ | ⟨⟨k', v'⟩, rest'⟩
    · simpa [List.lookup_cons] using h k
    · obtain ⟨hhead', hrest'⟩ := List.pairwise_cons.1 hb
      have absent : ∀ {x y : String} {l : List (String × α)}, (∀ e ∈ l, x < e.1) → y ≤ x →
          l.lookup y = none := fun hl hy =>
        lookup_eq_none fun e he heq => String.lt_irrefl _ (Std.lt_of_le_of_lt hy (heq ▸ hl e he))
      have hkey : k = k' := by
        by_cases hlt : k < k'
        · have : (k == k') = false := by simpa using fun heq => String.lt_irrefl _ (heq ▸ hlt)
          simpa [List.lookup_cons, this, absent hhead' (Std.le_of_lt hlt)] using h k
        · by_cases hgt : k' < k
          · have : (k' == k) = false := by simpa using fun heq => String.lt_irrefl _ (heq ▸ hgt)
            simpa [List.lookup_cons, this, absent hhead (Std.le_of_lt hgt)] using h k'
          · exact String.le_antisymm (String.not_lt.1 hgt) (String.not_lt.1 hlt)
      subst hkey
      have hval : v = v' := by simpa [List.lookup_cons] using h k
      subst hval
      congr 1
      refine ih hrest hrest' fun x => ?_
      by_cases hx : x = k
      · subst hx
        rw [absent hhead (String.le_refl _), absent hhead' (String.le_refl _)]
      · have : (x == k) = false := by simpa using hx
        simpa [List.lookup_cons, this] using h x

end Rollout.Assoc
