/-
What a change at the end of a path leaves alone. Apart from the places that are written, a value is as it was
(`Spares`), only that what lies on the way to such a place may have become an object. A change of one member of an
object spares all but that (`spares_update`), and so does a patch (`spares_merge_nested`).
-/
import Rollout.Proofs.Json.Update

namespace Rollout.Json

variable {written written' : List String → Prop} {j j' j'' : Json} {f : Json → Json}

/-- Apart from what stands at the written places, the second value is as the first; what lies on the way to such a
place may have become an object. -/
def Spares (written : List String → Prop) (j j' : Json) : Prop :=
  ∀ path, (∀ place, written place → ¬ place <+: path) → j'.path? path = j.path? path ∨
    (∃ place, written place ∧ path <+: place) ∧ ∃ members, j'.path? path = some (.obj members)

theorem Spares.refl (written : List String → Prop) (j : Json) : Spares written j j := fun _ _ => .inl rfl

theorem Spares.mono (h : Spares written j j') (hw : ∀ place, written place → written' place) :
    Spares written' j j' := fun path hpath =>
  (h path fun place hplace => hpath place (hw place hplace)).imp_right fun ⟨⟨place, hplace, hway⟩, hobj⟩ =>
    ⟨⟨place, hw place hplace, hway⟩, hobj⟩

theorem Spares.trans (h₁ : Spares written j j') (h₂ : Spares written j' j'') : Spares written j j'' := by
  intro path hpath
  rcases h₂ path hpath with hsame | hway
  · rw [hsame]
    exact h₁ path hpath
  · exact .inr hway

/-- Where nothing written is at, above or below, a value is spared. -/
theorem Spares.path?_eq (h : Spares written j j') {path : List String}
    (hpath : ∀ place, written place → ¬ place <+: path ∧ ¬ path <+: place) : j'.path? path = j.path? path :=
  (h path fun place hplace => (hpath place hplace).1).resolve_right fun ⟨⟨place, hplace, hway⟩, _⟩ =>
    (hpath place hplace).2 hway

/-- A change of one member of an object spares all but that. -/
theorem spares_update {key : String} (hf : ∀ members, Assoc.Ordered members → ∀ k, k ≠ key →
    (f (obj members)).get? k = members.lookup k) (hobj : ∀ members, ∃ members', f (obj members) = obj members')
    (place : List String) (hj : j.Ordered) : Spares (· = place ++ [key]) j (j.update f place) := by
  intro path hbelow
  have hbelow' : ¬ place ++ [key] <+: path := hbelow _ rfl
  by_cases habove : path <+: place ++ [key]
  · -- the path leads to an object on the way
    refine .inr ⟨⟨_, rfl, habove⟩, ?_⟩
    rcases List.prefix_concat_iff.1 habove with rfl | ⟨rest, rfl⟩
    · exact absurd (List.prefix_refl _) hbelow'
    · rw [path?_update_append]
      cases rest with
      | nil =>
        obtain ⟨members', h⟩ := hobj ((j.path? path).getD .null).membersOrNone
        exact ⟨members', congrArg some h⟩
      | cons first rest => exact ⟨_, rfl⟩
  · exact .inl (path?_update_apart hf place hj habove hbelow')

/-- So does a patch of one member. -/
theorem spares_merge_nested {changes : List (String × Json)} (hc : Assoc.Ordered changes) {key : String}
    (hkey : ∀ k, k ≠ key → changes.lookup k = none) (place : List String) (hj : j.Ordered) :
    Spares (· = place ++ [key]) j (merge (nested place (obj changes)) j) := by
  rw [merge_nested]
  refine spares_update (fun members hm k hk => ?_) (fun _ => ⟨_, rfl⟩) place hj
  rw [merge_obj, membersOrNone_obj]
  refine (lookup_mergeMembers k hc hm).trans ?_
  rw [hkey k hk]

/-- The members of a patch are merged one after another. -/
theorem merge_cons (e : String × Json) (rest : List (String × Json)) (j : Json) :
    merge (obj (e :: rest)) j = merge (obj rest) (merge (obj [e]) j) := by
  obtain ⟨key, change⟩ := e
  by_cases hn : change = .null
  · subst hn
    rfl
  · simp only [merge_obj, membersOrNone_obj, mergeMembers_cons hn, mergeMembers_nil]

end Rollout.Json
