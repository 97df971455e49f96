/-
A text that is cut at a character, and trimmed. Cutting gives the only segments without that character that are the
text again once it is put between them (`isCut_iff`); trimming takes the blanks away on both sides, and nothing
else (`trim_eq_iff`).
-/
import Rollout.Text.Blank
import Mathlib.Data.List.DropRight
import Mathlib.Tactic

namespace Rollout.Text

/-! ## Cutting -/

/-- Characters are cut as lists are. -/
theorem splitOn_eq (sep : Char) (cs : List Char) : splitOn sep cs = cs.splitOn sep := by
  induction cs with
  | nil => rfl
  | cons c rest ih =>
    rw [splitOn, List.splitOn_cons_eq_if_modifyHead, ih]
    obtain ⟨part, parts, hparts⟩ := List.exists_cons_of_ne_nil (List.splitOn_ne_nil sep rest)
    simp [hparts]

theorem splitOn_ne_nil (sep : Char) (cs : List Char) : splitOn sep cs ≠ [] := by
  rw [splitOn_eq]; exact List.splitOn_ne_nil sep cs

theorem splitOn_of_not_mem {sep : Char} {cs : List Char} (h : sep ∉ cs) : splitOn sep cs = [cs] := by
  rw [splitOn_eq]; exact List.splitOn_eq_singleton h

/-- What stands on both sides of a separator is cut by itself. -/
theorem splitOn_append (sep : Char) (rest cs : List Char) :
    splitOn sep (cs ++ sep :: rest) = splitOn sep cs ++ splitOn sep rest := by
  simp only [splitOn_eq, List.splitOn_append_cons_self]

/-- No separator is left in a part. -/
theorem not_mem_of_mem_splitOn {sep : Char} {cs part : List Char} (h : part ∈ splitOn sep cs) : sep ∉ part := by
  induction cs generalizing part with
  | nil => simp_all [splitOn]
  | cons c rest ih =>
    obtain ⟨first, parts, hparts⟩ := List.exists_cons_of_ne_nil (splitOn_ne_nil sep rest)
    rw [hparts] at ih
    rw [splitOn, hparts] at h
    split at h
    · rcases List.mem_cons.1 h with rfl | h
      · exact List.not_mem_nil
      · exact ih h
    · rename_i hc
      rcases List.mem_cons.1 h with rfl | h
      · rw [List.mem_cons, not_or]
        exact ⟨Ne.symm hc, ih List.mem_cons_self⟩
      · exact ih (List.mem_cons_of_mem _ h)

/-- The segments of a text between its separators: none holds one, and with one put between each two they are the
text. -/
structure IsCut (sep : Char) (text : String) (segments : List String) : Prop where
  ne_nil : segments ≠ []
  whole : ∀ segment ∈ segments, sep ∉ segment.toList
  joined : (String.singleton sep).intercalate segments = text

/-- Every text is cut into its segments, and in no other way. -/
theorem isCut_iff {sep : Char} {text : String} {segments : List String} :
    IsCut sep text segments ↔ (splitOn sep text.toList).map String.ofList = segments := by
  constructor
  · rintro ⟨hne, hwhole, rfl⟩
    have hcut : splitOn sep ((String.singleton sep).intercalate segments).toList = segments.map String.toList := by
      rw [splitOn_eq, String.toList_intercalate, String.toList_singleton]
      exact List.splitOn_intercalate sep (by simpa using hwhole) (by simpa using hne)
    rw [hcut, List.map_map]
    simp [Function.comp_def]
  · rintro rfl
    refine ⟨by simpa using splitOn_ne_nil sep _, ?_, ?_⟩
    · simp only [List.forall_mem_map, String.toList_ofList]
      exact fun part hpart => not_mem_of_mem_splitOn hpart
    · apply String.toList_injective
      rw [String.toList_intercalate, String.toList_singleton, List.map_map, splitOn_eq]
      simp [Function.comp_def, List.intercalate_splitOn]

theorem isCut_splitOn (sep : Char) (text : String) : IsCut sep text ((splitOn sep text.toList).map String.ofList) :=
  isCut_iff.2 rfl

/-! ## Trimming -/

/-- There is no blank at either end. -/
structure IsBare (s : String) : Prop where
  first : ∀ c rest, s.toList = c :: rest → isBlank c = false
  last : ∀ rest c, s.toList = rest ++ [c] → isBlank c = false

/-- The second text is what the first is between the blanks at its ends. -/
structure Trims (s t : String) : Prop where
  around : ∃ before after, s.toList = before ++ t.toList ++ after ∧ ∀ c ∈ before ++ after, isBlank c = true
  bare : IsBare t

theorem Trims.subset {s t : String} (h : Trims s t) : t.toList ⊆ s.toList := by
  obtain ⟨before, after, hs, -⟩ := h.around
  intro c hc
  simp [hs, hc]

theorem toList_trim (s : String) : (trim s).toList = (trimStart s.toList).rdropWhile isBlank := String.toList_ofList

/-- Blanks behind are gone once the end is trimmed. -/
theorem rdropWhile_append_blanks {cs blanks : List Char} (h : ∀ c ∈ blanks, isBlank c = true) :
    (cs ++ blanks).rdropWhile isBlank = cs.rdropWhile isBlank := by
  rw [List.rdropWhile, List.rdropWhile, List.reverse_append]
  rw [List.dropWhile_append_of_pos fun c hc => h c (List.mem_reverse.1 hc)]

theorem isBare_trim (s : String) : IsBare (trim s) where
  first c rest h := by
    -- what stands first is what stood first before the end was trimmed
    obtain ⟨behind, hbehind⟩ := List.rdropWhile_prefix isBlank (trimStart s.toList)
    rw [← toList_trim, h] at hbehind
    have hfirst := List.head?_dropWhile_not isBlank s.toList
    rw [← trimStart, ← hbehind] at hfirst
    exact hfirst
  last rest c h := by
    rw [toList_trim] at h
    have hlast := List.rdropWhile_last_not isBlank (trimStart s.toList) (by simp [h])
    simpa [h] using hlast

/-- Trimming is the only way to get there. -/
theorem trim_eq_iff {s t : String} : trim s = t ↔ Trims s t := by
  constructor
  · rintro rfl
    refine ⟨⟨s.toList.takeWhile isBlank, (trimStart s.toList).rtakeWhile isBlank, ?_, ?_⟩, isBare_trim s⟩
    · rw [toList_trim, List.append_assoc, List.rdropWhile_append_rtakeWhile]
      exact List.takeWhile_append_dropWhile.symm
    · intro c hc
      rcases List.mem_append.1 hc with hc | hc
      · exact List.mem_takeWhile_imp hc
      · exact List.mem_rtakeWhile_imp hc
  · rintro ⟨⟨before, after, hs, hblank⟩, hbare⟩
    have hbefore : ∀ c ∈ before, isBlank c = true := fun c hc => hblank c (List.mem_append_left _ hc)
    have hafter : ∀ c ∈ after, isBlank c = true := fun c hc => hblank c (List.mem_append_right _ hc)
    apply String.toList_injective
    rw [toList_trim, hs, List.append_assoc, trimStart, List.dropWhile_append_of_pos hbefore]
    cases ht : t.toList with
    | nil =>
      rw [List.nil_append, List.rdropWhile_eq_nil_iff]
      exact fun c hc => hafter c (List.dropWhile_subset _ hc)
    | cons c rest =>
      have hc : ¬ isBlank c = true := by simp [hbare.first c rest ht]
      rw [List.cons_append, List.dropWhile_cons_of_neg hc, ← List.cons_append, rdropWhile_append_blanks hafter, ← ht,
        List.rdropWhile_eq_self_iff]
      intro hne
      simp [hbare.last _ _ (List.dropLast_append_getLast hne).symm]

theorem trims_trim (s : String) : Trims s (trim s) := trim_eq_iff.1 rfl

/-- A bare text is not changed. -/
theorem IsBare.trim_eq {s : String} (h : IsBare s) : trim s = s :=
  trim_eq_iff.2 ⟨⟨[], [], by simp, by simp⟩, h⟩

end Rollout.Text
