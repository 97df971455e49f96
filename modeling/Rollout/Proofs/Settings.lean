/-
Settings that a lookup gives, whatever texts it finds. What a text lists is said of the text alone (`Settings.Lists`),
and is one list of labels (`Settings.lists_iff`); labels that are written as a list are read as themselves
(`Settings.labels_join`). Main statement: `Settings.ofLookup_usable`, there are always labels and a few attempts, so
that an update under these settings reads the store at least once and at most five times.
-/
import Rollout.Settings
import Rollout.Proofs.Status.Attempts
import Rollout.Proofs.Text.Segments

namespace Rollout

open Program

namespace Settings

/-! ## Labels -/

/-- A text that can stand in a list of labels and be read from it as it is. -/
structure IsLabel (label : String) : Prop where
  ne_empty : label ≠ ""
  whole : ',' ∉ label.toList
  bare : Text.IsBare label

/-- The labels that a text lists: its segments between commas, each trimmed, and those of them that are not empty. -/
def Lists (text : String) (found : List String) : Prop :=
  ∃ segments trimmed, Text.IsCut ',' text segments ∧ List.Forall₂ Text.Trims segments trimmed ∧
    found = trimmed.filter (· ≠ "")

theorem labels_eq {text : String} {segments : List String} (h : Text.IsCut ',' text segments) :
    labels text = (segments.map Text.trim).filter (· ≠ "") := by
  rw [← Text.isCut_iff.1 h, List.map_map]
  rfl

/-- A text lists the labels that are read from it, and no others. -/
theorem lists_iff {text : String} {found : List String} : Lists text found ↔ found = labels text := by
  constructor
  · rintro ⟨segments, trimmed, hcut, htrims, rfl⟩
    have htrimmed : segments.map Text.trim = trimmed := by
      rw [← List.forall₂_eq_eq_eq, List.forall₂_map_left_iff]
      exact htrims.imp fun _ _ h => Text.trim_eq_iff.2 h
    rw [labels_eq hcut, htrimmed]
  · rintro rfl
    have hcut := Text.isCut_splitOn ',' text
    refine ⟨_, _, hcut, ?_, labels_eq hcut⟩
    rw [List.forall₂_map_right_iff, List.forall₂_same]
    exact fun segment _ => Text.trims_trim segment

/-- What is read from a text can stand in a list again. -/
theorem isLabel_of_mem_labels {text label : String} (h : label ∈ labels text) : IsLabel label := by
  have hcut := Text.isCut_splitOn ',' text
  rw [labels_eq hcut, List.mem_filter, List.mem_map] at h
  obtain ⟨⟨segment, hsegment, rfl⟩, hne⟩ := h
  have htrims := Text.trims_trim segment
  exact ⟨by simpa using hne, fun hmem => hcut.whole segment hsegment (htrims.subset hmem), htrims.bare⟩

/-- Labels that are written as a list are read as they are. -/
theorem labels_join {found : List String} (hne : found ≠ []) (h : ∀ label ∈ found, IsLabel label) :
    labels (",".intercalate found) = found := by
  have hcut : Text.IsCut ',' (",".intercalate found) found := ⟨hne, fun label hl => (h label hl).whole, rfl⟩
  have htrim : found.map Text.trim = found :=
    (List.map_congr_left fun label hl => (h label hl).bare.trim_eq).trans (List.map_id found)
  rw [labels_eq hcut, htrim, List.filter_eq_self]
  exact fun label hl => by simpa using (h label hl).ne_empty

/-- The default labels are what a text lists. -/
theorem isLabel_of_mem_default {label : String} (h : label ∈ default.selectorLabels) : IsLabel label := by
  have hdefault : labels "app,name,app.kubernetes.io/name" = default.selectorLabels := by decide
  rw [← hdefault] at h
  exact isLabel_of_mem_labels h

/-! ## Lookups -/

section Lookup

variable (lookup : String → Option String)

/-- The labels of a lookup are those that its text lists, or the default ones if it lists none. -/
theorem selectorLabels_ofLookup {text : String} (h : lookup "KULTA_SELECTOR_LABELS" = some text) :
    (ofLookup lookup).selectorLabels = if labels text = [] then default.selectorLabels else labels text := by
  unfold ofLookup
  simp only [h, Option.map_some]
  split_ifs with hnone <;> simp [hnone, Option.filter]

theorem selectorLabels_ofLookup_none (h : lookup "KULTA_SELECTOR_LABELS" = none) :
    (ofLookup lookup).selectorLabels = default.selectorLabels := by
  unfold ofLookup
  simp [h]

/-- Wherever the labels come from, there are some, and each can stand in a list. -/
theorem isLabel_ofLookup : (ofLookup lookup).selectorLabels ≠ [] ∧
    ∀ label ∈ (ofLookup lookup).selectorLabels, IsLabel label := by
  have hdefault : default.selectorLabels ≠ [] ∧ ∀ label ∈ default.selectorLabels, IsLabel label :=
    ⟨List.cons_ne_nil _ _, fun _ => isLabel_of_mem_default⟩
  cases htext : lookup "KULTA_SELECTOR_LABELS" with
  | none => rwa [selectorLabels_ofLookup_none lookup htext]
  | some text =>
    rw [selectorLabels_ofLookup lookup htext]
    split_ifs with hnone
    · exact hdefault
    · exact ⟨hnone, fun _ => isLabel_of_mem_labels⟩

theorem statusAttempts_ofLookup : 3 ≤ (ofLookup lookup).statusAttempts ∧ (ofLookup lookup).statusAttempts ≤ 5 := by
  show 3 ≤ Option.getD _ 5 ∧ Option.getD _ 5 ≤ 5
  cases (lookup "KULTA_STATUS_RETRY_ATTEMPTS").bind number? with
  | none => decide
  | some n =>
    show 3 ≤ max 3 (min n 5) ∧ max 3 (min n 5) ≤ 5
    omega

end Lookup

/-! ## Usable settings -/

/-- Settings under which the controllers can work. -/
structure Usable (settings : Settings) : Prop where
  labels_ne_nil : settings.selectorLabels ≠ []
  isLabel : ∀ label ∈ settings.selectorLabels, IsLabel label
  /-- Written as a list, the labels are read as they are. -/
  relisted : labels (",".intercalate settings.selectorLabels) = settings.selectorLabels
  attempts : 3 ≤ settings.statusAttempts ∧ settings.statusAttempts ≤ 5
  /-- However it is answered, an update reads the canary, and not more than five times. -/
  reads : ∀ (c : Canary) (delta : StatusDelta) (log : List (Exchange Cluster.interface))
    (r : Except ControllerError Canary), Trace (c.updateStatus settings delta).run log r →
    1 ≤ (log.filterMap Exchange.read?).length ∧ (log.filterMap Exchange.read?).length ≤ 5

/-- Every lookup gives settings that are usable; and a text for the labels lists just one list of them, which is taken
unless it is empty. -/
theorem ofLookup_usable (lookup : String → Option String) : (ofLookup lookup).Usable ∧
    ∀ text, lookup "KULTA_SELECTOR_LABELS" = some text →
      ∃ found, (∀ listed, Lists text listed ↔ listed = found) ∧
        (ofLookup lookup).selectorLabels = if found = [] then default.selectorLabels else found := by
  obtain ⟨hne, hlabels⟩ := isLabel_ofLookup lookup
  have hattempts := statusAttempts_ofLookup lookup
  refine ⟨⟨hne, hlabels, labels_join hne hlabels, hattempts, fun c delta log r htrace => ?_⟩, fun text htext => ?_⟩
  · have h := trace_updateAttempts_iff.1 htrace
    exact ⟨h.reads_pos (by omega), h.reads_le.trans (by omega)⟩
  · exact ⟨labels text, fun _ => lists_iff, selectorLabels_ofLookup lookup htext⟩

/-- A lookup with blanks of several kinds in its texts, and too many attempts. -/
def spacedLookup (key : String) : Option String :=
  if key = "KULTA_SELECTOR_LABELS" then some "\u3000app.oam.dev/name\u00a0, app ,,"
  else if key = "KULTA_STATUS_RETRY_ATTEMPTS" then some "\u2003+50\n"
  else none

/-- Two labels are left of four segments. -/
theorem ofLookup_usable_spaced : ofLookup spacedLookup = ⟨["app.oam.dev/name", "app"], 5, 10⟩ ∧
    Lists "\u3000app.oam.dev/name\u00a0, app ,," ["app.oam.dev/name", "app"] ∧
    labels "app.oam.dev/name,app" = ["app.oam.dev/name", "app"] := by
  have hsettings : ofLookup spacedLookup = ⟨["app.oam.dev/name", "app"], 5, 10⟩ := by decide
  obtain ⟨husable, hlists⟩ := ofLookup_usable spacedLookup
  obtain ⟨found, hfound, htaken⟩ := hlists _ rfl
  rw [hsettings] at husable htaken
  refine ⟨hsettings, (hfound _).2 ?_, husable.relisted⟩
  split_ifs at htaken with hnone
  · exact absurd htaken (by decide)
  · exact htaken

end Settings

end Rollout
