/-
Paths that lead to what they are made for. In a plain reference nothing ends a path or cuts it, and nothing is written
as a code (`IsPlainRef`); where an object under such a reference is asked for by a plain name of its kind, the server
finds under the path the part of it that was meant (`IsPlainRef.ofPath?`), and under that of a plain version its kinds
(`IsVersion.ofPath?`).
-/
import Rollout.Api.Client
import Rollout.Proofs.Text.Segments
import Mathlib.Data.List.TakeWhile
import Mathlib.Tactic

namespace Rollout

namespace Api

/-! ## Plain references -/

/-- No query and no fragment begins in the text. -/
def IsUncut (s : String) : Prop := ∀ c ∈ s.toList, c ≠ '?' ∧ c ≠ '#'

instance (s : String) : Decidable (IsUncut s) := List.decidableBAll (fun c => c ≠ '?' ∧ c ≠ '#') s.toList

theorem isUncut_append {s t : String} : IsUncut (s ++ t) ↔ IsUncut s ∧ IsUncut t := by
  unfold IsUncut
  rw [String.toList_append, List.forall_mem_append]

/-- The text stands for itself in a path: it does not end there, it is not more than one segment, and no character of it
is written as a code, which would begin with a percent sign. -/
def IsPlain (s : String) : Prop := ∀ c ∈ s.toList, c ≠ '/' ∧ c ≠ '?' ∧ c ≠ '#' ∧ c ≠ '%'

instance (s : String) : Decidable (IsPlain s) :=
  List.decidableBAll (fun c => c ≠ '/' ∧ c ≠ '?' ∧ c ≠ '#' ∧ c ≠ '%') s.toList

/-- A plain version of the core group, or of a group. -/
inductive IsVersion : String → Prop
  | core {version : String} : IsPlain version → IsVersion version
  | ofGroup {group version : String} : group ≠ "" → IsPlain group → IsPlain version →
      IsVersion (group ++ "/" ++ version)

/-- Nothing in the reference ends a path or cuts it, or is written as a code. -/
structure IsPlainRef (ref : WorkloadRef) : Prop where
  version : IsVersion ref.apiVersion
  ns : IsPlain ref.ns
  name : IsPlain ref.name

/-- The segment that names a part. -/
def Part.word? : Part → Option String
  | .whole => none
  | .status => some "status"
  | .scale => some "scale"

theorem IsPlain.not_slash {s : String} (h : IsPlain s) : '/' ∉ s.toList := fun hmem => (h _ hmem).1 rfl

theorem IsPlain.uncut {s : String} (h : IsPlain s) : IsUncut s := fun c hc => ⟨(h c hc).2.1, (h c hc).2.2.1⟩

/-! ## What reaches the server -/

/-- A list is cut where its first part ends. -/
theorem span_append {p : Char → Bool} {cs rest : List Char} (h : ∀ c ∈ cs, p c = true)
    (hrest : ∀ c ∈ rest.head?, p c = false) : (cs ++ rest).span p = (cs, rest) := by
  rw [List.span_eq_takeWhile_dropWhile, List.takeWhile_append_of_pos h, List.dropWhile_append_of_pos h]
  cases rest with
  | nil => rw [List.takeWhile_nil, List.dropWhile_nil, List.append_nil]
  | cons c rest =>
    have hc : ¬ p c = true := by simpa using hrest c rfl
    rw [List.takeWhile_cons_of_neg hc, List.dropWhile_cons_of_neg hc, List.append_nil]

/-- A list without an end is not cut. -/
theorem span_self {p : Char → Bool} {cs : List Char} (h : ∀ c ∈ cs, p c = true) : cs.span p = (cs, []) := by
  rw [List.span_eq_takeWhile_dropWhile, List.takeWhile_eq_self_iff.2 h, List.dropWhile_eq_nil_iff.2 h]

/-- A target in which nothing begins a query or a fragment is sent as it is. -/
theorem Sent.path_eq {target : String} {sent : Sent} (h : IsUncut target)
    (hsent : Sent.ofTarget? target = some sent) : sent.path = target := by
  unfold Sent.ofTarget? at hsent
  have hspan : (target.toList.span fun c => c != '?' && c != '#') = (target.toList, []) :=
    span_self fun c hc => by simpa using h c hc
  rw [hspan] at hsent
  dsimp only at hsent
  split at hsent
  · cases hsent
    exact String.ofList_toList
  · cases hsent

/-! ## What plain references name -/

variable {a : Address} {version : String}

theorem IsPlain.splitOn {s : String} (h : IsPlain s) : Text.splitOn '/' s.toList = [s.toList] :=
  Text.splitOn_of_not_mem h.not_slash

theorem IsVersion.cases (h : IsVersion version) :
    (IsPlain version ∧ versionPath version = "/api/" ++ version) ∨
      ∃ group name, IsPlain group ∧ IsPlain name ∧ version = group ++ "/" ++ name ∧
        versionPath version = "/apis/" ++ version := by
  cases h with
  | core hplain =>
    refine .inl ⟨hplain, ?_⟩
    have hspan : version.toList.span (· ≠ '/') = (version.toList, []) :=
      span_self (by simpa using fun c hc => (hplain c hc).1)
    unfold versionPath WorkloadRef.splitVersion
    rw [hspan]
    rfl
  | @ofGroup group name hne hgroup hname =>
    refine .inr ⟨group, name, hgroup, hname, rfl, ?_⟩
    have hlist : (group ++ "/" ++ name).toList = group.toList ++ '/' :: name.toList := by simp
    have hspan : (group ++ "/" ++ name).toList.span (· ≠ '/') = (group.toList, '/' :: name.toList) := by
      rw [hlist]
      exact span_append (by simpa using fun c hc => (hgroup c hc).1) (by simp)
    unfold versionPath WorkloadRef.splitVersion
    rw [hspan]
    dsimp only
    rw [String.ofList_toList, if_neg hne]

/-- Behind the path of a plain version the server finds what stands in that version. -/
theorem IsVersion.ofSegments? (h : IsVersion version) (rest : List String) :
    Place.ofSegments? ((Text.splitOn '/' (versionPath version).toList).map String.ofList ++ rest) =
      Place.inVersion? version rest := by
  rcases h.cases with ⟨hplain, hpath⟩ | ⟨group, name, hgroup, hname, rfl, hpath⟩
  · have hlist : (versionPath version).toList = [] ++ '/' :: ("api".toList ++ '/' :: version.toList) := by
      rw [hpath]; simp
    rw [hlist, Text.splitOn_append, Text.splitOn_append, hplain.splitOn]
    simp only [List.map_append, List.map_cons, List.map_nil, String.ofList_toList]
    rfl
  · have hlist : (versionPath (group ++ "/" ++ name)).toList =
        [] ++ '/' :: ("apis".toList ++ '/' :: (group.toList ++ '/' :: name.toList)) := by
      rw [hpath]; simp
    rw [hlist, Text.splitOn_append, Text.splitOn_append, Text.splitOn_append, hgroup.splitOn, hname.splitOn]
    simp only [List.map_append, List.map_cons, List.map_nil, String.ofList_toList]
    rfl

theorem IsVersion.uncut (h : IsVersion version) : IsUncut (versionPath version) := by
  rcases h.cases with ⟨hversion, hpath⟩ | ⟨group, name, hgroup, hname, rfl, hpath⟩
  · rw [hpath, isUncut_append]
    exact ⟨by decide, hversion.uncut⟩
  · rw [hpath]
    simp only [isUncut_append]
    exact ⟨by decide, ⟨hgroup.uncut, by decide⟩, hname.uncut⟩

/-- Under the path of a plain version the server finds the kinds of that version. -/
theorem IsVersion.ofPath? (h : IsVersion version) {sent : Sent} (hsent : kindsTarget? version = some sent) :
    Place.ofPath? sent.path = some (.kinds version) := by
  rw [Sent.path_eq h.uncut hsent]
  unfold Place.ofPath?
  rw [← List.append_nil (List.map _ _), h.ofSegments?]
  rfl

theorem toList_objectPath (a : Address) : (objectPath a).toList =
    (versionPath a.resource.apiVersion).toList ++ '/' :: ("namespaces".toList ++
      '/' :: (a.ns.toList ++ '/' :: (a.resource.plural.toList ++ '/' :: a.name.toList))) := by
  unfold objectPath collectionPath
  simp

theorem toList_partPath (a : Address) (part : Part) : (partPath a part).toList =
    (objectPath a).toList ++ (part.word?.elim [] fun word => '/' :: word.toList) := by
  cases part <;> simp [partPath, Part.word?]

theorem IsPlainRef.uncut (h : IsPlainRef a.ref) (hplural : IsPlain a.resource.plural) (part : Part) :
    IsUncut (partPath a part) := by
  have hversion : IsUncut (versionPath a.resource.apiVersion) := h.version.uncut
  have hobject : IsUncut (objectPath a) := by
    unfold objectPath collectionPath
    simp only [isUncut_append]
    exact ⟨⟨⟨⟨⟨⟨hversion, by decide⟩, h.ns.uncut⟩, by decide⟩, hplural.uncut⟩, by decide⟩, h.name.uncut⟩
  cases part with
  | whole => exact hobject
  | status | scale => exact isUncut_append.2 ⟨hobject, by decide⟩

/-- Under the path of a part of a plain reference, asked for by a plain name of its kind, the server finds that part of
the object. -/
theorem IsPlainRef.ofPath? (h : IsPlainRef a.ref) (hplural : IsPlain a.resource.plural) {part : Part} {sent : Sent}
    (hsent : objectTarget? a part = some sent) : Place.ofPath? sent.path =
      some (.object a.resource.apiVersion a.resource.plural a.ns a.name part.word?) := by
  unfold objectTarget? at hsent
  split at hsent
  · cases hsent
  · rw [Sent.path_eq (h.uncut hplural part) hsent]
    unfold Place.ofPath?
    have hns : Text.splitOn '/' a.ns.toList = [a.ns.toList] := h.ns.splitOn
    have hversion : IsVersion a.resource.apiVersion := h.version
    have hsegments : (Text.splitOn '/' (partPath a part).toList).map String.ofList =
        (Text.splitOn '/' (versionPath a.resource.apiVersion).toList).map String.ofList ++
          ("namespaces" :: a.ns :: a.resource.plural :: a.name :: part.word?.toList) := by
      have hname : Text.splitOn '/' (a.name.toList ++ part.word?.elim [] fun word => '/' :: word.toList) =
          a.name.toList :: part.word?.toList.map String.toList := by
        have hwhole : Text.splitOn '/' a.name.toList = [a.name.toList] := h.name.splitOn
        cases part with
        | whole => exact (congrArg (Text.splitOn '/') (List.append_nil _)).trans hwhole
        | status | scale => exact (Text.splitOn_append ..).trans (by rw [hwhole]; rfl)
      rw [toList_partPath, toList_objectPath]
      simp only [List.append_assoc, List.cons_append, Text.splitOn_append, hns, hplural.splitOn, hname]
      cases part <;> simp [Text.splitOn_of_not_mem, Part.word?]
    rw [hsegments, hversion.ofSegments?]
    cases part <;> rfl

end Api

end Rollout
