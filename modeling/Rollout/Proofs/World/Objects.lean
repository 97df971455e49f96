/-
Stored objects and the patches that servers merge into them. A patch and the version that comes with it
concern the members that the patch names and the version alone: an object that can be read stays one
(`Readable.patched`), and what it holds in its specification is what the patch makes of that
(`path?_stamped`, `path?_merge_spec`).
-/
import Rollout.Proofs.Status.Patch
import Rollout.Proofs.Workload.Change

namespace Rollout

open Json

/-! ## The store -/

namespace Store

theorem lookup_place (ref : WorkloadRef) (object : Json) (k : WorkloadRef) :
    ∀ objects : List (WorkloadRef × Json),
      (place ref object objects).lookup k = if k = ref then some object else objects.lookup k
  | [] => by
    rw [place, List.lookup_cons]
    by_cases hk : k = ref
    · simp [hk]
    · have hne : (k == ref) = false := by simpa using hk
      simp [hk, hne]
  | (r, o) :: rest => by
    have ih := lookup_place ref object k rest
    rw [place]
    by_cases hk : k = ref
    · subst hk
      split
      · simp
      · split
        · simp
        · rename_i hr _
          have hne : (k == r) = false := by simpa using hr
          rw [List.lookup_cons, hne, ih]; simp
    · have hne : (k == ref) = false := by simpa using hk
      rw [if_neg hk] at ih ⊢
      split
      · rename_i hr
        subst hr
        simp [List.lookup_cons, hne]
      · split
        · rw [List.lookup_cons, hne]
        · rw [List.lookup_cons, List.lookup_cons, ih]

theorem get?_put (s : Store) (ref : WorkloadRef) (object : Json) (k : WorkloadRef) :
    (s.put ref object).get? k = if k = ref then some (stamped (s.version + 1) object) else s.get? k :=
  lookup_place ref _ k s.objects

/-! ## Versions -/

/-- The members have these metadata, none if there are none. -/
def Described (members metadata : List (String × Json)) : Prop :=
  (members.lookup "metadata").getD (.obj []) = .obj metadata

theorem Described.ordered {members metadata : List (String × Json)} (h : Described members metadata)
    (ho : (obj members).Ordered) : (obj metadata).Ordered := by
  rw [← show _ = obj metadata from h]
  cases hl : members.lookup "metadata" with
  | none => exact ordered_obj_iff.2 ⟨List.Pairwise.nil, by simp⟩
  | some j => exact (ordered_obj_iff.1 ho).2 _ (mem_of_lookup hl)

theorem Described.stamped {members metadata : List (String × Json)} (h : Described members metadata) (version : Nat) :
    Store.stamped version (.obj members) = .obj (Assoc.insert "metadata"
      (.obj (Assoc.insert "resourceVersion" (.str (toString version)) metadata)) members) := by
  unfold Store.stamped
  dsimp only
  rw [show _ = obj metadata from h]

theorem get?_stamped (version : Nat) {key : String} (hkey : key ≠ "metadata") (j : Json) :
    (stamped version j).get? key = j.get? key := by
  cases j
  case obj members =>
    unfold stamped
    dsimp only
    split
    · show (Assoc.insert "metadata" _ members).lookup key = members.lookup key
      rw [Assoc.lookup_insert, if_neg hkey]
    · rfl
  all_goals rfl

theorem ordered_stamped {j : Json} (h : j.Ordered) (version : Nat) : (stamped version j).Ordered := by
  cases j
  case obj members =>
    unfold stamped
    dsimp only
    split
    · rename_i metadata hmetadata
      have hdescribed : Described members metadata := hmetadata
      exact h.set "metadata" ((hdescribed.ordered h).set "resourceVersion" trivial)
    · exact h
  all_goals exact h

theorem path?_stamped (version : Nat) {key : String} (hkey : key ≠ "metadata") (j : Json) (rest : List String) :
    (stamped version j).path? (key :: rest) = j.path? (key :: rest) := by
  rw [path?_cons, path?_cons, get?_stamped version hkey]

end Store

open Store

/-! ## Patches -/

section Patch

variable {changes members metadata : List (String × Json)}

/-- A patch that names no metadata but the version. -/
def NamesVersion (changes : List (String × Json)) : Prop :=
  changes.lookup "metadata" = none ∨ ∃ version, changes.lookup "metadata" = some (.obj [("resourceVersion", version)])

/-- A patch in order that names no metadata but the version, and comes through as text unchanged. -/
structure Sound (changes : List (String × Json)) : Prop where
  ordered : (obj changes).Ordered
  version : NamesVersion changes
  steady : (obj changes).Steady

/-- What is put after a patch of the same member takes its place. -/
theorem insert_mergeMembers (h : Assoc.Ordered members) (key : String) (named value : Json) :
    Assoc.insert key value (mergeMembers [(key, named)] members) = Assoc.insert key value members := by
  have hpatched : Assoc.Ordered (mergeMembers [(key, named)] members) := by
    by_cases hn : named = .null
    · subst hn; rw [mergeMembers_cons_null]; exact h.erase _
    · rw [mergeMembers_cons hn]; exact h.insert _ _
  refine (hpatched.insert _ _).ext (h.insert _ _) fun k => ?_
  rw [Assoc.lookup_insert, Assoc.lookup_insert]
  split
  · rfl
  · rename_i hk
    have hne : (k == key) = false := by simpa using hk
    rw [lookup_mergeMembers k (List.pairwise_singleton _ _) h, List.lookup_cons, hne]; rfl

/-- The version that comes with a patch takes the place of any that the patch names. -/
theorem stamped_merge (hc : Assoc.Ordered changes) (hv : NamesVersion changes) (ho : (obj members).Ordered)
    (h : Described members metadata) (version : Nat) :
    stamped version (merge (obj changes) (obj members)) = obj (Assoc.insert "metadata"
      (.obj (Assoc.insert "resourceVersion" (.str (toString version)) metadata)) (mergeMembers changes members)) := by
  have hmembers := (ordered_obj_iff.1 ho).1
  have hmetadata := (ordered_obj_iff.1 (h.ordered ho)).1
  have hmeta : (mergeMembers changes members).lookup "metadata" = _ := lookup_mergeMembers "metadata" hc hmembers
  rcases hv with hnone | ⟨named, hnamed⟩
  · rw [hnone] at hmeta
    have hdescribed : Described (mergeMembers changes members) metadata := by
      unfold Described
      rw [hmeta]; exact h
    exact hdescribed.stamped version
  · rw [hnamed] at hmeta
    simp only [changed?_obj, merge_obj] at hmeta
    have hfound : ((members.lookup "metadata").getD .null).membersOrNone = metadata := by
      unfold Described at h
      cases hl : members.lookup "metadata" with
      | none => rw [hl] at h; cases h; rfl
      | some j => rw [hl] at h; rw [show j = obj metadata from h]; rfl
    have hdescribed :
        Described (mergeMembers changes members) (mergeMembers [("resourceVersion", named)] metadata) := by
      unfold Described
      rw [hmeta, hfound]; rfl
    rw [merge_obj, membersOrNone_obj, hdescribed.stamped, insert_mergeMembers hmetadata]

/-- Under the specification a patch concerns what it names there. -/
theorem path?_merge_spec {spec : List (String × Json)} (hc : Assoc.Ordered changes)
    (hspec : changes.lookup "spec" = some (.obj spec)) (hs : Assoc.Ordered spec) {j : Json} (hj : j.Ordered)
    (key : String) (rest : List String) :
    (merge (obj changes) j).path? ("spec" :: key :: rest) =
      match spec.lookup key with
      | none => j.path? ("spec" :: key :: rest)
      | some change => (changed? change (j.path? ["spec", key])).bind (·.path? rest) := by
  rw [path?_cons, get?_merge hc hj, hspec]
  simp only [changed?_obj, Option.bind_some]
  rw [path?_cons, get?_merge hs hj.get?, path?_cons j, show ["spec", key] = ["spec"] ++ [key] from rfl, path?_append,
    path?_singleton]
  cases hj : j.get? "spec" with
  | none => cases spec.lookup key <;> rfl
  | some member => cases spec.lookup key <;> simp [path?_cons]

/-- A patch that names no specification leaves it. -/
theorem path?_merge_of_none (hc : Assoc.Ordered changes) (hspec : changes.lookup "spec" = none) {j : Json}
    (hj : j.Ordered) (rest : List String) :
    (merge (obj changes) j).path? ("spec" :: rest) = j.path? ("spec" :: rest) := by
  rw [path?_cons, get?_merge hc hj, hspec, path?_cons]

end Patch

/-! ## Metadata -/

namespace Metadata

/-- The members of written metadata, those that are left out as none. -/
def members (m : Metadata) : List (String × Option Json) := [
  ("name", m.name.map .str),
  ("generateName", m.generateName.map .str),
  ("namespace", m.ns.map .str),
  ("uid", m.uid.map .str),
  ("resourceVersion", m.resourceVersion.map .str),
  ("generation", m.generation.map ofInt64),
  ("labels", m.labels.map ofTexts),
  ("annotations", m.annotations.map ofTexts)]

theorem toJson_eq (m : Metadata) : m.toJson = .obj (membersOf m.members) := rfl

theorem lookup_members (m : Metadata) (k : String) : (membersOf m.members).lookup k = (m.members.lookup k).join := by
  refine lookup_membersOf ?_ k
  show ["name", "generateName", "namespace", "uid", "resourceVersion", "generation", "labels", "annotations"].Nodup
  decide

/-- Written metadata read as they were written. -/
theorem ofJson?_toJson (m : Metadata) : ofJson? m.toJson = some m := by
  have htext : ∀ {key : String} {text : Option String}, (m.members.lookup key).join = text.map .str →
      optional text? key (membersOf m.members) = some text :=
    fun h => optional_of_written rfl (fun _ => rfl) ((m.lookup_members _).trans h)
  have htexts : ∀ {key : String} {texts : Option (Dict String)}, (m.members.lookup key).join = texts.map ofTexts →
      optional texts? key (membersOf m.members) = some texts :=
    fun h => optional_of_written rfl texts?_ofTexts ((m.lookup_members _).trans h)
  rw [toJson_eq]
  unfold ofJson?
  simp only [Option.bind_eq_bind, Option.bind_eq_some_iff, Option.pure_def, Option.some.injEq]
  exact ⟨_, htext rfl, _, htext rfl, _, htext rfl, _, htext rfl, _, htext rfl, _,
    optional_of_written rfl int64?_ofInt64 (m.lookup_members _), _, htexts rfl, _, htexts rfl, rfl⟩

/-- Metadata without a version read the same where the version is removed. -/
theorem ofJson?_erase_version {members : List (String × Json)} {m : Metadata} (ho : Assoc.Ordered members)
    (h : ofJson? (.obj members) = some m) (hversion : m.resourceVersion = none) :
    ofJson? (.obj (Assoc.erase "resourceVersion" members)) = some m := by
  have hne : ∀ {key : String}, key ≠ "resourceVersion" →
      (Assoc.erase "resourceVersion" members).lookup key = members.lookup key := by
    intro key hkey; rw [Assoc.lookup_erase ho, if_neg hkey]
  unfold ofJson? at h ⊢
  simp only [Option.bind_eq_bind, Option.bind_eq_some_iff, Option.pure_def, Option.some.injEq] at h ⊢
  obtain ⟨_, h₁, _, h₂, _, h₃, _, h₄, version, -, _, h₆, _, h₇, _, h₈, rfl⟩ := h
  obtain rfl : version = none := hversion
  refine ⟨_, ?_, _, ?_, _, ?_, _, ?_, none, ?_, _, ?_, _, ?_, _, ?_, rfl⟩
  · rw [optional_congr (hne (by decide)), h₁]
  · rw [optional_congr (hne (by decide)), h₂]
  · rw [optional_congr (hne (by decide)), h₃]
  · rw [optional_congr (hne (by decide)), h₄]
  · exact optional_of_absent (by rw [Assoc.lookup_erase ho, if_pos rfl]; rfl)
  · rw [optional_congr (hne (by decide)), h₆]
  · rw [optional_congr (hne (by decide)), h₇]
  · rw [optional_congr (hne (by decide)), h₈]

/-- Metadata read the same where the version that was read is written back. -/
theorem ofJson?_merge_version {members : List (String × Json)} {m : Metadata} (ho : Assoc.Ordered members)
    (h : ofJson? (.obj members) = some m) :
    ofJson? (.obj (mergeMembers [("resourceVersion", ofOption .str m.resourceVersion)] members)) = some m := by
  cases hversion : m.resourceVersion with
  | none => exact ofJson?_erase_version ho h hversion
  | some version =>
    refine (ofJson?_insert_version h version).trans ?_
    rw [← hversion]

end Metadata

/-! ## Objects that can be read -/

namespace Manifest

/-- What can be read as an object has metadata that can be read, unless it has none. -/
theorem ofJson?_eq_some {r : Json} {m : Manifest} (h : ofJson? r = some m) :
    ∃ members metadata, r = .obj members ∧ Described members metadata ∧
      Metadata.ofJson? (.obj metadata) = some m.metadata ∧ m.body = .obj (bodyMembers members) := by
  cases r
  case obj members =>
    unfold ofJson? at h
    simp only [Option.bind_eq_bind, Option.bind_eq_some_iff, Option.pure_def, Option.some.injEq] at h
    obtain ⟨metadata, hm, rfl⟩ := h
    unfold defaulted at hm
    cases hl : members.lookup "metadata" with
    | none =>
      rw [hl] at hm
      cases hm
      exact ⟨members, [], rfl, by unfold Described; rw [hl]; rfl, rfl, rfl⟩
    | some j =>
      rw [hl] at hm
      cases j
      case obj ms => exact ⟨members, ms, rfl, by unfold Described; rw [hl]; rfl, hm, rfl⟩
      all_goals cases hm
  all_goals cases h

/-- Whatever has metadata that can be read is read with them. -/
theorem exists_ofJson?_described {members metadata : List (String × Json)} {md : Metadata}
    (h : Described members metadata) (hm : Metadata.ofJson? (.obj metadata) = some md) :
    ∃ m, ofJson? (.obj members) = some m ∧ m.metadata = md := by
  have hdefaulted : defaulted Metadata.ofJson? {} "metadata" members = some md := by
    unfold Described at h
    unfold defaulted
    cases hl : members.lookup "metadata" with
    | none => rw [hl] at h; cases h; exact hm
    | some j => rw [hl] at h; rw [show j = obj metadata from h]; exact hm
  unfold ofJson?
  dsimp only
  rw [hdefaulted]
  exact ⟨_, rfl, rfl⟩

/-- Whatever has metadata that can be read can be read as an object. -/
theorem exists_ofJson? (members : List (String × Json)) {metadata : List (String × Json)} {md : Metadata}
    (hl : members.lookup "metadata" = some (.obj metadata)) (hm : Metadata.ofJson? (.obj metadata) = some md) :
    ∃ m, ofJson? (.obj members) = some m := by
  have hdescribed : Described members metadata := by unfold Described; rw [hl]; rfl
  exact (exists_ofJson?_described hdescribed hm).imp fun _ h => h.1

theorem lookup_bodyMembers (members : List (String × Json)) :
    (bodyMembers members).lookup "spec" = members.lookup "spec" := by
  unfold bodyMembers
  extract_lets together
  refine (Assoc.lookup_filter_key (fun key : String =>
    key ≠ "metadata" && key ≠ "apiVersion" && !(key == "kind" && together)) "spec" members).trans ?_
  rw [if_pos (by simp)]

section Read

variable {r : Json} {m : Manifest} (h : ofJson? r = some m)

include h

theorem get?_body : m.body.get? "spec" = r.get? "spec" := by
  obtain ⟨members, metadata, rfl, -, -, hbody⟩ := ofJson?_eq_some h
  rw [hbody]
  exact lookup_bodyMembers members

/-- An object is written with the specification that was read. -/
theorem path?_toJson (rest : List String) : m.toJson.path? ("spec" :: rest) = r.path? ("spec" :: rest) := by
  have hwritten : m.toJson.get? "spec" = m.body.get? "spec" := by
    rw [get?_eq_lookup m.body]
    unfold toJson
    cases m.types with
    | none => exact (Assoc.lookup_insert ..).trans (if_neg (by decide))
    | some types =>
      refine (Assoc.lookup_insert ..).trans ((if_neg (by decide)).trans ?_)
      rw [Assoc.lookup_insert, if_neg (by decide), Assoc.lookup_insert, if_neg (by decide)]
  rw [path?_cons, path?_cons, hwritten, get?_body h]

theorem resourceVersion_eq {version : String} (hv : m.metadata.resourceVersion = some version) :
    versionOf? r = some (.str version) := by
  obtain ⟨members, metadata, rfl, hdescribed, hm, -⟩ := ofJson?_eq_some h
  have hread : optional text? "resourceVersion" metadata = some (some version) := by
    unfold Metadata.ofJson? at hm
    simp only [Option.bind_eq_bind, Option.bind_eq_some_iff, Option.pure_def, Option.some.injEq] at hm
    obtain ⟨_, -, _, -, _, -, _, -, found, hfound, _, -, _, -, _, -, hm⟩ := hm
    rw [← hm] at hv
    rw [hfound, show found = some version from hv]
  rcases optional_eq_some_iff.1 hread with ⟨hn, -⟩ | ⟨j, text, hj, -, htext, heq⟩
  · cases hn
  · cases heq
    have hlookup : members.lookup "metadata" = some (.obj metadata) := by
      unfold Described at hdescribed
      cases hl : members.lookup "metadata" with
      | none => rw [hl] at hdescribed; cases hdescribed; cases hj
      | some j => rw [hl] at hdescribed; rw [show j = obj metadata from hdescribed]
    have hstr : j = .str version := by
      cases j <;> cases htext
      rfl
    show path? (.obj members) ["metadata", "resourceVersion"] = _
    rw [path?_cons, show (obj members).get? "metadata" = members.lookup "metadata" from rfl, hlookup, Option.bind_some,
      path?_singleton, ← hstr]
    exact hj

/-- A version that is a text is read. -/
theorem resourceVersion_of_versionOf? {version : String} (hv : versionOf? r = some (.str version)) :
    m.metadata.resourceVersion = some version := by
  obtain ⟨members, metadata, rfl, hdescribed, hm, -⟩ := ofJson?_eq_some h
  have hlookup : metadata.lookup "resourceVersion" = some (.str version) := by
    obtain ⟨j, hj, hversion⟩ := Option.bind_eq_some_iff.1 hv
    unfold Described at hdescribed
    rw [show members.lookup "metadata" = some j from hj, Option.getD_some] at hdescribed
    rw [hdescribed, path?_singleton] at hversion
    exact hversion
  unfold Metadata.ofJson? at hm
  simp only [Option.bind_eq_bind, Option.bind_eq_some_iff, Option.pure_def, Option.some.injEq] at hm
  obtain ⟨_, -, _, -, _, -, _, -, found, hfound, _, -, _, -, _, -, hm⟩ := hm
  rw [optional_of_lookup hlookup (by simp)] at hfound
  rw [← hm]
  exact (Option.some.inj hfound).symm

end Read

theorem ordered_toJson {r : Json} {m : Manifest} (h : ofJson? r = some m) (ho : r.Ordered) :
    ∃ members, m.toJson = .obj members ∧ (obj members).Ordered := by
  obtain ⟨members, metadata, rfl, -, -, hbody⟩ := ofJson?_eq_some h
  obtain ⟨hkeys, hvalues⟩ := ordered_obj_iff.1 ho
  have hmetadata : m.metadata.toJson.Ordered := by
    refine ordered_objectOf fun e he v hv => ?_
    simp only [List.mem_cons, List.not_mem_nil, or_false] at he
    rcases he with rfl | rfl | rfl | rfl | rfl | rfl | rfl | rfl
    all_goals
      obtain ⟨x, -, rfl⟩ := Option.map_eq_some_iff.1 hv
      first | trivial | exact ordered_ofTexts x
  have hordered : m.body.Ordered := by
    rw [hbody]
    exact ordered_obj_iff.2 ⟨hkeys.filter _, fun e he => hvalues e (List.mem_of_mem_filter he)⟩
  have hwith := hordered.set "metadata" hmetadata
  unfold toJson
  cases m.types with
  | none => exact ⟨_, rfl, hwith⟩
  | some types => exact ⟨_, rfl, (hwith.set "kind" (v := .str types.kind) trivial).set "apiVersion" trivial⟩

end Manifest

namespace Manifest

theorem get?_metadata_toJson (m : Manifest) : m.toJson.get? "metadata" = some m.metadata.toJson := by
  unfold toJson
  cases m.types with
  | none => exact (Assoc.lookup_insert ..).trans (if_pos rfl)
  | some types =>
    refine (Assoc.lookup_insert ..).trans ((if_neg (by decide)).trans ?_)
    rw [Assoc.lookup_insert, if_neg (by decide), Assoc.lookup_insert, if_pos rfl]

/-- An object that is changed apart from its metadata and stored again can be read again. -/
theorem exists_ofJson?_stamped (m : Manifest) (f : Json → Json) {key : String} (hkey : key ≠ "metadata")
    (rest : List String) (version : Nat) :
    ∃ m', ofJson? (stamped version (m.toJson.update f (key :: rest))) = some m' := by
  let metadata := membersOf m.metadata.members
  obtain ⟨members, hmembers⟩ : ∃ members, m.toJson.update f (key :: rest) = .obj members := ⟨_, rfl⟩
  have hget : members.lookup "metadata" = some (.obj metadata) := by
    have hkept := get?_set m.toJson key (((m.toJson.get? key).getD .null).update f rest) "metadata"
    rw [if_neg (Ne.symm hkey), m.get?_metadata_toJson] at hkept
    rw [← show (obj members).get? "metadata" = members.lookup "metadata" from rfl, ← hmembers]
    exact hkept
  have hdescribed : Described members metadata := by
    unfold Described
    rw [hget]
    rfl
  have hread : Metadata.ofJson? (.obj metadata) = some m.metadata := m.metadata.ofJson?_toJson
  rw [hmembers, hdescribed.stamped]
  exact exists_ofJson? _ (by rw [Assoc.lookup_insert, if_pos rfl])
    (Metadata.ofJson?_insert_version hread (toString version))

end Manifest

/-- What is read of the value is an object. -/
def Readable (j : Json) : Prop := ∃ r m, j.ReadAs r ∧ Manifest.ofJson? r = some m

/-- The second object is in order, and can be read if the first can. -/
def Follows (j j' : Json) : Prop := j'.Ordered ∧ (Readable j → Readable j')

theorem Follows.refl {j : Json} (h : j.Ordered) : Follows j j := ⟨h, id⟩

/-- The metadata of what is read are the metadata of the value, read. -/
theorem Store.Described.exists_resent {members read metadata : List (String × Json)} (h : Described read metadata)
    (hr : resentMembers? members = some read) :
    ∃ own, Described members own ∧ resentMembers? own = some metadata := by
  have hrel := lookup_resentMembers hr "metadata"
  unfold Described at h ⊢
  cases hy : read.lookup "metadata" with
  | none =>
    rw [hy] at hrel h
    cases h
    cases hx : members.lookup "metadata" with
    | none => exact ⟨[], rfl, rfl⟩
    | some x => rw [hx] at hrel; cases hrel
  | some y =>
    rw [hy] at hrel h
    obtain rfl : y = obj metadata := h
    cases hx : members.lookup "metadata" with
    | none => rw [hx] at hrel; cases hrel
    | some x =>
      rw [hx] at hrel
      cases hrel with
      | some hread =>
        obtain ⟨own, rfl, hown⟩ := hread.exists_obj
        exact ⟨own, rfl, hown⟩

/-- The metadata of the value, read, are the metadata of what is read. -/
theorem Store.Described.exists_read {members read metadata : List (String × Json)} (h : Described members metadata)
    (hr : resentMembers? members = some read) :
    ∃ other, Described read other ∧ resentMembers? metadata = some other := by
  have hrel := lookup_resentMembers hr "metadata"
  unfold Described at h ⊢
  cases hx : members.lookup "metadata" with
  | none =>
    rw [hx] at hrel h
    cases h
    cases hy : read.lookup "metadata" with
    | none => exact ⟨[], rfl, rfl⟩
    | some y => rw [hy] at hrel; cases hrel
  | some x =>
    rw [hx] at hrel h
    obtain rfl : x = obj metadata := h
    obtain ⟨y, hy, hread⟩ := exists_of_rel_some hrel
    obtain ⟨other, hother, rfl⟩ := readAs_obj_iff.1 hread
    exact ⟨other, by rw [hy]; rfl, hother⟩

/-! ## Objects as they are read -/

namespace Json

/-- What looks into no object, array or double sees of what is read what it sees of what was written. -/
theorem ReadAs.same_view {α : Type} (view : Json → α) {j r : Json} (h : j.ReadAs r)
    (hobj : ∀ members read, view (.obj read) = view (.obj members))
    (harr : ∀ items read, view (.arr read) = view (.arr items))
    (hdouble : ∀ x y, view (.double y) = view (.double x)) : view r = view j := by
  cases j
  case obj members =>
    obtain ⟨read, -, rfl⟩ := readAs_obj_iff.1 h
    exact hobj members read
  case arr items =>
    obtain ⟨read, -, rfl⟩ := readAs_arr_iff.1 h
    exact harr items read
  case double x =>
    obtain ⟨y, -, rfl⟩ := Option.map_eq_some_iff.1 (show x.resent?.map double = some r from h)
    exact hdouble x y
  all_goals cases h; rfl

theorem ReadAs.text? {j r : Json} (h : j.ReadAs r) : r.text? = j.text? :=
  h.same_view Json.text? (fun _ _ => rfl) (fun _ _ => rfl) fun _ _ => rfl

theorem ReadAs.int64? {j r : Json} (h : j.ReadAs r) : r.int64? = j.int64? :=
  h.same_view Json.int64? (fun _ _ => rfl) (fun _ _ => rfl) fun _ _ => rfl

theorem mapM_text?_resent : ∀ {members read : List (String × Json)}, resentMembers? members = some read →
    read.mapM (fun (e : String × Json) => e.2.text?.map fun s => (e.1, s)) =
      members.mapM fun (e : String × Json) => e.2.text?.map fun s => (e.1, s)
  | [], read, h => by rw [resentMembers?] at h; cases h; rfl
  | (key, value) :: rest, read, h => by
    obtain ⟨v, r, hv, hr, rfl⟩ := resentMembers?_cons_iff.1 h
    rw [List.mapM_cons, List.mapM_cons, mapM_text?_resent hr, hv.text?]

theorem ReadAs.texts? {j r : Json} (h : j.ReadAs r) : Json.texts? r = Json.texts? j := by
  cases j
  case obj members =>
    obtain ⟨read, hread, rfl⟩ := readAs_obj_iff.1 h
    exact congrArg (·.map Dict.ofList) (mapM_text?_resent hread)
  case arr items =>
    obtain ⟨_, -, rfl⟩ := readAs_arr_iff.1 h
    rfl
  case double x =>
    obtain ⟨_, -, rfl⟩ := Option.map_eq_some_iff.1 (show x.resent?.map double = some r from h)
    rfl
  all_goals cases h; rfl

/-- A member is decoded the same if what is read is. -/
theorem optional_resent {α : Type} {decode : Json → Option α}
    (hdecode : ∀ {j r : Json}, j.ReadAs r → decode r = decode j) {members read : List (String × Json)}
    (h : resentMembers? members = some read) (key : String) :
    optional decode key read = optional decode key members := by
  have hrel := lookup_resentMembers h key
  by_cases hnull : (members.lookup key).getD .null = .null
  · have hread := ReadAs.getD hrel
    rw [hnull] at hread
    rw [optional_of_absent hnull, optional_of_absent (hread.unique readAs_null)]
  · cases hmember : members.lookup key with
    | none => rw [hmember] at hnull; exact absurd rfl hnull
    | some j =>
      rw [hmember] at hrel hnull
      obtain ⟨r, hr, hread⟩ := exists_of_rel_some hrel
      have hne : r ≠ .null := by
        rintro rfl
        exact hnull (hread.eq (by simp) (by simp) (by simp))
      rw [optional_of_lookup hr hne, optional_of_lookup hmember hnull, hdecode hread]

end Json

theorem Metadata.ofJson?_resent {members read : List (String × Json)} (h : resentMembers? members = some read) :
    Metadata.ofJson? (.obj read) = Metadata.ofJson? (.obj members) := by
  unfold Metadata.ofJson?
  simp only [optional_resent ReadAs.text? h, optional_resent ReadAs.int64? h, optional_resent ReadAs.texts? h]

/-- What can be read over the wire can be read where it is stored, with the same metadata. -/
theorem Json.ReadAs.exists_ofJson? {j r : Json} {m : Manifest} (h : j.ReadAs r) (hm : Manifest.ofJson? r = some m) :
    ∃ m', Manifest.ofJson? j = some m' ∧ m'.metadata = m.metadata := by
  obtain ⟨read, metadata, rfl, hd, hmetadata, -⟩ := Manifest.ofJson?_eq_some hm
  obtain ⟨members, rfl, hmembers⟩ := h.exists_obj
  obtain ⟨own, hown, hresent⟩ := hd.exists_resent hmembers
  rw [Metadata.ofJson?_resent hresent] at hmetadata
  exact Manifest.exists_ofJson?_described hown hmetadata

/-! ## Patched objects -/

/-- An object that can be read can be read once a patch is merged into it that names no metadata but the version, if
what is merged comes through as text. -/
theorem Readable.merged {j merged : Json} (h : Readable j) (ho : j.Ordered) {changes : List (String × Json)}
    (hc : Assoc.Ordered changes) (hv : NamesVersion changes) (hmerged : (merge (obj changes) j).ReadAs merged)
    (version : Nat) : Readable (stamped version (merge (obj changes) j)) := by
  obtain ⟨r, m, hread, hm⟩ := h
  obtain ⟨read, metadata, rfl, hdescribed, hmetadata, -⟩ := Manifest.ofJson?_eq_some hm
  obtain ⟨members, rfl, hmembers⟩ := hread.exists_obj
  obtain ⟨own, hown, hownRead⟩ := hdescribed.exists_resent hmembers
  rw [merge_obj] at hmerged
  obtain ⟨mergedMembers, hmergedMembers, -⟩ := readAs_obj_iff.1 hmerged
  have hstamped := Metadata.ofJson?_insert_version hmetadata (toString version)
  obtain ⟨m', hm'⟩ := Manifest.exists_ofJson? (Assoc.insert "metadata"
    (.obj (Assoc.insert "resourceVersion" (.str (toString version)) metadata)) mergedMembers)
    (by rw [Assoc.lookup_insert, if_pos rfl]) hstamped
  rw [stamped_merge hc hv ho hown]
  refine ⟨_, m', readAs_obj_iff.2 ⟨_, resentMembers?_insert ?_ hmergedMembers, rfl⟩, hm'⟩
  exact readAs_obj_iff.2 ⟨_, resentMembers?_insert (show (str _).ReadAs _ from rfl) hownRead, rfl⟩

/-- An object that can be read can be read once it is patched. -/
theorem Readable.patched {j : Json} (h : Readable j) (ho : j.Ordered) {changes : List (String × Json)}
    (hs : Sound changes) (version : Nat) :
    (stamped version (merge (obj changes) j)).Ordered ∧ Readable (stamped version (merge (obj changes) j)) := by
  obtain ⟨r, m, hread, -⟩ := id h
  exact ⟨ordered_stamped (hs.ordered.merge ho) version,
    h.merged ho (ordered_obj_iff.1 hs.ordered).1 hs.version (ReadAs.merge hs.steady hread) version⟩

end Rollout
