/-
The merge patch that writes a status, applied to what is stored. The patch between two statuses
is made for the older one as it is written, but is merged into the object as it is stored, which
may leave out defaults and hold members that no status reads. Main statements: `ofJson?_patchTo`
(whatever object reads as the older status reads as the newer one after the patch) and
`ofJson?_patched` (the canary as a whole, stamped with its new version, is the older one with only
status and version replaced).
-/
import Rollout.Proofs.Json.Codec
import Rollout.Status.Patch
import Rollout.World.Server

namespace Rollout

open Json

/-! ## Values that patches carry over -/

namespace Json

variable {α : Type}

/-- What lets a patch between two written values carry over to any value that reads as the first:
where there was nothing, and where there was something. -/
structure Carries (decode : Json → Option α) (encode : α → Json) : Prop where
  null : decode .null = none
  same : ∀ x y, (encode y).same (encode x) = true → y = x
  put : ∀ y, decode (merge (encode y) .null) = some y
  move : ∀ x y j, j.Ordered → decode j = some x → decode (merge (diff (encode x) (encode y)) j) = some y

/-- A value that is written as no object replaces what was there. -/
theorem Carries.of_not_obj {decode : Json → Option α} {encode : α → Json} (hnull : decode .null = none)
    (hobj : ∀ y members, encode y ≠ .obj members)
    (hsame : ∀ x y, (encode y).same (encode x) = true → y = x)
    (hread : ∀ y, decode (encode y) = some y) : Carries decode encode where
  null := hnull
  same := hsame
  put y := by rw [merge_of_not_obj (hobj y)]; exact hread y
  move x y j _ _ := by
    rw [diff_of_not_obj fun _ new _ => hobj y new, merge_of_not_obj (hobj y)]; exact hread y

theorem carries_text : Carries text? .str :=
  .of_not_obj rfl (by simp) (by simp [Json.same]) fun _ => rfl

theorem carries_int32 : Carries int32? ofInt32 := by
  refine .of_not_obj rfl (by simp [ofInt32]) (fun x y h => ?_) int32?_ofInt32
  simp only [ofInt32, Json.same, beq_iff_eq] at h
  exact Int32.toInt_inj.1 h

end Json

theorem Phase.ofJson?_toJson (p : Phase) : Phase.ofJson? p.toJson = some p := by
  cases p <;> decide

theorem carries_phase : Carries Phase.ofJson? Phase.toJson := by
  refine .of_not_obj rfl (by simp [Phase.toJson]) (fun x y h => ?_) Phase.ofJson?_toJson
  simp only [Phase.toJson, Json.same, beq_iff_eq] at h
  cases x <;> cases y <;> first | rfl | exact absurd h (by decide)

/-! ### Maps of texts -/

namespace Json

theorem same_map_str : ∀ {as bs : List (String × String)},
    sameMembers (as.map fun e => (e.1, Json.str e.2)) (bs.map fun e => (e.1, Json.str e.2)) = true → as = bs
  | [], [], _ => rfl
  | [], _ :: _, h => by simp [sameMembers] at h
  | _ :: _, [], h => by simp [sameMembers] at h
  | (k, a) :: as, (l, b) :: bs, h => by
    simp only [List.map_cons, sameMembers, Json.same, Bool.and_eq_true, beq_iff_eq] at h
    obtain ⟨⟨rfl, rfl⟩, h⟩ := h
    rw [same_map_str h]

theorem lookup_map_str (k : String) : ∀ (entries : List (String × String)),
    (entries.map fun e => (e.1, Json.str e.2)).lookup k = (entries.lookup k).map .str
  | [] => rfl
  | (k', s) :: rest => by
    rw [List.map_cons, List.lookup_cons, List.lookup_cons, lookup_map_str k rest]
    cases k == k' <;> rfl

/-- The patch from one map of texts to another turns the first into the second. -/
theorem merge_diff_ofTexts (a b : Dict String) : merge (diff (ofTexts a) (ofTexts b)) (ofTexts a) = ofTexts b := by
  have ha := ordered_map_str.2 a.ordered
  have hb := ordered_map_str.2 b.ordered
  have ho : (merge (diff (ofTexts a) (ofTexts b)) (ofTexts a)).Ordered :=
    Ordered.merge (Ordered.diff (ordered_ofTexts b)) (ordered_ofTexts a)
  unfold ofTexts at ho ⊢
  rw [diff_obj, merge_obj, membersOrNone_obj] at ho ⊢
  congr 1
  refine (ordered_obj_iff.1 ho).1.ext hb fun k => ?_
  rw [lookup_merge_diff ha hb ha, lookup_map_str, lookup_map_str]
  cases a.entries.lookup k with
  | none => cases b.entries.lookup k <;> rfl
  | some s =>
    cases b.entries.lookup k with
    | none => rfl
    | some t =>
      by_cases h : t = s
      · subst h; simp [change?, Json.same]
      · have hs : ¬ (Json.str t).same (.str s) = true := by simpa [Json.same] using h
        simp only [Option.map_some, change?, if_neg hs]
        rfl

/-- Put where nothing was, a map of texts is what it is. -/
theorem merge_ofTexts_null (b : Dict String) : merge (ofTexts b) .null = ofTexts b := by
  have hb := ordered_map_str.2 b.ordered
  have ho : (merge (ofTexts b) .null).Ordered := Ordered.merge (ordered_ofTexts b) (by simp [Ordered])
  unfold ofTexts at ho ⊢
  rw [merge_obj, membersOrNone_null] at ho ⊢
  congr 1
  refine (ordered_obj_iff.1 ho).1.ext hb fun k => ?_
  rw [lookup_mergeMembers k hb List.Pairwise.nil, lookup_map_str]
  cases b.entries.lookup k <;> rfl

theorem carries_texts : Carries texts? ofTexts where
  null := rfl
  same x y h := by
    unfold ofTexts at h
    simp only [Json.same] at h
    obtain ⟨x, hx⟩ := x
    obtain ⟨y, hy⟩ := y
    obtain rfl : y = x := same_map_str h
    rfl
  put y := by rw [merge_ofTexts_null]; exact texts?_ofTexts y
  move x y j ho hx := by
    rw [(texts?_eq_some_iff ho).1 hx, merge_diff_ofTexts]; exact texts?_ofTexts y

/-! ## Members under a patch -/

section Members

variable {α : Type} {decode : Json → Option α} {encode : α → Json} {key : String}
  {old new raw : List (String × Json)}

theorem Carries.ne_null (h : Carries decode encode) {j : Json} {x : α} (hd : decode j = some x) : j ≠ .null := by
  rintro rfl
  rw [h.null] at hd
  exact absurd hd (by simp)

theorem Carries.encode_ne_null (h : Carries decode encode) (y : α) : encode y ≠ .null := fun hn => by
  have hput := h.put y
  rw [hn] at hput
  exact h.ne_null hput rfl

/-- An optional member reads after the patch as the patch was made for. -/
theorem Carries.optional (h : Carries decode encode) (ho : Assoc.Ordered old) (hn : Assoc.Ordered new)
    (hr : Assoc.Ordered raw) (hv : ∀ e ∈ raw, e.2.Ordered) {a b : Option α}
    (hold : old.lookup key = a.map encode) (hnew : new.lookup key = b.map encode)
    (hread : Json.optional decode key raw = some a) :
    Json.optional decode key (mergeMembers (patchMembers old new) raw) = some b := by
  have hl := lookup_merge_diff ho hn hr key
  rw [hold, hnew] at hl
  rcases optional_eq_some_iff.1 hread with ⟨rfl, habsent⟩ | ⟨j, x, hj, -, hx, rfl⟩
  · -- nothing was there, so a value is put
    cases b with
    | none =>
      refine optional_of_absent ?_
      rw [hl]; exact habsent
    | some y =>
      have hput : (mergeMembers (patchMembers old new) raw).lookup key = some (merge (encode y) .null) := by
        rw [hl, ← habsent]
        exact changed?_of_ne_null (h.encode_ne_null y) _
      rw [optional_of_lookup hput (h.ne_null (h.put y)), h.put y]; rfl
  · -- a value was there, and stays or is moved
    cases b with
    | none =>
      refine optional_of_absent ?_
      rw [hl]; rfl
    | some y =>
      simp only [Option.map_some, change?] at hl
      by_cases hs : (encode y).same (encode x) = true
      · rw [if_pos hs] at hl
        rw [optional_congr (m := raw) hl, hread, h.same x y hs]
      · have hmove := h.move x y j (hv _ (mem_of_lookup hj)) hx
        rw [if_neg hs] at hl
        simp only [changed?_of_ne_null (diff_ne_null (h.encode_ne_null y)), hj] at hl
        rw [optional_of_lookup hl (h.ne_null hmove), Option.getD_some, hmove]; rfl

/-- A member with a default, which is always written, reads after the patch as the patch was made
for. -/
theorem Carries.defaulted (h : Carries decode encode) (ho : Assoc.Ordered old) (hn : Assoc.Ordered new)
    (hr : Assoc.Ordered raw) (hv : ∀ e ∈ raw, e.2.Ordered) {default a b : α}
    (hold : old.lookup key = some (encode a)) (hnew : new.lookup key = some (encode b))
    (hput : ∀ x y, decode (merge (diff (encode x) (encode y)) .null) = some y)
    (hread : Json.defaulted decode default key raw = some a) :
    Json.defaulted decode default key (mergeMembers (patchMembers old new) raw) = some b := by
  have hl := lookup_merge_diff ho hn hr key
  rw [hold, hnew] at hl
  simp only [change?] at hl
  by_cases hs : (encode b).same (encode a) = true
  · rw [if_pos hs] at hl
    rw [defaulted_congr (m := raw) hl, hread, h.same a b hs]
  · rw [if_neg hs] at hl
    simp only [changed?_of_ne_null (diff_ne_null (h.encode_ne_null b))] at hl
    unfold Json.defaulted at hread ⊢
    rw [hl]
    cases hj : raw.lookup key with
    | none => exact hput a b
    | some j =>
      rw [hj] at hread
      exact h.move a b j (hv _ (mem_of_lookup hj)) hread

end Members

theorem decode_merge_diff_ofInt32 (x y : Int32) : int32? (merge (diff (ofInt32 x) (ofInt32 y)) .null) = some y := by
  rw [diff_of_not_obj (by simp [ofInt32]), merge_of_not_obj (by simp [ofInt32])]
  exact int32?_ofInt32 y

end Json

/-! ## The status -/

namespace CanaryStatus

/-- The members of an object read as the fields of a status. -/
structure ReadFrom (m : List (String × Json)) (s : CanaryStatus) : Prop where
  phase : optional Phase.ofJson? "phase" m = some s.phase
  canaryWeight : defaulted int32? 0 "canaryWeight" m = some s.canaryWeight
  failedChecks : defaulted int32? 0 "failedChecks" m = some s.failedChecks
  iterations : defaulted int32? 0 "iterations" m = some s.iterations
  trackedConfigs : optional texts? "trackedConfigs" m = some s.trackedConfigs
  lastAppliedSpec : optional text? "lastAppliedSpec" m = some s.lastAppliedSpec
  lastPromotedSpec : optional text? "lastPromotedSpec" m = some s.lastPromotedSpec
  lastTransitionTime : optional text? "lastTransitionTime" m = some s.lastTransitionTime

theorem ofJson?_obj_iff {m : List (String × Json)} {s : CanaryStatus} :
    ofJson? (.obj m) = some s ↔ s.ReadFrom m := by
  unfold ofJson?
  simp only [record?, Option.bind_eq_bind, Option.bind_some, Option.bind_eq_some_iff, Option.pure_def,
    Option.some.injEq]
  constructor
  · rintro ⟨_, h₁, _, h₂, _, h₃, _, h₄, _, h₅, _, h₆, _, h₇, _, h₈, rfl⟩
    exact ⟨h₁, h₂, h₃, h₄, h₅, h₆, h₇, h₈⟩
  · intro h
    exact ⟨_, h.phase, _, h.canaryWeight, _, h.failedChecks, _, h.iterations, _, h.trackedConfigs, _,
      h.lastAppliedSpec, _, h.lastPromotedSpec, _, h.lastTransitionTime, rfl⟩

theorem readFrom_nil : ReadFrom [] {} := ⟨rfl, rfl, rfl, rfl, rfl, rfl, rfl, rfl⟩

/-- The members of a written status, those that are left out as none. -/
def members (s : CanaryStatus) : List (String × Option Json) := [
  ("phase", s.phase.map (·.toJson)),
  ("canaryWeight", some (ofInt32 s.canaryWeight)),
  ("failedChecks", some (ofInt32 s.failedChecks)),
  ("iterations", some (ofInt32 s.iterations)),
  ("trackedConfigs", s.trackedConfigs.map ofTexts),
  ("lastAppliedSpec", s.lastAppliedSpec.map .str),
  ("lastPromotedSpec", s.lastPromotedSpec.map .str),
  ("lastTransitionTime", s.lastTransitionTime.map .str)]

theorem toJson_eq (s : CanaryStatus) : s.toJson = .obj (membersOf s.members) := rfl

theorem lookup_members (s : CanaryStatus) (k : String) :
    (membersOf s.members).lookup k = (s.members.lookup k).join := by
  refine lookup_membersOf ?_ k
  show ["phase", "canaryWeight", "failedChecks", "iterations", "trackedConfigs", "lastAppliedSpec",
    "lastPromotedSpec", "lastTransitionTime"].Nodup
  decide

/-- Whatever members read as the older of two statuses read as the newer one after the patch from
the one to the other. -/
theorem ReadFrom.patched {raw : List (String × Json)} {s : CanaryStatus} (h : s.ReadFrom raw)
    (hr : Assoc.Ordered raw) (hv : ∀ e ∈ raw, e.2.Ordered) (t : CanaryStatus) :
    t.ReadFrom (mergeMembers (patchMembers (membersOf s.members) (membersOf t.members)) raw) := by
  have ho := ordered_membersOf s.members
  have hn := ordered_membersOf t.members
  constructor
  · exact carries_phase.optional ho hn hr hv (lookup_members s _) (lookup_members t _) h.phase
  · exact carries_int32.defaulted ho hn hr hv (lookup_members s _) (lookup_members t _)
      decode_merge_diff_ofInt32 h.canaryWeight
  · exact carries_int32.defaulted ho hn hr hv (lookup_members s _) (lookup_members t _)
      decode_merge_diff_ofInt32 h.failedChecks
  · exact carries_int32.defaulted ho hn hr hv (lookup_members s _) (lookup_members t _)
      decode_merge_diff_ofInt32 h.iterations
  · exact carries_texts.optional ho hn hr hv (lookup_members s _) (lookup_members t _) h.trackedConfigs
  · exact carries_text.optional ho hn hr hv (lookup_members s _) (lookup_members t _) h.lastAppliedSpec
  · exact carries_text.optional ho hn hr hv (lookup_members s _) (lookup_members t _) h.lastPromotedSpec
  · exact carries_text.optional ho hn hr hv (lookup_members s _) (lookup_members t _) h.lastTransitionTime

/-- The patch from one status to another, merged into what reads as the first. A status written as
the list of its fields is left out: a merge does not look into it. -/
theorem ofJson?_patchTo {raw : Json} (ho : raw.Ordered) (hraw : ∀ items, raw ≠ .arr items)
    {s : CanaryStatus} (hread : raw = .null ∧ s = {} ∨ ofJson? raw = some s) (t : CanaryStatus) :
    ofJson? ((s.patchTo t).merge raw) = some t := by
  have hfrom : s.ReadFrom raw.membersOrNone := by
    rcases hread with ⟨rfl, rfl⟩ | hread
    · exact readFrom_nil
    · cases raw
      case obj members => exact ofJson?_obj_iff.1 hread
      case arr items => exact absurd rfl (hraw items)
      all_goals exact absurd hread (by simp [ofJson?, record?])
  obtain ⟨hr, hv⟩ := ho.membersOrNone
  unfold patchTo
  rw [toJson_eq, toJson_eq, diff_obj, merge_obj]
  exact ofJson?_obj_iff.2 (hfrom.patched hr hv t)

theorem ordered_toJson (s : CanaryStatus) : s.toJson.Ordered := by
  refine ordered_objectOf fun e he v hv => ?_
  have hint : ∀ n : Int32, (ofInt32 n).Ordered := fun n => by simp [ofInt32, Ordered]
  have hopt : ∀ {α : Type} {encode : α → Json} {o : Option α}, (∀ a, (encode a).Ordered) →
      o.map encode = some v → v.Ordered := by
    intro α encode o h heq
    obtain ⟨a, -, rfl⟩ := Option.map_eq_some_iff.1 heq
    exact h a
  simp only [List.mem_cons, List.not_mem_nil, or_false] at he
  rcases he with rfl | rfl | rfl | rfl | rfl | rfl | rfl | rfl
  · exact hopt (fun p => by simp [Phase.toJson, Ordered]) hv
  · cases hv; exact hint _
  · cases hv; exact hint _
  · cases hv; exact hint _
  · exact hopt ordered_ofTexts hv
  · exact hopt (fun s => by simp [Ordered]) hv
  · exact hopt (fun s => by simp [Ordered]) hv
  · exact hopt (fun s => by simp [Ordered]) hv

end CanaryStatus

/-! ## The stored canary -/

/-- The canary with another status, at the version at which that was written. -/
def Canary.written (c : Canary) (status : CanaryStatus) (version : String) : Canary :=
  { c with status := some status, metadata := { c.metadata with resourceVersion := some version } }

/-- A stored object after the patch that writes a status, as a server applies it: what counts of
the patch is merged in, and the object is given a version. -/
def Canary.patched (c : Canary) (status : CanaryStatus) (version : String) (object : Json) : Json :=
  ((World.relevant (some "status") (c.statusPatch status)).merge object).update
    (·.set "resourceVersion" (.str version)) ["metadata"]

/-- An object whose status is no list of the fields of one, as the schema of the resource has it. -/
def StatusNotListed (object : Json) : Prop := ∀ items, object.get? "status" ≠ some (.arr items)

theorem StatusNotListed.ne_arr {object : Json} (h : StatusNotListed object) (items : List Json) :
    (object.get? "status").getD .null ≠ .arr items := by
  intro heq
  cases hl : object.get? "status" with
  | none => rw [hl] at heq; exact absurd heq (by simp)
  | some j => rw [hl] at heq; exact h items (by rw [← show j = .arr items from heq]; exact hl)

theorem Metadata.ofJson?_insert_version {members : List (String × Json)} {m : Metadata}
    (h : Metadata.ofJson? (.obj members) = some m) (version : String) :
    Metadata.ofJson? (.obj (Assoc.insert "resourceVersion" (.str version) members)) =
      some { m with resourceVersion := some version } := by
  have hne : ∀ {key : String}, key ≠ "resourceVersion" →
      (Assoc.insert "resourceVersion" (.str version) members).lookup key = members.lookup key := by
    intro key hkey; rw [Assoc.lookup_insert, if_neg hkey]
  unfold Metadata.ofJson? at h ⊢
  simp only [Option.bind_eq_bind, Option.bind_eq_some_iff, Option.pure_def, Option.some.injEq] at h ⊢
  obtain ⟨_, h₁, _, h₂, _, h₃, _, h₄, _, -, _, h₆, _, h₇, _, h₈, rfl⟩ := h
  refine ⟨_, ?_, _, ?_, _, ?_, _, ?_, some version, ?_, _, ?_, _, ?_, _, ?_, rfl⟩
  · rw [optional_congr (hne (by decide)), h₁]
  · rw [optional_congr (hne (by decide)), h₂]
  · rw [optional_congr (hne (by decide)), h₃]
  · rw [optional_congr (hne (by decide)), h₄]
  · rw [optional_of_lookup (by rw [Assoc.lookup_insert, if_pos rfl]) (by simp)]; rfl
  · rw [optional_congr (hne (by decide)), h₆]
  · rw [optional_congr (hne (by decide)), h₇]
  · rw [optional_congr (hne (by decide)), h₈]

namespace Canary

/-- The status part of the patch. -/
theorem get?_statusPatch (c : Canary) (status : CanaryStatus) :
    (c.statusPatch status).get? "status" = some ((c.status.getD {}).patchTo status) := by
  unfold Canary.statusPatch Json.object Assoc.ofList
  simp only [Json.get?, List.foldl_cons, List.foldl_nil]
  rw [Assoc.lookup_insert, if_pos rfl]

theorem relevant_statusPatch (c : Canary) (status : CanaryStatus) :
    World.relevant (some "status") (c.statusPatch status) =
      .obj [("status", (c.status.getD {}).patchTo status)] := by
  show Json.obj [("status", ((c.statusPatch status).get? "status").getD .null)] = _
  rw [get?_statusPatch]; rfl

theorem patchTo_ne_null (s t : CanaryStatus) : s.patchTo t ≠ .null := by
  unfold CanaryStatus.patchTo
  rw [CanaryStatus.toJson_eq, CanaryStatus.toJson_eq, diff_obj]; simp

/-- What the write makes of the members of the object. -/
theorem patched_obj (c : Canary) (status : CanaryStatus) (version : String)
    {members metadata : List (String × Json)} (hmeta : members.lookup "metadata" = some (.obj metadata)) :
    c.patched status version (.obj members) =
      .obj (Assoc.insert "metadata" (.obj (Assoc.insert "resourceVersion" (.str version) metadata))
        (Assoc.insert "status"
          (((c.status.getD {}).patchTo status).merge ((members.lookup "status").getD .null)) members)) := by
  unfold patched
  rw [relevant_statusPatch, merge_obj, membersOrNone_obj, mergeMembers_cons (patchTo_ne_null _ _),
    mergeMembers_nil]
  have hl : (Assoc.insert "status" (((c.status.getD {}).patchTo status).merge
      ((members.lookup "status").getD .null)) members).lookup "metadata" = some (.obj metadata) := by
    rw [Assoc.lookup_insert, if_neg (by decide), hmeta]
  simp only [Json.update, Json.set, Json.get?, hl, Option.getD_some, membersOrNone_obj]

theorem ofJson?_eq_some {object : Json} {c : Canary} (h : ofJson? object = some c) :
    ∃ members metadata, object = .obj members ∧ members.lookup "metadata" = some (.obj metadata) ∧
      Metadata.ofJson? (.obj metadata) = some c.metadata ∧
      required CanarySpec.ofJson? "spec" members = some c.spec ∧
      optional CanaryStatus.ofJson? "status" members = some c.status := by
  cases object
  case obj members =>
    unfold ofJson? at h
    simp only [Option.bind_eq_bind, Option.bind_eq_some_iff, Option.pure_def, Option.some.injEq] at h
    obtain ⟨m, hm, spec, hs, status, ht, rfl⟩ := h
    unfold required at hm
    obtain ⟨j, hj, hm⟩ := Option.bind_eq_some_iff.1 hm
    cases j
    case obj metadata => exact ⟨members, metadata, rfl, hj, hm, hs, ht⟩
    all_goals exact absurd hm (by simp [Metadata.ofJson?])
  all_goals exact absurd h (by simp [ofJson?])

/-- What is stored as the status is null or missing, as for a canary without one, or reads as it. -/
theorem status_of_ofJson? {object : Json} {c : Canary} (h : ofJson? object = some c) :
    (object.get? "status").getD .null = .null ∧ c.status.getD {} = {} ∨
      CanaryStatus.ofJson? ((object.get? "status").getD .null) = some (c.status.getD {}) := by
  obtain ⟨members, -, rfl, -, -, -, hstatus⟩ := ofJson?_eq_some h
  show (members.lookup "status").getD .null = .null ∧ _ ∨
    CanaryStatus.ofJson? ((members.lookup "status").getD .null) = _
  rcases optional_eq_some_iff.1 hstatus with ⟨hn, hnull⟩ | ⟨j, s, hj, -, hs, hc⟩
  · rw [hn]; exact .inl ⟨hnull, rfl⟩
  · rw [hj, hc]; exact .inr hs

/-- A status written by its patch: the stored object reads as the canary that was patched, with
that status and at the new version, whatever else it holds. -/
theorem ofJson?_patched {object : Json} (ho : object.Ordered) (hs : StatusNotListed object) {c : Canary}
    (hc : ofJson? object = some c) (status : CanaryStatus) (version : String) :
    ofJson? (c.patched status version object) = some (c.written status version) := by
  obtain ⟨members, metadata, rfl, hmeta, hm, hspec, hstatus⟩ := ofJson?_eq_some hc
  rw [patched_obj c status version hmeta]
  have hraw : ((members.lookup "status").getD .null).Ordered := Ordered.lookup (ordered_obj_iff.1 ho).2
  have hnew := CanaryStatus.ofJson?_patchTo hraw hs.ne_arr (status_of_ofJson? hc) status
  unfold ofJson? written
  simp only [Option.bind_eq_bind, Option.bind_eq_some_iff, Option.pure_def, Option.some.injEq]
  refine ⟨_, ?_, _, ?_, some status, ?_, rfl⟩
  · unfold required
    rw [Assoc.lookup_insert, if_pos rfl]
    exact Metadata.ofJson?_insert_version hm version
  · rw [required_congr (m := members), hspec]
    rw [Assoc.lookup_insert, if_neg (by decide), Assoc.lookup_insert, if_neg (by decide)]
  · rw [optional_of_lookup (j := ((c.status.getD {}).patchTo status).merge
      ((members.lookup "status").getD .null)), hnew]
    · rfl
    · rw [Assoc.lookup_insert, if_neg (by decide), Assoc.lookup_insert, if_pos rfl]
    · intro hn
      rw [hn] at hnew
      exact absurd hnew (by simp [CanaryStatus.ofJson?, record?])

/-- Whatever is patched, the outcome is an object that can be patched so the next time. -/
theorem patched_keeps {object : Json} (ho : object.Ordered) (c : Canary) (status : CanaryStatus)
    (version : String) :
    (c.patched status version object).Ordered ∧ StatusNotListed (c.patched status version object) := by
  obtain ⟨old, new, hpatch⟩ : ∃ old new, (c.status.getD {}).patchTo status = .obj (patchMembers old new) := by
    unfold CanaryStatus.patchTo
    rw [CanaryStatus.toJson_eq, CanaryStatus.toJson_eq, diff_obj]
    exact ⟨_, _, rfl⟩
  have hordered : ((c.status.getD {}).patchTo status).Ordered := Ordered.diff (CanaryStatus.ordered_toJson status)
  -- what the patch makes of the object before it is given its version
  let merged := (World.relevant (some "status") (c.statusPatch status)).merge object
  have hmerged : merged.Ordered := by
    refine Ordered.merge ?_ ho
    rw [relevant_statusPatch]
    exact ordered_obj_iff.2 ⟨List.pairwise_singleton _ _, by simpa using hordered⟩
  have hmeta : (Json.obj ((merged.get? "metadata").getD .null).membersOrNone).Ordered :=
    ordered_obj_iff.2 (Ordered.membersOrNone hmerged.get?)
  refine ⟨hmerged.set "metadata" (hmeta.set "resourceVersion" (by simp [Ordered])), fun items => ?_⟩
  show (merged.set "metadata" _).get? "status" ≠ _
  simp only [Json.set, Json.get?]
  rw [Assoc.lookup_insert, if_neg (by decide)]
  show (Json.merge _ object).membersOrNone.lookup "status" ≠ _
  rw [relevant_statusPatch, merge_obj, membersOrNone_obj, mergeMembers_cons (patchTo_ne_null _ _),
    mergeMembers_nil, Assoc.lookup_insert, if_pos rfl, hpatch, merge_obj]
  simp

/-- The version at which an object is stored, if it is a text. -/
def storedVersion? (object : Json) : Option String := (Store.versionOf? object).bind (·.text?)

theorem storedVersion?_eq {object : Json} {c : Canary} (h : ofJson? object = some c) :
    storedVersion? object = c.resourceVersion := by
  obtain ⟨members, metadata, rfl, hmeta, hm, -⟩ := ofJson?_eq_some h
  have hv : optional text? "resourceVersion" metadata = some c.metadata.resourceVersion := by
    unfold Metadata.ofJson? at hm
    simp only [Option.bind_eq_bind, Option.bind_eq_some_iff, Option.pure_def, Option.some.injEq] at hm
    obtain ⟨_, -, _, -, _, -, _, -, version, hv, _, -, _, -, _, -, hm⟩ := hm
    rw [← hm]; exact hv
  have hl : Store.versionOf? (.obj members) = metadata.lookup "resourceVersion" := by
    simp only [Store.versionOf?, Json.path?, Json.get?, hmeta, Option.bind_some]
    cases metadata.lookup "resourceVersion" <;> rfl
  unfold storedVersion? resourceVersion
  rw [hl]
  rcases optional_eq_some_iff.1 hv with ⟨hn, hnull⟩ | ⟨j, v, hj, -, ht, hv⟩
  · rw [hn]
    cases hr : metadata.lookup "resourceVersion" with
    | none => rfl
    | some j => rw [hr] at hnull; rw [show j = .null from hnull]; rfl
  · rw [hj, hv]; exact ht

end Canary

end Rollout
