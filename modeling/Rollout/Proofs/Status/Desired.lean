/-
The status that a patch reaches. The patch is made between two statuses as they are written, while the stored
status may leave out defaults, hold nulls, or hold members that no status reads. Main statement:
`Canary.statusPatch_reaches`, applied to the stored status of a canary the patch gives exactly the status that
was wanted and leaves all other members, and it is empty exactly where that status is the canary's already; so
a store that applies patches and one that replaces the status hold the same canary.
-/
import Rollout.Proofs.Json.Exact
import Rollout.Proofs.Status.Patch

namespace Rollout

open Json

namespace CanaryStatus

/-! ## A written status -/

/-- The keys under which a status is written. -/
def fields : List String :=
  ["phase", "canaryWeight", "failedChecks", "iterations", "trackedConfigs", "lastAppliedSpec", "lastPromotedSpec",
    "lastTransitionTime"]

theorem keys_members (s : CanaryStatus) : s.members.map (·.1) = fields := rfl

theorem lookup_members_other (s : CanaryStatus) {key : String} (h : key ∉ fields) :
    (membersOf s.members).lookup key = none := by
  have hnone : s.members.lookup key = none := by
    refine Assoc.lookup_eq_none fun e he heq => h ?_
    rw [← s.keys_members, heq]
    exact List.mem_map_of_mem he
  rw [lookup_members, hnone]
  rfl

theorem readFrom_members (s : CanaryStatus) : s.ReadFrom (membersOf s.members) where
  phase := optional_of_written rfl Phase.ofJson?_toJson (lookup_members s _)
  canaryWeight := (defaulted_of_lookup (lookup_members s _)).trans (int32?_ofInt32 _)
  failedChecks := (defaulted_of_lookup (lookup_members s _)).trans (int32?_ofInt32 _)
  iterations := (defaulted_of_lookup (lookup_members s _)).trans (int32?_ofInt32 _)
  trackedConfigs := optional_of_written rfl texts?_ofTexts (lookup_members s _)
  lastAppliedSpec := optional_of_written rfl (fun _ => rfl) (lookup_members s _)
  lastPromotedSpec := optional_of_written rfl (fun _ => rfl) (lookup_members s _)
  lastTransitionTime := optional_of_written rfl (fun _ => rfl) (lookup_members s _)

/-- A written status reads as it was written. -/
theorem ofJson?_toJson (s : CanaryStatus) : ofJson? s.toJson = some s := by
  rw [toJson_eq]
  exact ofJson?_obj_iff.2 s.readFrom_members

/-! ## The patch between two statuses -/

/-- The patch is empty exactly where there is nothing to move. -/
theorem patchTo_eq_empty_iff (s t : CanaryStatus) : s.patchTo t = .obj [] ↔ t = s := by
  constructor
  · intro h
    -- the empty patch leaves the first status as it is written, which then reads as the second
    have hreached := ofJson?_patchTo s.ordered_toJson (by simp [toJson_eq]) (.inr s.ofJson?_toJson) t
    rw [h, toJson_eq] at hreached
    exact Option.some.inj (hreached.symm.trans s.ofJson?_toJson)
  · rintro rfl
    unfold patchTo
    rw [toJson_eq]
    exact (diff_eq_empty_iff (ordered_membersOf _) (ordered_membersOf _)).2 (same_self _)

/-- What no status is written under is left as it was. -/
theorem get?_merge_patchTo (s t : CanaryStatus) {raw : Json} (ho : raw.Ordered) {key : String} (hkey : key ∉ fields) :
    ((s.patchTo t).merge raw).get? key = raw.get? key := by
  unfold patchTo
  rw [toJson_eq, toJson_eq, diff_obj, merge_obj, get?_eq_lookup raw]
  show (mergeMembers _ _).lookup key = _
  rw [lookup_merge_diff (ordered_membersOf _) (ordered_membersOf _) ho.membersOrNone.1, s.lookup_members_other hkey,
    t.lookup_members_other hkey]
  rfl

end CanaryStatus

namespace Canary

/-! ## The patch on a stored canary -/

/-- A canary in which what reads as a status is put reads as the canary with that status. -/
theorem ofJson?_set_status {object : Json} {c : Canary} (hc : ofJson? object = some c) {j : Json}
    {status : CanaryStatus} (hj : CanaryStatus.ofJson? j = some status) :
    ofJson? (object.set "status" j) = some { c with status := some status } := by
  obtain ⟨members, metadata, rfl, hmeta, hm, hspec, -⟩ := ofJson?_eq_some hc
  have hother : ∀ {key : String}, key ≠ "status" → (Assoc.insert "status" j members).lookup key = members.lookup key :=
    fun hkey => by rw [Assoc.lookup_insert, if_neg hkey]
  have hput : (Assoc.insert "status" j members).lookup "status" = some j := by rw [Assoc.lookup_insert, if_pos rfl]
  have hne : j ≠ .null := by
    rintro rfl
    cases hj
  rw [Json.set, membersOrNone_obj]
  unfold ofJson?
  simp only [Option.bind_eq_bind, Option.bind_eq_some_iff, Option.pure_def, Option.some.injEq]
  refine ⟨c.metadata, ?_, c.spec, ?_, some status, ?_, rfl⟩
  · unfold required
    rw [hother (by decide), hmeta]
    exact hm
  · rw [required_congr (hother (by decide)), hspec]
  · rw [optional_of_lookup hput hne, hj]
    rfl

/-- What a server makes of a canary by the patch: its status is patched, and that is all. -/
theorem merge_statusPatch {object : Json} {c : Canary} (hc : ofJson? object = some c) (status : CanaryStatus) :
    (World.relevant (some "status") (c.statusPatch status)).merge object =
      object.set "status" (((c.status.getD {}).patchTo status).merge ((object.get? "status").getD .null)) := by
  obtain ⟨members, -, rfl, -⟩ := ofJson?_eq_some hc
  rw [relevant_statusPatch, merge_obj, membersOrNone_obj, mergeMembers_cons (patchTo_ne_null _ _), mergeMembers_nil]
  rfl

/-- A stored canary is patched to another status. Applied to the stored status, be it missing, null or an object,
the status part of the patch gives what reads as exactly that status, with every member that is no field of a
status as it was. The part is empty if and only if the canary has that status already. As the server applies the
patch, the stored canary becomes the one that it is with the status replaced. -/
theorem statusPatch_reaches {object : Json} (ho : object.Ordered) (hs : StatusNotListed object) {c : Canary}
    (hc : ofJson? object = some c) (desired : CanaryStatus) :
    ∃ part, (c.statusPatch desired).get? "status" = some part ∧
      CanaryStatus.ofJson? (part.merge ((object.get? "status").getD .null)) = some desired ∧
      (∀ key ∉ CanaryStatus.fields, (part.merge ((object.get? "status").getD .null)).get? key =
        ((object.get? "status").getD .null).get? key) ∧
      (part = .obj [] ↔ desired = c.status.getD {}) ∧
      ofJson? ((World.relevant (some "status") (c.statusPatch desired)).merge object) =
        some { c with status := some desired } ∧
      ofJson? (object.set "status" desired.toJson) = some { c with status := some desired } := by
  have hreached := CanaryStatus.ofJson?_patchTo ho.get? hs.ne_arr (status_of_ofJson? hc) desired
  refine ⟨(c.status.getD {}).patchTo desired, get?_statusPatch c desired, hreached,
    fun key hkey => CanaryStatus.get?_merge_patchTo _ _ ho.get? hkey, CanaryStatus.patchTo_eq_empty_iff _ _, ?_,
    ofJson?_set_status hc desired.ofJson?_toJson⟩
  rw [merge_statusPatch hc]
  exact ofJson?_set_status hc hreached

/-- A config that is tracked no longer goes and a weight comes, in a status that holds a null, lacks the
defaults and carries a note of someone else. -/
theorem statusPatch_reaches_untracked :
    let raw := obj [("lastAppliedSpec", .null), ("note", .str "kept"), ("phase", .str "Progressing"),
      ("trackedConfigs", obj [("configmap/a", .str "1"), ("configmap/b", .str "2")])]
    let object := obj [("metadata", obj [("name", .str "podinfo")]),
      ("spec", obj [("targetRef", obj [("apiVersion", .str "apps/v1"), ("kind", .str "Deployment"),
        ("name", .str "podinfo")])]),
      ("status", raw)]
    let desired : CanaryStatus :=
      { phase := some .progressing, canaryWeight := 20, trackedConfigs := some (.ofList [("configmap/b", "2")]) }
    ∃ c part, ofJson? object = some c ∧ (c.statusPatch desired).get? "status" = some part ∧
      CanaryStatus.ofJson? (part.merge raw) = some desired ∧ (part.merge raw).get? "note" = some (.str "kept") ∧
      part ≠ .obj [] := by
  intro raw object desired
  have ho : object.Ordered := by simp only [object, raw, Ordered, OrderedMembers]; decide
  have hc : ofJson? object = some {
      metadata := { name := some "podinfo" }
      spec := { targetRef := { apiVersion := "apps/v1", kind := "Deployment", name := "podinfo" } }
      status := some { phase := some .progressing
                       trackedConfigs := some (.ofList [("configmap/a", "1"), ("configmap/b", "2")]) } } := by decide
  have hs : StatusNotListed object := fun items h => Json.noConfusion (Option.some.inj h)
  obtain ⟨part, hpart, hreached, hother, hempty, -⟩ := statusPatch_reaches ho hs hc desired
  refine ⟨_, part, hc, hpart, hreached, hother "note" (by decide), fun h => ?_⟩
  exact absurd (hempty.1 h) (by decide)

end Canary

end Rollout
