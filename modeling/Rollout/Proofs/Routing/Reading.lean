/-
How a route is read. Whether one of the two services is among the backends is asked twice, by the look that comes
before a route is seeded and by the reader of the split, and the two agree on values of every shape
(`HttpRoute.isRouted_eq_carries`). Main statements: `HttpRoute.weights_body` and `HttpRoute.isRouted_body`, what is
read of a route over the wire is what the stored value says.
-/
import Rollout.Proofs.Routing.Written

namespace Rollout

open Json

namespace HttpRoute

/-! ## Two looks at the backends -/

/-- Whether the split that is read names one of the two services. -/
def carries (c : Canary) (route : Json) : Bool :=
  (route.pointer? ["spec", "rules", "0"]).any fun rule =>
    (weightOf? rule c.primaryService).isSome || (weightOf? rule c.canaryService).isSome

section Shapes

variable {c : Canary} {route : Json}

theorem backends_eq (route : Json) : backends route = (((route.pointer? ["spec", "rules", "0"]).bind
    (·.get? "backendRefs")).bind (·.items?)).getD [] := by
  have hlast : ∀ rule : Json, rule.pointer? ["backendRefs"] = rule.get? "backendRefs" := fun rule => by
    rw [pointer?_eq_path? (by decide +kernel), path?_singleton]
  unfold backends
  rw [show ["spec", "rules", "0", "backendRefs"] = ["spec", "rules", "0"] ++ ["backendRefs"] from rfl, pointer?_append,
    funext hlast]

/-- A weight is found where a backend of that name is listed. -/
theorem isSome_weightOf? (rule : Json) (name : String) : (weightOf? rule name).isSome =
    (((rule.get? "backendRefs").bind (·.items?)).getD []).any (isNamed name) := by
  unfold weightOf?
  rw [Option.isSome_map]
  cases (rule.get? "backendRefs").bind (·.items?) with
  | none => rfl
  | some items => exact List.isSome_find?

/-- The look before seeding and the reader of the split agree on values of every shape. -/
theorem isRouted_eq_carries (c : Canary) (route : Json) : isRouted c route = carries c route := by
  unfold isRouted carries
  rw [backends_eq]
  cases route.pointer? ["spec", "rules", "0"] with
  | none => rfl
  | some rule =>
    rw [Option.any_some, isSome_weightOf?, isSome_weightOf?, Option.bind_some]
    induction ((rule.get? "backendRefs").bind (·.items?)).getD [] with
    | nil => rfl
    | cons backend rest ih => simp only [List.any_cons, ih, Bool.or_assoc, Bool.or_left_comm]

/-- A split that names neither service is read as all traffic on the baseline. -/
theorem weights_of_not_carries (h : carries c route = false) :
    weights route c.primaryService c.canaryService = .primaryOnly := by
  unfold carries at h
  unfold weights
  cases hrule : route.pointer? ["spec", "rules", "0"] with
  | none => rfl
  | some rule =>
    rw [hrule, Option.any_some, Bool.or_eq_false_iff, Option.isSome_eq_false_iff, Option.isSome_eq_false_iff,
      Option.isNone_iff_eq_none, Option.isNone_iff_eq_none] at h
    dsimp only
    rw [h.1, h.2]

end Shapes

/-! ## Over the wire -/

section Wire

variable {c : Canary} {j r : Json} {m : Manifest} (h : j.ReadAs r)

include h

theorem isNamed_of_readAs (name : String) : isNamed name r = isNamed name j := by
  unfold isNamed
  rw [bind_eq_of_rel (h.get? "name") ReadAs.text?]

theorem isMirror_of_readAs : isMirror r = isMirror j := by
  unfold isMirror
  rw [bind_eq_of_rel (h.get? "type") ReadAs.text?]

theorem weightOf?_of_readAs (name : String) : weightOf? r name = weightOf? j name := by
  have hweight : ∀ {backend read : Json}, backend.ReadAs read →
      (((read.get? "weight").bind (·.int64?)).map (·.toInt32)).getD 1 =
        (((backend.get? "weight").bind (·.int64?)).map (·.toInt32)).getD 1 := fun hbackend => by
    rw [bind_eq_of_rel (hbackend.get? "weight") ReadAs.int64?]
  unfold weightOf?
  have hfound := rel_bind (rel_bind (h.get? "backendRefs") ReadAs.items?)
    fun hitems => find?_resentItems (fun hj => isNamed_of_readAs hj name) hitems
  rw [Option.map_eq_bind, Option.map_eq_bind]
  exact bind_eq_of_rel hfound fun hbackend => congrArg some (hweight hbackend)

theorem any_isMirror_of_readAs : (filters r).any isMirror = (filters j).any isMirror := by
  have hrel := rel_bind (h.get? "filters") ReadAs.items?
  unfold filters
  generalize (j.get? "filters").bind (·.items?) = stored at hrel ⊢
  generalize (r.get? "filters").bind (·.items?) = found at hrel ⊢
  cases hrel with
  | none => rfl
  | some hitems => exact any_resentItems isMirror_of_readAs hitems

/-- The split that is read is the one that is stored. -/
theorem weights_of_readAs (primary canary : String) : weights r primary canary = weights j primary canary := by
  have hrel := h.pointer? ["spec", "rules", "0"]
  unfold weights
  generalize j.pointer? ["spec", "rules", "0"] = stored at hrel ⊢
  generalize r.pointer? ["spec", "rules", "0"] = found at hrel ⊢
  cases hrel with
  | none => rfl
  | some hrule =>
    dsimp only
    rw [weightOf?_of_readAs hrule, weightOf?_of_readAs hrule, any_isMirror_of_readAs hrule]

theorem carries_of_readAs (c : Canary) : carries c r = carries c j := by
  have hrel := h.pointer? ["spec", "rules", "0"]
  unfold carries
  generalize j.pointer? ["spec", "rules", "0"] = stored at hrel ⊢
  generalize r.pointer? ["spec", "rules", "0"] = found at hrel ⊢
  cases hrel with
  | none => rfl
  | some hrule => rw [Option.any_some, Option.any_some, weightOf?_of_readAs hrule, weightOf?_of_readAs hrule]

omit h in
/-- What is below the specification is kept with the rest of an object. -/
theorem pointer?_body (hm : Manifest.ofJson? r = some m) (rest : List String) :
    m.body.pointer? ("spec" :: rest) = r.pointer? ("spec" :: rest) := by
  obtain ⟨members, -, rfl, -, -, hbody⟩ := Manifest.ofJson?_eq_some hm
  rw [hbody]
  show ((Manifest.bodyMembers members).lookup "spec").bind _ = (members.lookup "spec").bind _
  rw [Manifest.lookup_bodyMembers]

/-- A route that has been read has the split of the one that is stored. -/
theorem weights_body (hm : Manifest.ofJson? r = some m) (primary canary : String) :
    weights m.body primary canary = weights j primary canary := by
  rw [← weights_of_readAs h]
  unfold weights
  rw [pointer?_body hm]

/-- It is not seeded where the stored split names one of the two services. -/
theorem isRouted_body (hm : Manifest.ofJson? r = some m) (c : Canary) : isRouted c m.body = carries c j := by
  rw [isRouted_eq_carries, ← carries_of_readAs h]
  unfold carries
  rw [pointer?_body hm]

end Wire

end HttpRoute

end Rollout
