/-
What a split leaves in stored objects. Of an object it concerns two traits, the rules of a route and the
size of a workload (`Trait`). A change of a workload puts its size (`puts_change`), writing a split puts
the rules of the route (`exists_puts_setRoutes`), each by one patch at most and whatever else the objects hold;
where the value is there already there is nothing to patch.
-/
import Rollout.Proofs.Api.Client
import Rollout.Proofs.Controller.Scaling
import Rollout.Proofs.Routing.Rewrite

namespace Rollout

open Program Json Api

/-! ## Traits -/

/-- What of an object is looked at. -/
inductive Trait where
  | rules
  | size
deriving DecidableEq

/-- The path to what a controller changes to give a workload its size. -/
def Controller.sizePath (k : Controller) : List String := (k.resize 0).path

theorem Controller.path_resize (k : Controller) (replicas : Int32) : (k.resize replicas).path = k.sizePath := by
  cases k <;> rfl

/-- A size is a replica count, or lies away from it and from the rules. -/
theorem Controller.sizePath_cases (k : Controller) : k.sizePath = ["spec", "replicas"] ∨
    ∃ key rest, k.sizePath = "spec" :: key :: rest ∧ key ≠ "replicas" ∧ key ≠ "rules" := by
  cases k with
  | daemonSet => exact .inr ⟨"template", _, rfl, by decide, by decide⟩
  | deployment | service | rolling | swap => exact .inl rfl

/-- The path to a trait. -/
def Trait.path (k : Controller) : Trait → List String
  | .rules => ["spec", "rules"]
  | .size => k.sizePath

theorem Trait.exists_path (k : Controller) (t : Trait) : ∃ rest, t.path k = "spec" :: rest := by
  cases t with
  | rules => exact ⟨_, rfl⟩
  | size => cases k <;> exact ⟨_, rfl⟩

namespace World

/-- What a stored object holds of a trait. -/
def holds (k : Controller) (w : World) (x : WorkloadRef × Trait) : Option Json :=
  (w.store.get? x.1).bind (·.path? (x.2.path k))

/-- The second world knows the same kinds and stores the same objects, in order and fit to be read if
they were. -/
structure Keeps (origin w : World) : Prop where
  kinds : w.kinds = origin.kinds
  objects : ∀ ref, Option.Rel Follows (origin.store.get? ref) (w.store.get? ref)

variable {origin w w' : World} {k : Controller} {spot : WorkloadRef} {j : Json}

theorem Keeps.refl (h : ∀ ref j, w.store.get? ref = some j → j.Ordered) : Keeps w w := by
  refine ⟨rfl, fun ref => ?_⟩
  cases hj : w.store.get? ref with
  | none => exact .none
  | some j => exact .some (Follows.refl (h ref j hj))

theorem Keeps.congr (h : Keeps origin w) (hc : w'.content = w.content) : Keeps origin w' :=
  ⟨(kinds_eq_of_content hc).trans h.kinds, fun ref => by rw [store_eq_of_content hc]; exact h.objects ref⟩

theorem holds_congr (hc : w'.content = w.content) (x : WorkloadRef × Trait) : w'.holds k x = w.holds k x := by
  unfold holds
  rw [store_eq_of_content hc]

theorem Keeps.exists_object (h : Keeps origin w) (hj : origin.store.get? spot = some j) (hr : Readable j) :
    ∃ j', w.store.get? spot = some j' ∧ j'.Ordered ∧ Readable j' := by
  have hrel := h.objects spot
  rw [hj] at hrel
  cases hj' : w.store.get? spot with
  | none => rw [hj'] at hrel; cases hrel
  | some j' =>
    rw [hj'] at hrel
    cases hrel with
    | some hfollows => exact ⟨j', rfl, hfollows.1, hfollows.2 hr⟩

theorem Keeps.stored?_eq_none (h : Keeps origin w) {path : String} (hn : origin.stored? path = none) :
    w.stored? path = none := by
  unfold stored? at hn ⊢
  rw [named?_congr h.kinds]
  cases hp : origin.named? path with
  | none => rfl
  | some place =>
    rw [hp, Option.bind_some] at hn
    have hrel := h.objects place.1
    rw [hn] at hrel
    cases hj : w.store.get? place.1 with
    | none => exact hj
    | some j => rw [hj] at hrel; cases hrel

/-- The second world keeps the objects of the first, and its rules are such as are asked for. -/
def Stands (k : Controller) (origin : World) (asked : (WorkloadRef → Option Json) → Prop) (w : World) : Prop :=
  Keeps origin w ∧ asked fun ref => w.holds k (ref, .rules)

theorem Stands.congr {asked : (WorkloadRef → Option Json) → Prop} (h : Stands k origin asked w)
    (hc : w'.content = w.content) : Stands k origin asked w' := by
  refine ⟨h.1.congr hc, ?_⟩
  simp only [holds_congr hc]
  exact h.2

end World

open World

/-! ## Patches and traits -/

/-- The traits of one object, as cells. -/
def traitsOf (spot : WorkloadRef) (put : Trait → Option (Option Json)) (x : WorkloadRef × Trait) :
    Option (Option Json) :=
  if x.1 = spot then put x.2 else none

section Effect

variable {ρ : Type} (k : Controller) (word : Nat → String) (p : Program Api.interface ρ) (reply : ρ)
  (spot : WorkloadRef) (put : Trait → Option (Option Json))

/-- Without faults the program ends with the reply and has put some traits of one object: they are there
already, or a patch puts them. -/
inductive Effect (w : World) : Prop
  | idle {w' : World} : Ends (fair word) p w reply w' → w'.content = w.content →
      (∀ t v, put t = some v → w.holds k (spot, t) = v) → Effect w
  | patched {w' : World} {j : Json} {changes : List (String × Json)} : Ends (fair word) p w reply w' →
      w'.content = ({ w with store := w.store.put spot (merge (obj changes) j) } : World).content →
      w.store.get? spot = some j → j.Ordered → Readable j → Sound changes →
      (∀ t, (merge (obj changes) j).path? (t.path k) = (put t).getD (j.path? (t.path k))) → Effect w

variable {k word p reply spot put} {origin w : World}

theorem Effect.ends (h : Effect k word p reply spot put w) (hw : Keeps origin w) :
    ∃ w', Ends (fair word) p w reply w' ∧ Keeps origin w' ∧
      ∀ x, w'.holds k x = (traitsOf spot put x).getD (w.holds k x) := by
  cases h with
  | @idle w' hends hcontent hthere =>
    refine ⟨w', hends, hw.congr hcontent, fun x => ?_⟩
    rw [holds_congr hcontent]
    unfold traitsOf
    split
    · rename_i hx
      cases hput : put x.2 with
      | none => rfl
      | some v => rw [← hthere x.2 v hput, ← hx]; rfl
    · rfl
  | @patched w' j changes hends hcontent hj ho hr hs hput =>
    obtain ⟨hordered, hreadable⟩ := hr.patched ho hs (w.store.version + 1)
    have hstore := store_eq_of_content hcontent
    have hget : ∀ ref, w'.store.get? ref =
        if ref = spot then some (Store.stamped (w.store.version + 1) (merge (obj changes) j))
        else w.store.get? ref := by
      intro ref
      rw [hstore]
      exact Store.get?_put ..
    refine ⟨w', hends, ⟨(kinds_eq_of_content hcontent).trans hw.kinds, fun ref => ?_⟩, fun x => ?_⟩
    · rw [hget]
      split
      · rename_i href
        have hrel := hw.objects spot
        rw [hj] at hrel
        subst href
        cases horigin : origin.store.get? ref with
        | none => rw [horigin] at hrel; cases hrel
        | some j₀ => exact .some ⟨hordered, fun _ => hreadable⟩
      · exact hw.objects ref
    · unfold holds traitsOf
      rw [hget]
      split
      · rename_i hx
        obtain ⟨rest, hpath⟩ := x.2.exists_path k
        rw [hx, hj, Option.bind_some, Option.bind_some, ← hput, hpath, Store.path?_stamped _ (by decide)]
      · rfl

/-- A program that stops in time and has this effect wherever objects are kept puts these traits. What is
asked of the rules that are there has to hold of those that are put. -/
theorem puts_of_effect {stops : ρ → Prop} {asked : (WorkloadRef → Option Json) → Prop} (hp : Careful stops p)
    (heffect : ∀ w, Stands k origin asked w → Effect k word p reply spot put w)
    (hasked : ∀ held, asked held → asked fun ref => (traitsOf spot put (ref, .rules)).getD (held ref)) :
    Puts (fair word) Failed (Stands k origin asked) (holds k) p reply (traitsOf spot put) := by
  have hends : ∀ {w}, Stands k origin asked w → ∃ w', Ends (fair word) p w reply w' ∧ Stands k origin asked w' ∧
      ∀ x, w'.holds k x = (traitsOf spot put x).getD (w.holds k x) := by
    intro w hw
    obtain ⟨w', hends, hkeeps, hholds⟩ := (heffect w hw).ends hw.1
    refine ⟨w', hends, ⟨hkeeps, ?_⟩, hholds⟩
    simp only [hholds]
    exact hasked _ hw.2
  refine ⟨hends, fun {w w' b} hw hfaulty => ?_⟩
  obtain ⟨w₁, hended, hw₁, hholds⟩ := hends hw
  rcases Careful.content_of_faulty hp hfaulty hended with hcontent | hcontent
  · exact ⟨hw.congr hcontent, .inl fun x => holds_congr hcontent x⟩
  · exact ⟨hw₁.congr hcontent, .inr fun x => by rw [holds_congr hcontent, hholds]⟩

end Effect

/-! ## What a patch comes to -/

/-- What is answered to a patch can be read if the object can. -/
theorem Readable.shown {j : Json} (h : Readable j) (ref : WorkloadRef) (part : Option String) :
    Readable (World.shown ref part j) := by
  unfold World.shown
  split
  · exact h
  · exact h
  · obtain ⟨r, m, hr, -⟩ := h
    have hcount := ReadAs.getD (hr.path? ["spec", "replicas"])
    have hspec : (object [("replicas", (j.path? ["spec", "replicas"]).getD .null)]).ReadAs
        (object [("replicas", (r.path? ["spec", "replicas"]).getD .null)]) :=
      readAs_obj_iff.2 ⟨_, resentMembers?_insert hcount rfl, rfl⟩
    have hname : (object [("name", .str ref.name), ("namespace", .str ref.ns)]).Steady :=
      steady_object (by simp [HttpRoute.steady_str])
    obtain ⟨md, hmd⟩ : ∃ md,
        Metadata.ofJson? (object [("name", .str ref.name), ("namespace", .str ref.ns)]) = some md := by
      unfold Json.object
      rw [Assoc.Ordered.ofList_eq (List.pairwise_pair.2 (show "name" < "namespace" by decide))]
      exact ⟨_, rfl⟩
    obtain ⟨m', hm'⟩ := Manifest.exists_ofJson? (Assoc.insert "spec"
      (object [("replicas", (r.path? ["spec", "replicas"]).getD .null)]) (Assoc.insert "metadata"
        (object [("name", .str ref.name), ("namespace", .str ref.ns)]) (Assoc.insert "kind" (.str Scale.kind)
          (Assoc.insert "apiVersion" (.str Scale.apiVersion) []))))
      (by rw [Assoc.lookup_insert, if_neg (by decide), Assoc.lookup_insert, if_pos rfl]; rfl) hmd
    refine ⟨_, m', readAs_obj_iff.2 ⟨_, ?_, rfl⟩, hm'⟩
    exact resentMembers?_insert hspec (resentMembers?_insert hname (resentMembers?_insert (HttpRoute.steady_str _)
      (resentMembers?_insert (HttpRoute.steady_str _) rfl)))

theorem isOutdated_of_none {body : Json} (h : body.get? "metadata" = none) (j : Json) : isOutdated body j = false := by
  unfold isOutdated Store.versionOf?
  rw [path?_cons, h]; rfl

/-- The version that was read is the one that is stored. -/
theorem isOutdated_of_read {j r : Json} {m : Manifest} (hr : j.ReadAs r) (hm : Manifest.ofJson? r = some m)
    {body : Json} (hbody : Store.versionOf? body = some (ofOption .str m.metadata.resourceVersion)) :
    isOutdated body j = false := by
  unfold isOutdated
  rw [hbody]
  cases hv : m.metadata.resourceVersion with
  | none => rfl
  | some version =>
    have hrel := hr.path? ["metadata", "resourceVersion"]
    have hread : r.path? ["metadata", "resourceVersion"] = some (.str version) := Manifest.resourceVersion_eq hm hv
    rw [hread] at hrel
    unfold Store.versionOf?
    cases hj : j.path? ["metadata", "resourceVersion"] with
    | none => rw [hj] at hrel; cases hrel
    | some stored =>
      rw [hj] at hrel
      cases hrel with
      | some hstored =>
        rw [hstored.eq (by simp) (by simp) (by simp)]
        simp [ofOption, same_self]

/-- The patch of an object is taken where the object is stored, and its answer can be read. -/
theorem ends_patch (word : Nat → String) {a : Address} {spot : WorkloadRef} {part : Option String} {w : World}
    {sent : Sent} {body j : Json} {changes : List (String × Json)} (ht : objectTarget? a .whole = some sent)
    (hn : w.named? sent.path = some (spot, part)) (hj : w.store.get? spot = some j) (ho : j.Ordered) (hr : Readable j)
    (hb : body.Steady) (hversion : isOutdated body j = false) (hrelevant : relevant part body = obj changes)
    (hs : Sound changes) : ∃ m' w', Ends (fair word) (patch Manifest.ofJson? a .whole body) w (.ok m') w' ∧
      w'.content = ({ w with store := w.store.put spot (merge (obj changes) j) } : World).content := by
  obtain ⟨w', hserve, hc⟩ := fair_patch word hn hj hversion
  obtain ⟨r', m', hr', hm'⟩ := ((hr.patched ho hs (w.store.version + 1)).2).shown spot part
  refine ⟨m', w', ?_, by rw [hc, hrelevant]⟩
  unfold patch
  rw [ht, show body.resent? = some body from hb]
  refine ends_ask_iff.2 ⟨_, _, hserve, ends_done_iff.2 ⟨(readable_eq_ok_iff.2 ⟨r', ?_, hm'⟩).symm, rfl⟩⟩
  rw [hrelevant]; exact hr'

/-- A program that ends as it should once its patch is answered has this effect, if what counts of the
patch puts the traits. -/
theorem effect_of_patch {ρ : Type} {k : Controller} {word : Nat → String} {p : Program Api.interface ρ} {reply : ρ}
    {a : Address} {spot : WorkloadRef} {part : Option String} {put : Trait → Option (Option Json)} {w w₁ : World}
    {sent : Sent} {body j : Json} {changes : List (String × Json)} (ht : objectTarget? a .whole = some sent)
    (hn : w.named? sent.path = some (spot, part)) (hj : w.store.get? spot = some j) (ho : j.Ordered) (hr : Readable j)
    (hc : w₁.content = w.content) (hb : body.Steady) (hversion : isOutdated body j = false)
    (hrelevant : relevant part body = obj changes) (hs : Sound changes)
    (hput : ∀ t : Trait, (merge (obj changes) j).path? (t.path k) = (put t).getD (j.path? (t.path k)))
    (hp : ∀ {m' w'}, Ends (fair word) (patch Manifest.ofJson? a .whole body) w₁ (.ok m') w' →
      Ends (fair word) p w reply w') : Effect k word p reply spot put w := by
  obtain ⟨m', w', hpatched, hc'⟩ := ends_patch word ht ((named?_congr (kinds_eq_of_content hc) _).trans hn)
    (by rw [store_eq_of_content hc]; exact hj) ho hr hb hversion hrelevant hs
  refine .patched (hp hpatched) ?_ hj ho hr hs hput
  rw [hc', store_eq_of_content hc]
  exact congrArg (fun v : World => { v with store := w.store.put spot (merge (obj changes) j) }) hc

/-! ### Patches of a part -/

/-- A patch with one member other than the metadata. -/
theorem sound_nested {key : String} (hkey : key ≠ "metadata") {j : Json} (ho : j.Ordered) (hs : j.Steady)
    (rest : List String) : Sound [(key, nested rest j)] := by
  refine ⟨ordered_nested ho (key :: rest), .inl ?_, steady_nested hs (key :: rest)⟩
  have hne : ("metadata" == key) = false := by simpa using Ne.symm hkey
  rw [List.lookup_cons, hne]; rfl

/-- What a patch with this replica count puts where it is sent to a part. -/
def counting (k : Controller) (part : String) (count : Json) : Trait → Option (Option Json)
  | .rules => none
  | .size => if part ≠ "status" ∧ k.sizePath = ["spec", "replicas"] then some (changed? count none) else none

/-- A replica count is put whatever was there, and nothing else is. -/
theorem path?_merge_count {k : Controller} {part : String} (hpart : part ≠ "status") {count : Json}
    (hplain : ∀ changes, count ≠ .obj changes) {j : Json} (hj : j.Ordered) (t : Trait) :
    (merge (obj [("spec", obj [("replicas", count)])]) j).path? (t.path k) =
      (counting k part count t).getD (j.path? (t.path k)) := by
  have hmerge := path?_merge_spec (List.pairwise_singleton _ _)
    (show List.lookup "spec" [("spec", obj [("replicas", count)])] = some (obj [("replicas", count)]) from rfl)
    (List.pairwise_singleton _ _) hj
  have hkept : ∀ key rest, key ≠ "replicas" → (merge (obj [("spec", obj [("replicas", count)])]) j).path?
      ("spec" :: key :: rest) = j.path? ("spec" :: key :: rest) := by
    intro key rest hkey
    have hne : (key == "replicas") = false := by simpa using hkey
    rw [hmerge, List.lookup_cons, hne]; rfl
  cases t with
  | rules => exact hkept _ _ (by decide)
  | size =>
    rcases k.sizePath_cases with hsize | ⟨key, rest, hsize, hkey, -⟩
    · rw [show counting k part count .size = some (changed? count none) from if_pos ⟨hpart, hsize⟩, Trait.path, hsize,
        hmerge]
      cases count
      case obj changes => exact absurd rfl (hplain changes)
      all_goals rfl
    · rw [show counting k part count .size = none from if_neg fun h => by
        rw [hsize] at h; exact hkey (List.cons.inj (List.cons.inj h.2).2).1, Trait.path, hsize]
      exact hkept _ _ hkey

/-- What counts of a patch for a part is the status, or the replica count. -/
theorem relevant_some (part : String) (body : Json) :
    part = "status" ∧ relevant (some part) body = obj [("status", (body.get? "status").getD .null)] ∨
      part ≠ "status" ∧ relevant (some part) body =
        obj [("spec", obj [("replicas", (body.path? ["spec", "replicas"]).getD .null)])] := by
  by_cases hpart : part = "status"
  · subst hpart
    exact .inl ⟨rfl, rfl⟩
  · refine .inr ⟨hpart, ?_⟩
    unfold relevant
    split
    · rename_i heq; cases heq
    · rename_i heq; exact absurd (Option.some.inj heq) hpart
    · rfl

/-- Of a patch that is sent to a part, the replica count counts, or, for the status, nothing of the
specification. -/
theorem relevant_part (k : Controller) (part : String) (body : Json) (hstatus : body.get? "status" = none)
    (hplain : ∀ changes, (body.path? ["spec", "replicas"]).getD .null ≠ .obj changes)
    (ho : ((body.path? ["spec", "replicas"]).getD .null).Ordered)
    (hs : ((body.path? ["spec", "replicas"]).getD .null).Steady) :
    ∃ changes', relevant (some part) body = obj changes' ∧ Sound changes' ∧ ∀ j : Json, j.Ordered → ∀ t : Trait,
      (merge (obj changes') j).path? (t.path k) =
        (counting k part ((body.path? ["spec", "replicas"]).getD .null) t).getD (j.path? (t.path k)) := by
  rcases relevant_some part body with ⟨rfl, hrelevant⟩ | ⟨hpart, hrelevant⟩
  · rw [hstatus] at hrelevant
    refine ⟨_, hrelevant, sound_nested (by decide) (j := .null) trivial readAs_null [], fun j hj t => ?_⟩
    obtain ⟨rest, hpath⟩ := t.exists_path k
    rw [show counting k "status" _ t = none by cases t <;> simp [counting], hpath]
    exact path?_merge_of_none (List.pairwise_singleton _ _) rfl hj rest
  · exact ⟨_, hrelevant, sound_nested (by decide) ho hs ["replicas"], fun j hj t => path?_merge_count hpart hplain hj t⟩

/-! ## Changing a workload -/

/-- What the patch for a size puts, sent to an object or to a part of it. -/
def sizing (k : Controller) (replicas : Int32) : Option String → Trait → Option (Option Json)
  | none, .size => some (k.resize replicas).value
  | none, .rules => none
  | some part, t => counting k part (.int replicas.toInt) t

theorem counting_of_daemonSet (part : String) (count : Json) : counting .daemonSet part count .size = none :=
  if_neg fun h => absurd h.2 (by decide)

/-- What is put for a size is the size. -/
theorem sizing_eq_some {k : Controller} {replicas : Int32} {part : Option String} {t : Trait} {v : Option Json}
    (h : sizing k replicas part t = some v) : t = .size ∧ v = (k.resize replicas).value := by
  cases part with
  | none =>
    cases t with
    | rules => cases h
    | size => exact ⟨rfl, (Option.some.inj h).symm⟩
  | some part =>
    cases t with
    | rules => cases h
    | size =>
      refine ⟨rfl, ?_⟩
      rw [show sizing k replicas (some part) .size = counting k part (.int replicas.toInt) .size from rfl] at h
      cases k with
      | daemonSet => rw [counting_of_daemonSet] at h; cases h
      | deployment | service | rolling | swap =>
        unfold counting at h
        dsimp only at h
        split at h
        · exact (Option.some.inj h).symm
        · cases h

/-- Of the patch for a size, what counts for a part of the object puts the size, unless it does not get
through, and leaves the rules alone. -/
theorem relevant_change (k : Controller) (replicas : Int32) (part : Option String) {found : Option Json}
    {changes : List (String × Json)} (hm : (k.resize replicas).Members found changes) :
    ∃ changes', relevant part (nested (k.resize replicas).place.1 (obj changes)) = obj changes' ∧ Sound changes' ∧
      ∀ j : Json, j.Ordered → (found = none → j.path? k.sizePath = none) → ∀ t : Trait,
        (merge (obj changes') j).path? (t.path k) = (sizing k replicas part t).getD (j.path? (t.path k)) := by
  have hplace : ∃ rest, (k.resize replicas).place.1 = "spec" :: rest := by cases k <;> exact ⟨_, rfl⟩
  obtain ⟨rest, hrest⟩ := hplace
  -- what is in the specification of the patch
  obtain ⟨key, value, hspec, hkey⟩ : ∃ key value,
      nested (k.resize replicas).place.1 (obj changes) = obj [("spec", obj [(key, value)])] ∧
        (key = "template" ∧ k = .daemonSet ∨ key = "replicas" ∧ value = .int replicas.toInt) := by
    cases k with
    | daemonSet => exact ⟨"template", _, rfl, .inl ⟨rfl, rfl⟩⟩
    | deployment | service | rolling | swap =>
      obtain rfl : changes = [("replicas", .int replicas.toInt)] := hm.resolve_right fun h => by cases h.2.2
      exact ⟨"replicas", _, rfl, .inr ⟨rfl, rfl⟩⟩
  cases part with
  | none =>
    have hbody : nested (k.resize replicas).place.1 (obj changes) = obj [("spec", nested rest (obj changes))] := by
      rw [hrest]; rfl
    refine ⟨_, hbody, sound_nested (by decide) hm.ordered_obj hm.steady rest, fun j hj hfound t => ?_⟩
    rw [← hbody]
    cases t with
    | rules =>
      have hne : ("rules" == key) = false := by rcases hkey with ⟨rfl, -⟩ | ⟨rfl, -⟩ <;> decide
      rw [hspec, Trait.path, path?_merge_spec (List.pairwise_singleton _ _) rfl (List.pairwise_singleton _ _) hj,
        List.lookup_cons, hne]; rfl
    | size =>
      rw [← k.path_resize replicas] at hfound
      rw [Trait.path, ← k.path_resize replicas]
      exact hm.path?_merge hj hfound
  | some part =>
    -- a count gets through a part, a node selector does not
    obtain ⟨count, hcount, hplain, ho, hs, hsame⟩ : ∃ count : Json,
        ((obj [("spec", obj [(key, value)])]).path? ["spec", "replicas"]).getD .null = count ∧
          (∀ changes, count ≠ .obj changes) ∧ count.Ordered ∧ count.Steady ∧
            ∀ t, counting k part count t = counting k part (.int replicas.toInt) t := by
      rcases hkey with ⟨rfl, rfl⟩ | ⟨rfl, rfl⟩
      · refine ⟨.null, rfl, by simp, trivial, readAs_null, fun t => ?_⟩
        cases t with
        | rules => rfl
        | size => rw [counting_of_daemonSet, counting_of_daemonSet]
      · exact ⟨.int replicas.toInt, rfl, by simp, trivial, rfl, fun t => rfl⟩
    subst hcount
    obtain ⟨changes', hrelevant, hsound, hput⟩ := relevant_part k part (obj [("spec", obj [(key, value)])]) rfl
      hplain ho hs
    rw [← hspec] at hrelevant
    exact ⟨changes', hrelevant, hsound, fun j hj _ t => by rw [hput j hj t, hsame]; rfl⟩

/-- A located workload is given a size: it has the size already, or what counts of the patch is merged in. -/
theorem ends_resize (word : Nat → String) {w : World} {ref spot : WorkloadRef} {a : Address} {path : String}
    {part : Option String} {j r : Json} {m : Manifest} (hl : Located w ref a path)
    (hn : w.named? path = some (spot, part)) (hj : w.store.get? spot = some j) (ho : j.Ordered) (hr : j.ReadAs r)
    (hm : Manifest.ofJson? r = some m) (k : Controller) (replicas : Int32) :
    ∃ w', Ends (fair word) (Api.change ref (k.resize replicas)).run w (.ok ()) w' ∧
      (w'.content = w.content ∧ m.toJson.path? (k.resize replicas).path = (k.resize replicas).value ∨
        ∃ changes changes', (k.resize replicas).Members (m.toJson.path? (k.resize replicas).path) changes ∧
          relevant part (nested (k.resize replicas).place.1 (obj changes)) = obj changes' ∧ Sound changes' ∧
          w'.content = ({ w with store := w.store.put spot (merge (obj changes') j) } : World).content) := by
  have hstored : w.stored? path = some j := by unfold stored?; rw [hn]; exact hj
  obtain ⟨members, hjson, hordered⟩ := Manifest.ordered_toJson hm (hr.ordered ho)
  obtain ⟨w₁, hc, hunchanged, hchanged⟩ := hl.ends_change hstored hr hm word (congrArg (k.resize replicas).patch hjson)
  rw [hjson]
  rcases (k.resize replicas).patch_eq hordered with ⟨hempty, hthere⟩ | ⟨changes, hpatch, hmembers⟩
  · exact ⟨w₁, hunchanged (by rw [hempty]; rfl), .inl ⟨hc, hthere⟩⟩
  · have hnochange : (nested (k.resize replicas).place.1 (obj changes)).isNoChange = false := by cases k <;> rfl
    have hmeta : (nested (k.resize replicas).place.1 (obj changes)).get? "metadata" = none := by cases k <;> rfl
    obtain ⟨changes', hrelevant, hs, -⟩ := relevant_change k replicas part hmembers
    obtain ⟨sent, htarget, rfl⟩ := hl.target
    rw [hpatch] at hchanged
    obtain ⟨m', w', hpatched, hc'⟩ := ends_patch word htarget
      ((named?_congr (kinds_eq_of_content hc) _).trans hn) (by rw [store_eq_of_content hc]; exact hj) ho ⟨r, m, hr, hm⟩
      (steady_nested hmembers.steady _) (isOutdated_of_none hmeta j) hrelevant hs
    refine ⟨w', hchanged hnochange hpatched, .inr ⟨changes, changes', hmembers, hrelevant, hs, ?_⟩⟩
    rw [hc', store_eq_of_content hc]
    exact congrArg (fun v : World => { v with store := w.store.put spot (merge (obj changes') j) }) hc

/-- A change of a workload that is located puts its size, if the change gets through. -/
theorem effect_change (word : Nat → String) {origin w : World} {ref spot : WorkloadRef} {a : Address} {path : String}
    {part : Option String} {j₀ : Json} (hl : Located origin ref a path)
    (hn : origin.named? path = some (spot, part)) (hj₀ : origin.store.get? spot = some j₀) (hr₀ : Readable j₀)
    (k : Controller) (replicas : Int32) (hw : Keeps origin w) :
    Effect k word (Api.change ref (k.resize replicas)).run (.ok ()) spot (sizing k replicas part) w := by
  obtain ⟨j, hj, ho, r, m, hr, hm⟩ := hw.exists_object hj₀ hr₀
  -- what is written of the object holds the size as it was read
  have hsize : Option.Rel ReadAs (j.path? k.sizePath) (m.toJson.path? (k.resize replicas).path) := by
    obtain ⟨rest, hrest⟩ := Trait.exists_path k .size
    rw [k.path_resize, show k.sizePath = "spec" :: rest from hrest, Manifest.path?_toJson hm]
    exact hr.path? _
  obtain ⟨w', hends, ⟨hc, hthere⟩ | ⟨changes, changes', hmembers, hrelevant, hs, hc⟩⟩ := ends_resize word
    (hl.congr hw.kinds) ((named?_congr hw.kinds path).trans hn) hj ho hr hm k replicas
  · refine .idle hends hc fun t v hput => ?_
    obtain ⟨rfl, rfl⟩ := sizing_eq_some hput
    show (w.store.get? spot).bind (·.path? k.sizePath) = _
    rw [hj, Option.bind_some]
    rw [hthere] at hsize
    exact (k.resize replicas).eq_of_readAs hsize
  · have hnone : m.toJson.path? (k.resize replicas).path = none → j.path? k.sizePath = none := by
      intro hnone
      rw [hnone] at hsize
      cases hs : j.path? k.sizePath with
      | none => rfl
      | some x => rw [hs] at hsize; cases hsize
    obtain ⟨_, hrelevant', -, hput⟩ := relevant_change k replicas part hmembers
    cases hrelevant.symm.trans hrelevant'
    exact .patched hends hc hj ho ⟨r, m, hr, hm⟩ hs (hput j ho hnone)

theorem puts_change (word : Nat → String) {origin : World} {ref spot : WorkloadRef} {a : Address} {path : String}
    {part : Option String} {j₀ : Json} (hl : Located origin ref a path)
    (hn : origin.named? path = some (spot, part)) (hj₀ : origin.store.get? spot = some j₀) (hr₀ : Readable j₀)
    (k : Controller) (replicas : Int32) (asked : (WorkloadRef → Option Json) → Prop) :
    Puts (fair word) Failed (Stands k origin asked) (holds k) (Api.change ref (k.resize replicas)).run (.ok ())
      (traitsOf spot (sizing k replicas part)) := by
  refine puts_of_effect (change_careful _ _)
    (fun _ hw => effect_change word hl hn hj₀ hr₀ k replicas hw.1) fun held h => ?_
  have hnone : ∀ ref, traitsOf spot (sizing k replicas part) (ref, .rules) = none := by
    intro ref
    unfold traitsOf
    split
    · cases part <;> rfl
    · rfl
  simp only [hnone]
  exact h

/-! ## Writing a split -/

/-- What the patch of a route puts, sent to an object or to a part of it. It has no replica count. -/
def ruling (k : Controller) (rules : List Json) : Option String → Trait → Option (Option Json)
  | none, .rules => some (some (.arr rules))
  | none, .size => none
  | some part, t => counting k part .null t

/-- The patch of a route, with its version and its rules. -/
def routePatch (version : Json) (rules : List Json) : Json :=
  .obj [("metadata", .obj [("resourceVersion", version)]), ("spec", .obj [("rules", .arr rules)])]

theorem HttpRoute.patch_eq (c : Canary) (weights : RouteWeights) (m : Manifest) : HttpRoute.patch c weights m =
    routePatch (ofOption .str m.metadata.resourceVersion) (splitRules c weights (rules m.body)) :=
  congrArg obj (Assoc.Ordered.ofList_eq (List.pairwise_pair.2 (show "metadata" < "spec" by decide)))

theorem ordered_routePatch {version : Json} {rules : List Json} (hversion : version.Ordered)
    (hrules : ∀ rule ∈ rules, rule.Ordered) : (routePatch version rules).Ordered := by
  have hkeys : Assoc.Ordered [("metadata", obj [("resourceVersion", version)]), ("spec", obj [("rules", arr rules)])] :=
    List.pairwise_pair.2 (show "metadata" < "spec" by decide)
  have harr : (arr rules).Ordered := (orderedItems_iff rules).2 hrules
  exact ordered_obj_iff.2 ⟨hkeys, List.forall_mem_cons.2 ⟨ordered_nested hversion ["resourceVersion"],
    by simpa [nested] using ordered_nested harr ["rules"]⟩⟩

/-- Of the patch of a route, what counts for an object puts the rules. -/
theorem relevant_route (k : Controller) (part : Option String) {version : Json} {rules : List Json}
    (hversion : version.Ordered ∧ version.Steady) (ho : ∀ rule ∈ rules, rule.Ordered)
    (hs : ∀ rule ∈ rules, rule.Steady) :
    ∃ changes', relevant part (routePatch version rules) = obj changes' ∧ Sound changes' ∧
      ∀ j : Json, j.Ordered → ∀ t : Trait,
        (merge (obj changes') j).path? (t.path k) = (ruling k rules part t).getD (j.path? (t.path k)) := by
  cases part with
  | none =>
    have hkeys : Assoc.Ordered
        [("metadata", obj [("resourceVersion", version)]), ("spec", obj [("rules", arr rules)])] :=
      List.pairwise_pair.2 (show "metadata" < "spec" by decide)
    have hordered : (routePatch version rules).Ordered := ordered_routePatch hversion.1 ho
    have hsteady : (routePatch version rules).Steady := steady_obj_iff.2 (List.forall_mem_cons.2
      ⟨steady_nested hversion.2 ["resourceVersion"],
        by simpa [nested] using steady_nested (steady_arr_iff.2 hs) ["rules"]⟩)
    refine ⟨_, rfl, ⟨hordered, .inr ⟨version, rfl⟩, hsteady⟩, fun j hj t => ?_⟩
    have hmerge := path?_merge_spec hkeys (show List.lookup "spec" [("metadata", obj [("resourceVersion", version)]),
      ("spec", obj [("rules", arr rules)])] = some (obj [("rules", arr rules)]) from rfl)
        (List.pairwise_singleton _ _) hj
    cases t with
    | rules => exact hmerge "rules" []
    | size =>
      obtain ⟨key, rest, hsize, hkey⟩ : ∃ key rest, k.sizePath = "spec" :: key :: rest ∧ key ≠ "rules" := by
        rcases k.sizePath_cases with hsize | ⟨key, rest, hsize, -, hkey⟩
        · exact ⟨_, _, hsize, by decide⟩
        · exact ⟨_, _, hsize, hkey⟩
      have hne : (key == "rules") = false := by simpa using hkey
      rw [Trait.path, hsize, hmerge, List.lookup_cons, hne]; rfl
  | some part =>
    obtain ⟨changes', hrelevant, hsound, hput⟩ := relevant_part k part (routePatch version rules) rfl
      (fun _ h => by cases h) trivial readAs_null
    exact ⟨changes', hrelevant, hsound, hput⟩

section Written

variable {origin w : World} {c : Canary} {ns : String} {sent : Sent} (hns : c.targetNamespace? = some ns)
  (ht : objectTarget? (routeAt c ns) .whole = some sent) (weights : RouteWeights) (k : Controller) (word : Nat → String)

include hns ht

/-- Writing a split into a stored route puts the rules with the split, if they come through as text
unchanged. -/
theorem effect_setRoutes {spot : WorkloadRef} {part : Option String} (hn : origin.named? sent.path = some (spot, part))
    {j₀ : Json} (hj₀ : origin.store.get? spot = some j₀) (hr₀ : Readable j₀) {rules : List Json}
    (hs : ∀ rule ∈ rules, rule.Steady) (hw : Keeps origin w)
    (hrules : HttpRoute.splitRules c weights (HttpRoute.rulesRead (w.holds k (spot, .rules))) = rules) :
    Effect k word (Api.setRoutes c weights).run (.ok ()) spot (ruling k rules part) w := by
  obtain ⟨j, hj, ho, r, m, hr, hm⟩ := hw.exists_object hj₀ hr₀
  have hnw : w.named? sent.path = some (spot, part) := (named?_congr hw.kinds _).trans hn
  have hstored : w.stored? sent.path = some j := by unfold stored?; rw [hnw]; exact hj
  have hheld : w.holds k (spot, .rules) = j.path? ["spec", "rules"] := by unfold holds; rw [hj]; rfl
  -- what is written
  have hpatch : HttpRoute.patch c weights m = routePatch (ofOption .str m.metadata.resourceVersion) rules := by
    rw [HttpRoute.patch_eq, HttpRoute.rules_body hr (Manifest.get?_body hm), ← hheld, hrules]
  have hordered : ∀ rule ∈ rules, rule.Ordered := by
    rw [← hrules, hheld]
    exact HttpRoute.ordered_splitRules (HttpRoute.ordered_rulesRead fun _ h => ho.path? _ h)
  have hversion : (ofOption .str m.metadata.resourceVersion).Ordered ∧
      (ofOption .str m.metadata.resourceVersion).Steady := by
    cases m.metadata.resourceVersion <;> exact ⟨trivial, rfl⟩
  obtain ⟨_, hwhole, hsteady, -⟩ := relevant_route k none hversion hordered hs
  obtain ⟨changes', hrelevant, hsound, hput⟩ := relevant_route k part hversion hordered hs
  obtain ⟨w₁, hc, hwritten⟩ := ends_setRoutes hns ht hstored hr hm word weights
  rw [hpatch] at hwritten
  refine effect_of_patch ht hnw hj ho ⟨r, m, hr, hm⟩ hc ?_ (isOutdated_of_read hr hm rfl) hrelevant hsound
    (hput j ho) hwritten
  rw [show routePatch _ rules = _ from hwhole]
  exact hsteady.steady

/-- Without a route nothing is put. -/
theorem effect_setRoutes_missing (hnone : origin.stored? sent.path = none) (hword : word 404 = "NotFound")
    (hw : Keeps origin w) (spot : WorkloadRef) :
    Effect k word (Api.setRoutes c weights).run (.ok ()) spot (fun _ => none) w := by
  obtain ⟨w', hends, hcontent⟩ := ends_setRoutes_missing hns ht (hw.stored?_eq_none hnone) hword weights
  exact .idle hends hcontent fun _ _ h => by cases h

/-- Writing a split puts traits of the route, as long as the rules that are found make the same rules. -/
theorem exists_puts_setRoutes (ho : ∀ ref j, origin.store.get? ref = some j → j.Ordered)
    (hfound : origin.stored? sent.path = none ∧ word 404 = "NotFound" ∨
      ∃ j r m, origin.stored? sent.path = some j ∧ j.ReadAs r ∧ Manifest.ofJson? r = some m ∧
        ∀ rule ∈ HttpRoute.splitRules c weights (HttpRoute.rules m.body), rule.Steady) :
    ∃ asked put, Stands k origin asked origin ∧
      Puts (fair word) Failed (Stands k origin asked) (holds k) (Api.setRoutes c weights).run (.ok ()) put := by
  rcases hfound with ⟨hnone, hword⟩ | ⟨j, r, m, hj, hr, hm, hs⟩
  · exact ⟨fun _ => True, _, ⟨Keeps.refl ho, trivial⟩, puts_of_effect (setRoutes_careful c weights)
      (fun _ hw => effect_setRoutes_missing hns ht weights k word hnone hword hw.1 (routeAt c ns).ref)
      fun _ _ => trivial⟩
  · obtain ⟨⟨spot, part⟩, hn, hget⟩ := Option.bind_eq_some_iff.1 hj
    have hordered : j.Ordered := ho _ _ hget
    rw [HttpRoute.rules_body hr (Manifest.get?_body hm)] at hs
    have hheld : origin.holds k (spot, .rules) = j.path? ["spec", "rules"] := by
      unfold holds; rw [show origin.store.get? spot = some j from hget]; rfl
    generalize hrules : HttpRoute.splitRules c weights (HttpRoute.rulesRead (j.path? ["spec", "rules"])) = rules at hs
    have hagain : HttpRoute.splitRules c weights rules = rules := by
      rw [← hrules]
      exact HttpRoute.splitRules_splitRules (HttpRoute.ordered_rulesRead fun _ h => hordered.path? _ h)
    refine ⟨fun held => HttpRoute.splitRules c weights (HttpRoute.rulesRead (held spot)) = rules, _,
      ⟨Keeps.refl ho, by dsimp only; rw [hheld]; exact hrules⟩, puts_of_effect (setRoutes_careful c weights)
        (fun w hw => effect_setRoutes hns ht weights k word hn hget ⟨r, m, hr, hm⟩ hs hw.1 hw.2) ?_⟩
    intro held hsame
    dsimp only
    unfold traitsOf
    rw [if_pos rfl]
    cases part with
    | none =>
      show HttpRoute.splitRules c weights (HttpRoute.rulesRead (some (.arr rules))) = rules
      rw [HttpRoute.rulesRead_of_steady hs]
      exact hagain
    | some part => exact hsame

end Written

end Rollout
