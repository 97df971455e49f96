/-
What a server leaves alone. Apart from the places that are written in its objects, and their versions, a world holds
what it held (`World.Spares`). A server is asked for no more to be written than may be if each patch is confined to
such a place (`World.Minds`); where its world is orderly, all else outlasts a faulty run then
(`World.spares_of_faulty`). What is no patch changes nothing (`World.content_of_faulty`).
-/
import Rollout.Proofs.Api.Path
import Rollout.Proofs.Json.Frame
import Rollout.Proofs.Reliance
import Rollout.Proofs.World.Objects
import Rollout.Proofs.World.Server

namespace Rollout

open Json Program

/-! ## Objects -/

namespace Store

/-- Where an object has the version at which it is stored. -/
def versionPath : List String := ["metadata", "resourceVersion"]

theorem stamped_cases (version : Nat) (j : Json) : stamped version j = j ∨
    stamped version j = j.update (·.set "resourceVersion" (.str (toString version))) ["metadata"] := by
  cases j
  case obj members =>
    unfold stamped
    dsimp only
    split
    · rename_i metadata hmetadata
      refine .inr (congrArg (fun m => obj (Assoc.insert "metadata" m members)) ?_)
      show obj _ = ((((members.lookup "metadata").getD .null).update _ []) : Json)
      have hmembers : ((members.lookup "metadata").getD .null).membersOrNone = metadata := by
        cases hl : members.lookup "metadata" with
        | none => rw [hl] at hmetadata; cases hmetadata; rfl
        | some m => rw [hl] at hmetadata; rw [show m = obj metadata from hmetadata]; rfl
      rw [update, hmembers]
      rfl
    · exact .inl rfl
  all_goals exact .inl rfl

/-- A new version spares all of an object but the version. -/
theorem spares_stamped (version : Nat) {j : Json} (hj : j.Ordered) :
    j.Spares (· = versionPath) (stamped version j) := by
  rcases stamped_cases version j with h | h
  · rw [h]
    exact .refl _ j
  · rw [h]
    refine spares_update (fun members _ k (hk : k ≠ "resourceVersion") => ?_) (fun _ => ⟨_, rfl⟩) ["metadata"] hj
    rw [get?_set, if_neg hk]
    rfl

/-- Apart from the written places and its version, an object is as it was; if no place is written, it is the same. -/
def Spared (written : List String → Prop) (j j' : Json) : Prop :=
  j' = j ∨ (∃ place, written place) ∧ j.Spares (fun place => written place ∨ place = versionPath) j'

variable {written : List String → Prop} {j j' j'' : Json}

theorem Spared.trans (h₁ : Spared written j j') (h₂ : Spared written j' j'') : Spared written j j'' := by
  rcases h₁ with rfl | ⟨hwritten, h₁⟩
  · exact h₂
  · rcases h₂ with rfl | ⟨-, h₂⟩
    · exact .inr ⟨hwritten, h₁⟩
    · exact .inr ⟨hwritten, h₁.trans h₂⟩

theorem Spared.mono {written' : List String → Prop} (h : Spared written j j')
    (hw : ∀ place, written place → written' place) : Spared written' j j' :=
  h.imp_right fun ⟨⟨place, hplace⟩, hspares⟩ =>
    ⟨⟨place, hw place hplace⟩, hspares.mono fun place => Or.imp_left (hw place)⟩

/-- What is written lies in what is asked for or in what is found. -/
def InContent (place : List String) : Prop := ∃ rest, place = "spec" :: rest ∨ place = "status" :: rest

theorem Spared.path?_eq (h : Spared written j j') (hwritten : ∀ place, written place → InContent place) {key : String}
    {rest : List String} (hspec : key ≠ "spec") (hstatus : key ≠ "status") (hversion : ¬ versionPath <+: key :: rest)
    (hversion' : ¬ key :: rest <+: versionPath) : j'.path? (key :: rest) = j.path? (key :: rest) := by
  rcases h with rfl | ⟨-, h⟩
  · rfl
  · refine h.path?_eq fun place hplace => ?_
    rcases hplace with hplace | rfl
    · obtain ⟨below, rfl | rfl⟩ := hwritten place hplace
      · simp [List.cons_prefix_cons, hspec, Ne.symm hspec]
      · simp [List.cons_prefix_cons, hstatus, Ne.symm hstatus]
    · exact ⟨hversion, hversion'⟩

/-- An object gives itself the identity that it gave itself. -/
theorem Spared.identity_eq (h : Spared written j j') (hwritten : ∀ place, written place → InContent place) :
    identity j' = identity j := by
  have hversion : j'.get? "apiVersion" = j.get? "apiVersion" := by
    rw [← path?_singleton, ← path?_singleton, h.path?_eq hwritten (by decide) (by decide) (by decide) (by decide)]
  have hkind : j'.get? "kind" = j.get? "kind" := by
    rw [← path?_singleton, ← path?_singleton, h.path?_eq hwritten (by decide) (by decide) (by decide) (by decide)]
  have hmeta : ∀ key, key ≠ "resourceVersion" → j'.path? ["metadata", key] = j.path? ["metadata", key] := by
    intro key hkey
    refine h.path?_eq hwritten (by decide) (by decide) ?_ ?_ <;>
      simp [versionPath, List.cons_prefix_cons, hkey, Ne.symm hkey]
  unfold identity
  rw [hversion, hkind, hmeta "name" (by decide), hmeta "namespace" (by decide)]

end Store

/-- A patch that writes one place of an object and, besides that, no more than its version. -/
structure Json.Confined (patch : Json) (place : List String) : Prop where
  ordered : patch.Ordered
  spares : ∀ j : Json, j.Ordered → j.Spares (fun path => path = place ∨ path = Store.versionPath) (patch.merge j)

/-- A request that patches nothing. -/
def Api.Request.IsNoPatch (r : Api.Request) : Prop := ∀ path body, r ≠ .patch path body

namespace World

/-! ## Worlds of servers -/

/-- Each kind is listed under a plain name of its own, and the stored objects, in order, stand under the identities that
they give themselves. -/
structure Orderly (w : World) : Prop where
  plain : ∀ r ∈ w.kinds, Api.IsPlain r.plural
  listed : ∀ r ∈ w.kinds ++ builtinKinds, ∀ r' ∈ w.kinds ++ builtinKinds, r.apiVersion = r'.apiVersion →
    r.plural = r'.plural → r.kind = r'.kind
  ordered : ∀ ref j, w.store.get? ref = some j → j.Ordered
  named : ∀ ref j, w.store.get? ref = some j → Store.identity j = ref

/-- Apart from the written places of its objects, and their versions, the second world holds what the first held. -/
structure Spares (written : WorkloadRef → List String → Prop) (w w' : World) : Prop where
  rest : ({ w' with store := w.store } : World).content = w.content
  objects : ∀ ref, Option.Rel (Store.Spared (written ref)) (w.store.get? ref) (w'.store.get? ref)

variable {written : WorkloadRef → List String → Prop} {w w' w'' : World} {path : String} {body j : Json}
  {ref : WorkloadRef} {part : Option String} {word : Nat → String}

theorem Spares.kinds_eq (h : Spares written w w') : w'.kinds = w.kinds := by
  have hkinds := congrArg World.kinds h.rest
  exact hkinds

/-- An object of which no place is written is the same. -/
theorem Spares.get?_eq (h : Spares written w w') (hno : ∀ place, ¬ written ref place) :
    w'.store.get? ref = w.store.get? ref := by
  have hobject := h.objects ref
  revert hobject
  generalize w.store.get? ref = o, w'.store.get? ref = o'
  intro hobject
  cases hobject with
  | none => rfl
  | some hspared =>
    rcases hspared with rfl | ⟨⟨place, hplace⟩, -⟩
    · rfl
    · exact absurd hplace (hno place)

/-- Where the content stays, everything is spared. -/
theorem spares_of_content (h : w'.content = w.content) : Spares written w w' := by
  have hstore : w'.store = w.store := store_eq_of_content h
  refine ⟨by rw [← hstore]; exact h, fun ref => ?_⟩
  rw [hstore]
  cases w.store.get? ref with
  | none => exact .none
  | some j => exact .some (.inl rfl)

theorem Spares.trans (h₁ : Spares written w w') (h₂ : Spares written w' w'') : Spares written w w'' := by
  refine ⟨?_, fun ref => ?_⟩
  · have hrest := congrArg (fun v : World => { v with store := w.store }) h₂.rest
    exact Eq.trans hrest h₁.rest
  · have hfirst := h₁.objects ref
    have hsecond := h₂.objects ref
    revert hfirst hsecond
    generalize w.store.get? ref = o, w'.store.get? ref = o', w''.store.get? ref = o''
    intro hfirst hsecond
    cases hfirst with
    | none => exact hsecond
    | some hfirst =>
      cases hsecond with
      | some hsecond => exact .some (hfirst.trans hsecond)

theorem Spares.mono {written' : WorkloadRef → List String → Prop} (h : Spares written w w')
    (hw : ∀ ref place, written ref place → written' ref place) : Spares written' w w' := by
  refine ⟨h.rest, fun ref => ?_⟩
  have hobject := h.objects ref
  revert hobject
  generalize w.store.get? ref = o, w'.store.get? ref = o'
  intro hobject
  cases hobject with
  | none => exact .none
  | some hspared => exact .some (hspared.mono (hw ref))

/-! ## Patches -/

/-- A patch leaves the world as it was, or puts what it makes of the object that its path names. -/
theorem fair_patch_cases (word : Nat → String) (w : World) (path : String) (body : Json) :
    ((fair word (.patch path body)).run w).2.content = w.content ∨
      ∃ ref part j, w.named? path = some (ref, part) ∧ w.store.get? ref = some j ∧
        ((fair word (.patch path body)).run w).2.content =
          ({ w with store := w.store.put ref ((relevant part body).merge j) } : World).content := by
  have hidle : ∀ reply, (mergeInto path body).run (w.served (.patch path body)) = (reply, w.served (.patch path body)) →
      ((fair word (.patch path body)).run w).2.content = w.content := by
    intro reply h
    have hrun : (serve (.patch path body)).run { w with faults := [] } = (reply, w.served (.patch path body)) := by
      show (unlessFailing (.patch path body) _).run { w with faults := [] } = _
      rw [run_unlessFailing, h]
    rw [fair_of_serve hrun]
    rfl
  have hnamed : (w.served (.patch path body)).named? path = w.named? path :=
    named?_congr (show (w.served (.patch path body)).kinds = w.kinds from rfl) path
  cases hn : w.named? path with
  | none =>
    refine .inl (hidle (.error absent) ?_)
    unfold mergeInto
    rw [StateT.run_bind, run_objectAt?, hnamed, hn]
    rfl
  | some place =>
    obtain ⟨ref, part⟩ := place
    cases hj : w.store.get? ref with
    | none =>
      refine .inl (hidle (.error absent) ?_)
      unfold mergeInto
      rw [StateT.run_bind, run_objectAt?, hnamed, hn]
      show (find? ref >>= _ : StateM World _).run _ = _
      rw [StateT.run_bind, run_find?, show (w.served (.patch path body)).store.get? ref = none from hj]
      rfl
    | some j =>
      cases hbody : isOutdated body j with
      | true =>
        refine .inl (hidle (.error outdated) ?_)
        unfold mergeInto
        rw [StateT.run_bind, run_objectAt?, hnamed, hn]
        show (find? ref >>= _ : StateM World _).run _ = _
        rw [StateT.run_bind, run_find?, show (w.served (.patch path body)).store.get? ref = some j from hj]
        show (ite (isOutdated body j = true) _ _ : StateM World _).run _ = _
        rw [if_pos hbody]
        rfl
      | false =>
        obtain ⟨w', hrun, hcontent⟩ := fair_patch word hn hj hbody
        refine .inr ⟨ref, part, j, rfl, hj, ?_⟩
        rw [hrun]
        exact hcontent

/-- What is no patch changes nothing. -/
theorem content_fair_of_not_patch (word : Nat → String) {r : Api.Request} (h : r.IsNoPatch) (w : World) :
    ((fair word r).run w).2.content = w.content := by
  have hlist : ∀ path component (v : World), ((list path component).run v).2 = v := by
    intro path component v
    unfold list
    split
    · rename_i apiVersion plural ns _
      show ((kindListedAs? apiVersion plural >>= _ : StateM World _).run v).2 = v
      rw [StateT.run_bind, show (kindListedAs? apiVersion plural).run v = (_, v) from rfl]
      cases ((v.kinds ++ builtinKinds).find? _).map (·.kind) with
      | none => rfl
      | some kind => cases component <;> rfl
    · rfl
    · rfl
  cases r with
  | kinds path => exact content_fair (r := .kinds path) trivial w
  | get path => exact content_fair (r := .get path) trivial w
  | revisions path component =>
    show ((unlessFailing (.revisions path component) (list path component)).run { w with faults := [] }).2.content = _
    rw [run_unlessFailing, hlist]
    rfl
  | patch path body => exact absurd rfl (h path body)
  | configRefs c | configChanged c =>
    -- what the script says decides whether the question is noted
    obtain ⟨store, now, tracker, faults, asked, weights, kinds⟩ := w
    cases tracker <;> rfl
  | now | pause => rfl

/-- A faulty run in which nothing is patched changes nothing. -/
theorem content_of_faulty {α : Type} {p : Program Api.interface α} {post : α → Prop}
    (hp : p.Relies (fun _ _ => True) Api.Request.IsNoPatch post) {a : α}
    (h : Faulty (fair word) Api.Failed p w a w') : w'.content = w.content := by
  have hserve : ∀ (r : Api.Request) (v : World), r.IsNoPatch → v.content = w.content →
      True ∧ ((fair word r).run v).2.content = w.content := fun _ v hr hv =>
    ⟨trivial, (content_fair_of_not_patch word hr v).trans hv⟩
  have hkept : w'.content = w.content ∧ post a := h.of_relies (fun _ _ _ => trivial) hserve hp (by rfl)
  exact hkept.1

/-! ## Requests that write no more than they may -/

section Serving

variable {written : WorkloadRef → List String → Prop} {origin w w' : World} {word : Nat → String} {r : Api.Request}

theorem Orderly.congr (h : w.Orderly) (hc : w'.content = w.content) : w'.Orderly := by
  have hkinds := kinds_eq_of_content hc
  have hstore := store_eq_of_content hc
  exact ⟨by rw [hkinds]; exact h.plain, by rw [hkinds]; exact h.listed, by rw [hstore]; exact h.ordered,
    by rw [hstore]; exact h.named⟩

/-- What counts of a patch is confined to a place that may be written in the object that its path names. -/
def Minds (origin : World) (written : WorkloadRef → List String → Prop) : Api.Request → Prop
  | .patch path body => ∀ ref part, origin.named? path = some (ref, part) →
      ∃ place, written ref place ∧ (relevant part body).Confined place
  | _ => True

/-- Kinds are answered as they are listed, and objects in order and with the identity under which they are asked for. -/
def Tells (origin : World) : (r : Api.Request) → Api.Reply r → Prop
  | .kinds path, reply => ∀ known, reply = .ok known → origin.listed path = .ok known
  | .get path, reply => ∀ j, reply = .ok j →
      ∃ ref part, origin.named? path = some (ref, part) ∧ j.Ordered ∧ Store.identity j = ref
  | _, _ => True

/-- A failure tells nothing. -/
theorem tells_of_failed (reply : Api.Reply r) (h : Api.Failed r reply) : Tells origin r reply := by
  cases r with
  | kinds | get =>
    obtain ⟨failure, rfl⟩ := h
    exact fun _ h => by cases h
  | _ => trivial

variable (hwritten : ∀ ref place, written ref place → Store.InContent place)

include hwritten

theorem spares_put {ref : WorkloadRef} {j patch : Json} {place : List String} (hj : w.store.get? ref = some j)
    (ho : j.Ordered) (hplace : written ref place) (hpatch : patch.Confined place)
    (hc : w'.content = ({ w with store := w.store.put ref (patch.merge j) } : World).content) (hw : w.Orderly) :
    w'.Orderly ∧ Spares written w w' := by
  have hget : ∀ k, w'.store.get? k =
      if k = ref then some (Store.stamped (w.store.version + 1) (patch.merge j)) else w.store.get? k := by
    intro k
    rw [store_eq_of_content hc]
    exact Store.get?_put ..
  have hmerged : (patch.merge j).Ordered := hpatch.ordered.merge ho
  have hspared : Store.Spared (written ref) j (Store.stamped (w.store.version + 1) (patch.merge j)) := by
    refine .inr ⟨⟨place, hplace⟩, .trans ((hpatch.spares j ho).mono ?_) ((Store.spares_stamped _ hmerged).mono ?_)⟩
    · rintro path (rfl | rfl)
      · exact .inl hplace
      · exact .inr rfl
    · rintro path rfl
      exact .inr rfl
  have hkinds : w'.kinds = w.kinds := (kinds_eq_of_content hc).trans rfl
  refine ⟨⟨by rw [hkinds]; exact hw.plain, by rw [hkinds]; exact hw.listed, fun k object hobject => ?_,
    fun k object hobject => ?_⟩, ?_, fun k => ?_⟩
  · rw [hget] at hobject
    split at hobject
    · cases hobject
      exact Store.ordered_stamped hmerged _
    · exact hw.ordered k object hobject
  · rw [hget] at hobject
    split at hobject
    · rename_i hk
      cases hobject
      rw [hspared.identity_eq (hwritten ref), hw.named ref j hj, hk]
    · exact hw.named k object hobject
  · have hrest := congrArg (fun v : World => { v with store := w.store }) hc
    exact hrest
  · rw [hget]
    split
    · rename_i hk
      rw [hk, hj]
      exact .some hspared
    · cases w.store.get? k with
      | none => exact .none
      | some object => exact .some (.inl rfl)

/-- A request that writes no more than it may leaves all else, and is answered as it can be relied on. -/
theorem fair_minds (hw : w.Orderly ∧ Spares written origin w) (hr : Minds origin written r) :
    Tells origin r ((fair word r).run w).1 ∧
      ((fair word r).run w).2.Orderly ∧ Spares written origin ((fair word r).run w).2 := by
  obtain ⟨horderly, hspares⟩ := hw
  have hidle : ((fair word r).run w).2.content = w.content →
      ((fair word r).run w).2.Orderly ∧ Spares written origin ((fair word r).run w).2 := fun hc =>
    ⟨horderly.congr hc, hspares.trans (spares_of_content hc)⟩
  cases r with
  | patch path body =>
    refine ⟨trivial, ?_⟩
    rcases fair_patch_cases word w path body with hc | ⟨ref, part, j, hn, hj, hc⟩
    · exact hidle hc
    · rw [named?_congr hspares.kinds_eq] at hn
      obtain ⟨place, hplace, hconfined⟩ := hr ref part hn
      obtain ⟨horderly', hspares'⟩ := spares_put hwritten hj (horderly.ordered ref j hj) hplace hconfined hc horderly
      exact ⟨horderly', hspares.trans hspares'⟩
  | kinds path =>
    refine ⟨fun known hknown => ?_, hidle (content_fair_of_not_patch word (by simp [Api.Request.IsNoPatch]) w)⟩
    rw [fair_kinds] at hknown
    rw [← listed_congr hspares.kinds_eq]
    cases hl : w.listed path with
    | error e => rw [hl] at hknown; cases hknown
    | ok known' => rw [hl] at hknown; cases hknown; rfl
  | get path =>
    refine ⟨fun j hj => ?_, hidle (content_fair_of_not_patch word (by simp [Api.Request.IsNoPatch]) w)⟩
    rw [fair_get] at hj
    cases hs : w.stored? path with
    | none => rw [hs] at hj; cases hj
    | some j' =>
      rw [hs] at hj
      cases hj
      obtain ⟨⟨ref, part⟩, hn, hget⟩ := Option.bind_eq_some_iff.1 hs
      rw [named?_congr hspares.kinds_eq] at hn
      exact ⟨ref, part, hn, horderly.ordered ref j hget, horderly.named ref j hget⟩
  | revisions | configRefs | configChanged | now | pause =>
    exact ⟨trivial, hidle (content_fair_of_not_patch word (by simp [Api.Request.IsNoPatch]) w)⟩

/-- A faulty run of a program that minds what it may write leaves all else. -/
theorem spares_of_faulty {α : Type} {p : Program Api.interface α} {post : α → Prop}
    (hp : p.Relies (Tells origin) (Minds origin written) post) {a : α}
    (h : Faulty (fair word) Api.Failed p w a w') (hw : w.Orderly ∧ Spares written origin w) :
    (w'.Orderly ∧ Spares written origin w') ∧ post a := by
  have hserve : ∀ (r : Api.Request) (v : World), Minds origin written r → v.Orderly ∧ Spares written origin v →
      Tells origin r ((fair word r).run v).1 ∧
        ((fair word r).run v).2.Orderly ∧ Spares written origin ((fair word r).run v).2 := fun _ _ hr hv =>
    fair_minds hwritten hv hr
  exact h.of_relies (fun _ => tells_of_failed) hserve hp hw

end Serving

end World

end Rollout
