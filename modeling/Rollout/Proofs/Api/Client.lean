/-
The client of the API step by step. It stops at the first request that fails and after its patch
(`change_careful`, `setRoutes_careful`); and where the server finds what it asks for, this is what it
asks and how it ends.
-/
import Rollout.Proofs.World.Server

namespace Rollout.Api

open Program

/-! ## Stopping -/

/-- Stops at a request that fails and after one that does not only look. -/
abbrev Careful {α : Type} (stops : α → Prop) (p : Program interface α) : Prop :=
  p.Cautious (fun r : Request => ¬ r.Looks) Failed stops

/-- Work ends with an error. -/
def Fails {ε α : Type} (result : Except ε α) : Prop := ∃ e, result = .error e

section Careful

variable {α : Type}

theorem kinds_careful (apiVersion : String) : Careful Fails (kinds apiVersion) := by
  unfold kinds
  cases kindsTarget? apiVersion with
  | none => exact .done _
  | some sent =>
    refine .ask (fun reply h => ?_) fun reply => .done _
    obtain ⟨e, rfl⟩ := h.resolve_left fun h => h trivial
    exact ⟨_, rfl, e, rfl⟩

theorem get_careful (decode : Json → Option α) (a : Address) : Careful Fails (get decode a) := by
  unfold get
  cases objectTarget? a .whole with
  | none => exact .done _
  | some sent =>
    refine .ask (fun reply h => ?_) fun reply => ?_
    · obtain ⟨e, rfl⟩ := h.resolve_left fun h => h trivial
      exact ⟨_, rfl, e, rfl⟩
    · cases reply <;> exact .done _

theorem patch_careful (decode : Json → Option α) (a : Address) (part : Part) (body : Json) :
    Careful (fun _ => True) (patch decode a part body) := by
  unfold patch
  cases objectTarget? a part with
  | none => exact .done _
  | some sent =>
    cases body.resent? with
    | none => exact .done _
    | some body =>
      refine .ask (fun reply _ => ?_) fun reply => ?_
      · cases reply <;> exact ⟨_, rfl, trivial⟩
      · cases reply <;> exact .done _

theorem resolve_careful (ref : WorkloadRef) : Careful Fails (resolve ref).run := by
  unfold resolve
  rw [run_lift_bind]
  refine Cautious.bind (kinds_careful _) ?_ fun reply => ?_
  · rintro _ ⟨e, rfl⟩; exact ⟨_, rfl, _, rfl⟩
  · cases reply with
    | error e => exact .done _
    | ok known => dsimp only; split <;> exact .done _

theorem live_careful (a : Address) : Careful Fails (live a).run := by
  unfold live
  rw [run_lift_bind]
  refine Cautious.bind (get_careful _ _) ?_ fun reply => ?_
  · rintro _ ⟨e, rfl⟩
    split
    · rename_i h; cases h
    · exact ⟨_, rfl, _, rfl⟩
    · exact ⟨_, rfl, _, rfl⟩
  · split <;> exact .done _

/-- A change of a workload stops at the first request that fails, and after its patch. -/
theorem change_careful (ref : WorkloadRef) (change : WorkloadChange) :
    Careful (fun _ => True) (Api.change ref change).run := by
  unfold Api.change
  refine Cautious.bind_except (resolve_careful ref) (fun _ => trivial) fun a => ?_
  refine Cautious.bind_except (live_careful a) (fun _ => trivial) fun object => ?_
  dsimp only
  split
  · exact .done _
  · rw [run_lift_bind]
    refine Cautious.bind (patch_careful _ _ _ _) (fun reply _ => ?_) fun reply => ?_
    · cases reply <;> exact ⟨_, rfl, trivial⟩
    · cases reply <;> exact .done _

/-- Writing a split stops so too. A route that is said not to be there is not written. -/
theorem setRoutes_careful (c : Canary) (weights : RouteWeights) :
    Careful (fun _ => True) (Api.setRoutes c weights).run := by
  have haddress : Careful Fails (routeAddress c).run := by
    unfold routeAddress
    split <;> exact .done _
  have hroute : ∀ a, Careful (fun r => Fails r ∨ r = .ok none) (route a).run := by
    intro a
    unfold route
    rw [run_lift_bind]
    refine Cautious.bind (get_careful _ _) ?_ fun reply => ?_
    · rintro _ ⟨e, rfl⟩
      split
      · rename_i h; cases h
      · exact ⟨_, rfl, .inr rfl⟩
      · exact ⟨_, rfl, .inl ⟨_, rfl⟩⟩
    · split <;> exact .done _
  refine Cautious.bind_except haddress (fun _ => trivial) fun a => ?_
  refine Cautious.bind (hroute a) ?_ fun found => ?_
  · rintro _ (⟨e, rfl⟩ | rfl)
    · exact ⟨_, rfl, trivial⟩
    · exact ⟨_, rfl, trivial⟩
  · rcases found with e | _ | object
    · exact .done _
    · exact .done _
    · show Careful _ (ExceptT.run (ExceptT.lift (patch Manifest.ofJson? a .whole _) >>= _))
      rw [run_lift_bind]
      refine Cautious.bind (patch_careful _ _ _ _) (fun reply _ => ?_) fun reply => ?_
      · split <;> exact ⟨_, rfl, trivial⟩
      · split <;> exact .done _

/-- Whatever fails, a careful run leaves the world as it was or as a run without failures leaves it. -/
theorem Careful.content_of_faulty {stops : α → Prop} {p : Program interface α} {word : Nat → String} {w w' w₁ : World}
    {a b : α} (hp : Careful stops p) (h : Faulty (World.fair word) Failed p w a w')
    (hends : Ends (World.fair word) p w b w₁) : w'.content = w.content ∨ w'.content = w₁.content := by
  exact Faulty.of_cautious (fun _ hr => World.content_fair (not_not.1 hr)) hp h hends

end Careful

/-! ## Looking -/

section Looking

variable {word : Nat → String} {w w' : World} {ref : WorkloadRef} {a : Address} {path : String} {α : Type}
  {decode : Json → Option α}

theorem readable_eq_ok_iff {j : Json} {x : α} :
    readable decode j = .ok x ↔ ∃ r, j.ReadAs r ∧ decode r = some x := by
  unfold readable Json.ReadAs
  rw [← Option.bind_eq_some_iff]
  cases j.resent?.bind decode <;> simp

theorem eq_unreadable_of_readable {j : Json} {failure : ApiFailure} (h : readable decode j = .error failure) :
    failure = .unreadable := by
  unfold readable at h
  split at h
  · cases h
  · cases h
    rfl

/-- The kind of the workload is known, and its object is asked for at the path. -/
structure Located (w : World) (ref : WorkloadRef) (a : Address) (path : String) : Prop where
  listed : ∃ sent known plural, kindsTarget? ref.apiVersion = some sent ∧ w.listed sent.path = .ok known ∧
    known.plural? ref.kind = some plural ∧ a = ⟨⟨⟨known.apiVersion, ref.kind⟩, plural⟩, ref.ns, ref.name⟩
  target : ∃ sent, objectTarget? a .whole = some sent ∧ sent.path = path

theorem Located.congr (h : Located w ref a path) (hk : w'.kinds = w.kinds) : Located w' ref a path := by
  obtain ⟨⟨sent, known, plural, hsent, hlisted, hrest⟩, htarget⟩ := h
  exact ⟨⟨sent, known, plural, hsent, by rw [World.listed_congr hk, hlisted], hrest⟩, htarget⟩

/-! ### Where it is found -/

theorem Located.ends_resolve (h : Located w ref a path) (word : Nat → String) :
    ∃ w', Ends (World.fair word) (resolve ref).run w (.ok a) w' ∧ w'.content = w.content := by
  obtain ⟨⟨sent, known, plural, hsent, hlisted, hplural, rfl⟩, -⟩ := h
  refine ⟨w.served (.kinds sent.path), ?_, rfl⟩
  have hkinds : Ends (World.fair word) (kinds ref.apiVersion) w (.ok known) (w.served (.kinds sent.path)) := by
    unfold kinds
    rw [hsent]
    refine ends_ask_iff.2 ⟨_, _, World.fair_kinds word w sent.path, ?_⟩
    rw [hlisted]
    exact ends_done_iff.2 ⟨rfl, rfl⟩
  unfold resolve
  refine ends_lift_bind_iff.2 ⟨_, _, hkinds, ?_⟩
  dsimp only
  rw [hplural]
  exact ends_done_iff.2 ⟨rfl, rfl⟩

/-- What a server without faults answers to a client that looks for an object. -/
theorem ends_get_stored {sent : Sent} (decode : Json → Option α) (word : Nat → String) (w : World)
    (ht : objectTarget? a .whole = some sent) : Ends (World.fair word) (get decode a) w
      ((w.stored? sent.path).elim (.error (World.absent.worded word)) (readable decode))
      (w.served (.get sent.path)) := by
  unfold get
  rw [ht]
  refine ends_ask_iff.2 ⟨_, _, World.fair_get word w sent.path, ?_⟩
  cases w.stored? sent.path <;> exact ends_done_iff.2 ⟨rfl, rfl⟩

theorem ends_get {sent : Sent} {j r : Json} {x : α} (ht : objectTarget? a .whole = some sent)
    (hj : w.stored? sent.path = some j) (hr : j.ReadAs r) (hx : decode r = some x) (word : Nat → String) :
    ∃ w', Ends (World.fair word) (get decode a) w (.ok x) w' ∧ w'.content = w.content := by
  have hends := ends_get_stored decode word w ht
  rw [hj, Option.elim_some, readable_eq_ok_iff.2 ⟨r, hr, hx⟩] at hends
  exact ⟨_, hends, rfl⟩

theorem Located.ends_live (h : Located w ref a path) {j r : Json} {m : Manifest} (hj : w.stored? path = some j)
    (hr : j.ReadAs r) (hm : Manifest.ofJson? r = some m) (word : Nat → String) :
    ∃ w', Ends (World.fair word) (live a).run w (.ok m) w' ∧ w'.content = w.content := by
  obtain ⟨-, sent, hsent, rfl⟩ := h
  obtain ⟨w', hends, hcontent⟩ := ends_get hsent hj hr hm word
  refine ⟨w', ?_, hcontent⟩
  unfold live
  exact ends_lift_bind_iff.2 ⟨_, _, hends, ends_done_iff.2 ⟨rfl, rfl⟩⟩

/-- A located workload is read as it is stored. -/
theorem Located.ends_workload (h : Located w ref a path) {j r : Json} {m : Manifest}
    (hj : w.stored? path = some j) (hr : j.ReadAs r) (hm : Manifest.ofJson? r = some m) (word : Nat → String) :
    ∃ w', Ends (World.fair word) (workload ref).run w (.ok m) w' ∧ w'.content = w.content := by
  obtain ⟨w₁, hresolve, hc₁⟩ := h.ends_resolve word
  obtain ⟨w₂, hlive, hc₂⟩ := (h.congr (World.kinds_eq_of_content hc₁)).ends_live
    ((World.stored?_congr hc₁ path).trans hj) hr hm word
  exact ⟨w₂, ends_bind_ok_iff.2 ⟨a, w₁, hresolve, hlive⟩, hc₂.trans hc₁⟩

/-- A change looks the object up, and ends there or with its patch. -/
theorem Located.ends_change (h : Located w ref a path) {j r : Json} {m : Manifest} (hj : w.stored? path = some j)
    (hr : j.ReadAs r) (hm : Manifest.ofJson? r = some m) (word : Nat → String) {change : WorkloadChange} {body : Json}
    (hbody : change.patch m.toJson = body) :
    ∃ w₁, w₁.content = w.content ∧
      (body.isNoChange = true → Ends (World.fair word) (Api.change ref change).run w (.ok ()) w₁) ∧
      ∀ {m' w'}, body.isNoChange = false →
        Ends (World.fair word) (patch Manifest.ofJson? a .whole body) w₁ (.ok m') w' →
          Ends (World.fair word) (Api.change ref change).run w (.ok ()) w' := by
  subst hbody
  obtain ⟨w₁, hresolve, hc₁⟩ := h.ends_resolve word
  obtain ⟨w₂, hlive, hc₂⟩ := (h.congr (World.kinds_eq_of_content hc₁)).ends_live
    ((World.stored?_congr hc₁ path).trans hj) hr hm word
  refine ⟨w₂, hc₂.trans hc₁, fun hempty => ?_, fun hbody hpatch => ?_⟩
  · refine ends_bind_ok_iff.2 ⟨a, w₁, hresolve, ends_bind_ok_iff.2 ⟨m, w₂, hlive, ?_⟩⟩
    dsimp only
    rw [hempty]
    exact ends_done_iff.2 ⟨rfl, rfl⟩
  · refine ends_bind_ok_iff.2 ⟨a, w₁, hresolve, ends_bind_ok_iff.2 ⟨m, w₂, hlive, ?_⟩⟩
    dsimp only
    rw [hbody]
    exact ends_lift_bind_iff.2 ⟨_, _, hpatch, ends_done_iff.2 ⟨rfl, rfl⟩⟩

/-- Where a canary's route is asked for. -/
def routeAt (c : Canary) (ns : String) : Address := ⟨routeResource, ns, c.routeName⟩

theorem ends_routeAddress {c : Canary} {ns : String} (h : c.targetNamespace? = some ns) (w : World) :
    Ends (World.fair word) (routeAddress c).run w (.ok (routeAt c ns)) w := by
  unfold routeAddress
  rw [h]
  exact ends_done_iff.2 ⟨rfl, rfl⟩

/-- Writing a split looks the route up, and ends with its patch. -/
theorem ends_setRoutes {c : Canary} {ns : String} (hns : c.targetNamespace? = some ns) {sent : Sent}
    (ht : objectTarget? (routeAt c ns) .whole = some sent) {j r : Json} {m : Manifest}
    (hj : w.stored? sent.path = some j) (hr : j.ReadAs r) (hm : Manifest.ofJson? r = some m) (word : Nat → String)
    (weights : RouteWeights) :
    ∃ w₁, w₁.content = w.content ∧ ∀ {m' w'},
      Ends (World.fair word) (patch Manifest.ofJson? (routeAt c ns) .whole (HttpRoute.patch c weights m))
          w₁ (.ok m') w' →
        Ends (World.fair word) (setRoutes c weights).run w (.ok ()) w' := by
  obtain ⟨w₁, hget, hcontent⟩ := ends_get ht hj hr hm word
  have hroute : Ends (World.fair word) (route (routeAt c ns)).run w (.ok (some m)) w₁ :=
    ends_lift_bind_iff.2 ⟨_, _, hget, ends_done_iff.2 ⟨rfl, rfl⟩⟩
  refine ⟨w₁, hcontent, fun hpatch => ?_⟩
  exact ends_bind_ok_iff.2 ⟨_, w, ends_routeAddress hns w, ends_bind_ok_iff.2 ⟨_, w₁, hroute,
    ends_lift_bind_iff.2 ⟨_, _, hpatch, ends_done_iff.2 ⟨rfl, rfl⟩⟩⟩⟩

/-- Without a route there is nothing to write. -/
theorem ends_setRoutes_missing {c : Canary} {ns : String} (hns : c.targetNamespace? = some ns) {sent : Sent}
    (ht : objectTarget? (routeAt c ns) .whole = some sent) (hnone : w.stored? sent.path = none)
    (hword : word 404 = "NotFound") (weights : RouteWeights) :
    ∃ w', Ends (World.fair word) (setRoutes c weights).run w (.ok ()) w' ∧ w'.content = w.content := by
  have hget := ends_get_stored Manifest.ofJson? word w ht
  rw [hnone, Option.elim_none] at hget
  have hroute : Ends (World.fair word) (route (routeAt c ns)).run w (.ok none) (w.served (.get sent.path)) := by
    refine ends_lift_bind_iff.2 ⟨_, _, hget, ?_⟩
    rw [show World.absent.worded word = .status 404 "NotFound" by rw [← hword]; rfl]
    exact ends_done_iff.2 ⟨rfl, rfl⟩
  exact ⟨_, ends_bind_ok_iff.2 ⟨_, w, ends_routeAddress hns w, ends_bind_ok_iff.2 ⟨_, _, hroute,
    ends_done_iff.2 ⟨rfl, rfl⟩⟩⟩, rfl⟩

/-! ### What has been found -/

theorem exists_of_ends_get {sent : Sent} {reply : Except ApiFailure α} (ht : objectTarget? a .whole = some sent)
    (h : Ends (World.fair word) (get decode a) w reply w') :
    w.stored? sent.path = none ∧ reply = .error (World.absent.worded word) ∨
      ∃ j, w.stored? sent.path = some j ∧ reply = readable decode j := by
  unfold get at h
  rw [ht] at h
  obtain ⟨reply, w₁, hserve, hrest⟩ := ends_ask_iff.1 h
  rw [World.fair_get] at hserve
  obtain ⟨rfl, rfl⟩ := Prod.mk.injEq .. ▸ hserve
  cases hj : w.stored? sent.path with
  | none => rw [hj] at hrest; exact .inl ⟨rfl, (ends_done_iff.1 hrest).1⟩
  | some j => rw [hj] at hrest; exact .inr ⟨j, rfl, (ends_done_iff.1 hrest).1⟩

theorem exists_of_ends_resolve (h : Ends (World.fair word) (resolve ref).run w (.ok a) w') :
    ∃ sent known plural, kindsTarget? ref.apiVersion = some sent ∧ w.listed sent.path = .ok known ∧
      known.plural? ref.kind = some plural ∧ a = ⟨⟨⟨known.apiVersion, ref.kind⟩, plural⟩, ref.ns, ref.name⟩ ∧
      w'.content = w.content := by
  unfold resolve at h
  obtain ⟨reply, w₁, hkinds, hrest⟩ := ends_lift_bind_iff.1 h
  unfold kinds at hkinds
  cases hsent : kindsTarget? ref.apiVersion with
  | none =>
    rw [hsent] at hkinds
    obtain ⟨rfl, rfl⟩ := ends_done_iff.1 hkinds
    cases (ends_done_iff.1 hrest).1
  | some sent =>
    rw [hsent] at hkinds
    obtain ⟨reply', w₂, hserve, hdone⟩ := ends_ask_iff.1 hkinds
    obtain ⟨rfl, rfl⟩ := ends_done_iff.1 hdone
    rw [World.fair_kinds] at hserve
    obtain ⟨rfl, rfl⟩ := Prod.mk.injEq .. ▸ hserve
    cases hlisted : w.listed sent.path with
    | error e => rw [hlisted] at hrest; cases (ends_done_iff.1 hrest).1
    | ok known =>
      rw [hlisted] at hrest
      dsimp only [Except.mapError] at hrest
      cases hplural : known.plural? ref.kind with
      | some plural =>
        rw [hplural] at hrest
        obtain ⟨heq, rfl⟩ := ends_done_iff.1 hrest
        cases heq
        exact ⟨sent, known, plural, rfl, hlisted, hplural, rfl, rfl⟩
      | none =>
        rw [hplural] at hrest
        cases (ends_done_iff.1 hrest).1

/-- A workload that could be read is located, and its object is stored and read as it was. -/
theorem read_of_ends_workload {m : Manifest} (h : Ends (World.fair word) (workload ref).run w (.ok m) w') :
    ∃ a path j r, Located w ref a path ∧ w.stored? path = some j ∧ j.ReadAs r ∧
      Manifest.ofJson? r = some m := by
  unfold workload at h
  obtain ⟨a, w₁, hresolve, hlive⟩ := ends_bind_ok_iff.1 h
  obtain ⟨sent, known, plural, hsent, hlisted, hplural, haddress, hcontent⟩ := exists_of_ends_resolve hresolve
  unfold live at hlive
  obtain ⟨reply, w₂, hget, hrest⟩ := ends_lift_bind_iff.1 hlive
  have hfound : reply = .ok m := by
    split at hrest
    · obtain ⟨heq, -⟩ := ends_done_iff.1 hrest; cases heq; rfl
    · cases (ends_done_iff.1 hrest).1
    · cases (ends_done_iff.1 hrest).1
  subst hfound
  cases htarget : objectTarget? a .whole with
  | none =>
    unfold get at hget
    rw [htarget] at hget
    cases (ends_done_iff.1 hget).1
  | some sent' =>
    rcases exists_of_ends_get htarget hget with ⟨-, heq⟩ | ⟨j, hj, heq⟩
    · cases heq
    · obtain ⟨r, hr, hm⟩ := readable_eq_ok_iff.1 heq.symm
      rw [World.stored?_congr hcontent] at hj
      exact ⟨a, sent'.path, j, r, ⟨⟨sent, known, plural, hsent, hlisted, hplural, haddress⟩, sent', htarget, rfl⟩, hj,
        hr, hm⟩

theorem exists_of_ends_workload {m : Manifest} (h : Ends (World.fair word) (workload ref).run w (.ok m) w') :
    ∃ a path j, Located w ref a path ∧ w.stored? path = some j ∧ Readable j := by
  obtain ⟨a, path, j, r, hl, hj, hr, hm⟩ := read_of_ends_workload h
  exact ⟨a, path, j, hl, hj, r, m, hr, hm⟩

theorem exists_target_of_ends_route {found : Option Manifest}
    (h : Ends (World.fair word) (route a).run w (.ok found) w') :
    ∃ sent, objectTarget? a .whole = some sent := by
  cases ht : objectTarget? a .whole with
  | some sent => exact ⟨sent, rfl⟩
  | none =>
    unfold route at h
    obtain ⟨reply, w₁, hget, hrest⟩ := ends_lift_bind_iff.1 h
    unfold get at hget
    rw [ht] at hget
    obtain ⟨rfl, -⟩ := ends_done_iff.1 hget
    cases (ends_done_iff.1 hrest).1

/-- A route that is asked for is not there, as the server says, or is stored and can be read. -/
theorem exists_of_ends_route {sent : Sent} {found : Option Manifest} (ht : objectTarget? a .whole = some sent)
    (h : Ends (World.fair word) (route a).run w (.ok found) w') :
    found = none ∧ w.stored? sent.path = none ∧ word 404 = "NotFound" ∨
      ∃ j r m, found = some m ∧ w.stored? sent.path = some j ∧ j.ReadAs r ∧ Manifest.ofJson? r = some m := by
  unfold route at h
  obtain ⟨reply, w₁, hget, hrest⟩ := ends_lift_bind_iff.1 h
  rcases exists_of_ends_get ht hget with ⟨hnone, rfl⟩ | ⟨j, hj, rfl⟩
  · have hworded : World.absent.worded word = .status 404 (word 404) := rfl
    rw [hworded] at hrest
    split at hrest
    · rename_i heq; cases heq
    · rename_i heq
      cases (ends_done_iff.1 hrest).1
      simp only [Except.error.injEq, ApiFailure.status.injEq] at heq
      exact .inl ⟨rfl, hnone, heq.2⟩
    · cases (ends_done_iff.1 hrest).1
  · cases hread : readable Manifest.ofJson? j with
    | error e =>
      rw [hread, eq_unreadable_of_readable hread] at hrest
      cases (ends_done_iff.1 hrest).1
    | ok m =>
      rw [hread] at hrest
      obtain ⟨r, hr, hm⟩ := readable_eq_ok_iff.1 hread
      cases (ends_done_iff.1 hrest).1
      exact .inr ⟨j, r, m, rfl, hj, hr, hm⟩

end Looking

end Rollout.Api
