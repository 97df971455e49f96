/-
What becomes of an outage of the server in a step of a controller. Routing is optional, so a route may be taken for
missing where the server says so in an outage; and a workload is only named once its scaling has failed. Main
statement: `ControllerStep.outage_reflected`, after an outage every step of a controller fails, and another try can
help unless the server was asked which kinds it knows or it was the baseline that the canary refers to; only
routing may also pass over an outage, and loses nothing then.
-/
import Rollout.Proofs.Controller.Outage
import Rollout.Proofs.Routing.Seeding
import Rollout.Proofs.Session

namespace Rollout

open Program

/-! ## Routes -/

namespace Api

variable {α β : Type} {good : β → Prop} {post : Bool → β → Prop}

/-- A read is accounted for where, after an outage, what follows ends as it should or at once in the only good way. -/
theorem get_accounts {decode : Json → Option α} {a : Address} {b : β}
    {f : Except ApiFailure α → Program interface β} (hgood : ∀ x, good x → x = b)
    (hf : ∀ failure, failure.Outage → (f (.error failure)).Always (post false) ∨ f (.error failure) = done b)
    (hnext : ∀ found, (f found).Accounts Hit good post) : ((get decode a).bind f).Accounts Hit good post := by
  unfold get
  cases objectTarget? a .whole with
  | none => exact hnext _
  | some sent =>
    refine .ask ?_ fun reply => ?_
    · rintro _ _ ⟨rfl, failure, rfl, hout⟩
      refine (hf failure hout).imp_right fun hdone x hx _ => ?_
      rw [hgood x hx]
      exact (hdone ▸ canEnd_done_iff.2 rfl : CanEnd (f (.error failure)) b)
    · cases reply with
      | error failure => exact hnext _
      | ok json => exact hnext _

/-! ### Splits -/

theorem reflects_api (failure : ApiFailure) : RouterError.Reflects false (.api failure) := rfl

theorem setRoutes_accounts (c : Canary) (w : RouteWeights) :
    (Api.setRoutes c w).run.Accounts Hit (· = .ok ()) (Errs RouterError.Reflects) := by
  cases hns : c.targetNamespace? with
  | none =>
    unfold Api.setRoutes routeAddress
    rw [hns]
    exact .done _
  | some ns =>
    rw [run_setRoutes_eq hns]
    refine get_accounts (fun _ h => h) (fun failure _ => ?_) fun found => ?_
    · unfold afterRead
      split
      · rename_i h; cases h
      · exact .inr rfl
      · rename_i h; cases h; exact .inl ⟨_, rfl, reflects_api failure⟩
    · unfold afterRead
      split
      · refine ((patch_relays Manifest.ofJson? _ _ _).bind ?_ fun _ => .done _).accounts
        rintro discovery _ ⟨failure, rfl, rfl, hout⟩
        show Errs RouterError.Reflects false (afterPatch _ w (.error failure))
        unfold afterPatch
        split
        · rename_i h; cases h
        · rename_i h; cases h; exact absurd hout.1 (by decide)
        · exact ⟨_, rfl, rfl⟩
      · exact .done _
      · exact .done _

theorem reconcileRoutes_accounts (c : Canary) :
    (Api.reconcileRoutes c).run.Accounts Hit (· = .ok ()) (Errs RouterError.Reflects) := by
  cases hns : c.targetNamespace? with
  | none =>
    unfold Api.reconcileRoutes routeAddress
    rw [hns]
    exact .done _
  | some ns =>
    rw [run_reconcileRoutes_eq hns]
    refine get_accounts (fun _ h => h) (fun failure _ => ?_) fun found => ?_
    · unfold afterLook
      split
      · rename_i h; cases h
      · exact .inr rfl
      · rename_i h; cases h; exact .inl ⟨_, rfl, reflects_api failure⟩
    · unfold afterLook
      split
      · split
        · exact .done _
        · exact setRoutes_accounts c _
      · exact .done _
      · exact .done _

/-- Reading a split is accounted for where it does not count which it is. -/
theorem getRoutes_accounts (c : Canary) {b : β} {f : Except RouterError RouteWeights → β}
    (hgood : ∀ a, good a → a = b) (hok : ∀ w, f (.ok w) = b)
    (herror : ∀ failure : ApiFailure, post false (f (.error (.api failure)))) :
    ((Api.getRoutes c).run.bind fun r => done (f r)).Accounts Hit good post := by
  cases hns : c.targetNamespace? with
  | none =>
    unfold Api.getRoutes routeAddress
    rw [hns]
    exact .done _
  | some ns =>
    rw [run_getRoutes_eq hns, bind_assoc]
    refine get_accounts hgood (fun failure _ => ?_) fun found => ?_
    · unfold afterWeights
      split
      · rename_i h; cases h
      · exact .inr (congrArg done (hok _))
      · rename_i h; cases h; exact .inl (herror failure)
    · unfold afterWeights
      split <;> exact .done _

end Api

namespace Coordinated

/-! ## The coordinator through the API -/

variable {α β : Type} {c : Canary} {k : Controller}

/-- Coordinated work with a controller, through the API. -/
def through (c : Canary) (k : Controller) (p : Program Coordination.interface α) :
    Program Api.interface (α × Controller) :=
  ((p.run c.coordination).run k).run Api.carry

theorem through_bind (p : Program Coordination.interface α) (f : α → Program Coordination.interface β) :
    through c k (p.bind f) = (through c k p).bind fun x => through c x.2 (f x.1) := by
  unfold through
  rw [run_bind, StateT.run_bind]
  exact run_bind (m := Program Api.interface) _ _ _

theorem through_ask {r : Coordination.Request} {next : Coordination.Reply r → Program Coordination.interface α} :
    through c k (Program.ask r next) =
      (((c.coordination r).run k).run Api.carry).bind fun x => through c x.2 (next x.1) :=
  run_bind (m := Program Api.interface) _ _ _

/-- How coordinated work always ends does not depend on how it is carried out. -/
theorem always_through {post : α → Prop} {p : Program Coordination.interface α} (h : p.Always post) :
    (through c k p).Always fun x => post x.1 := by
  induction p generalizing k with
  | done a => exact h
  | ask r next ih =>
    rw [through_ask]
    exact Within.bind (always_true _) fun x _ => ih x.1 (h.2 x.1)

/-- Coordinated work has succeeded. -/
abbrev Succeeded (x : Except RouterError Unit × Controller) : Prop := x.1 = .ok ()

/-- An outage is accounted for in coordinated work. -/
abbrev Accounts (c : Canary) (work : Coordinated Unit) : Prop :=
  ∀ k, (through c k work.run).Accounts Api.Hit Succeeded (ErrsWith RouterError.Reflects)

theorem Accounts.bind {x : Coordinated Unit} {f : Unit → Coordinated Unit} (hx : Accounts c x)
    (hf : Accounts c (f ())) : Accounts c (x >>= f) := by
  intro k
  show (through c k (x.run.bind _)).Accounts _ _ _
  rw [through_bind]
  refine Program.Accounts.bind (hx k) ?_ ?_ ?_
  · rintro ⟨e | u, k'⟩ hbad
    · exact fun h => by cases h
    · exact absurd rfl hbad
  · rintro discovery ⟨_, k'⟩ ⟨e, rfl, he⟩
    exact ⟨e, rfl, he⟩
  · rintro ⟨e | u, k'⟩
    · exact .done _
    · exact hf k'

/-- Where the router accounts for an outage, so does the coordinator. -/
theorem accounts_routed {p : Program Api.interface (Except RouterError Unit)}
    (hp : p.Accounts Api.Hit (· = .ok ()) (Errs RouterError.Reflects)) (k : Controller) :
    (p.bind fun a => done (a, k)).Accounts Api.Hit Succeeded (ErrsWith RouterError.Reflects) :=
  Program.Accounts.bind hp (fun _ h => h) (fun _ _ h => h) fun _ => .done _

theorem accounts_reconcile (c : Canary) : Accounts c reconcile := by
  intro k
  show ((Api.reconcileRoutes c).run.bind fun a => done (a, k)).Accounts _ _ _
  exact accounts_routed (Api.reconcileRoutes_accounts c) k

theorem accounts_routes (c : Canary) (w : RouteWeights) : Accounts c (routes w) := by
  intro k
  show ((Api.setRoutes c w).run.bind fun a => done (a, k)).Accounts _ _ _
  exact accounts_routed (Api.setRoutes_accounts c w) k

/-- What is asked after a workload could not be scaled is its name, for the error. -/
def blame (c : Canary) (role : Role) (replicas : Int32) (source : ControllerError) : Coordinated Unit := do
  match ← ask (.locate role) with
  | .ok ref => throw (.scale role ref.name ref.ns replicas source)
  | .error _ => throw (.scale role (presumedName c role) (c.targetNamespace?.getD "") replicas source)

theorem always_blame (c : Canary) (role : Role) (replicas : Int32) (source : ControllerError) :
    (blame c role replicas source).run.Always fun r => ∃ e, r = .error e ∧ e.source? = some source := by
  refine ⟨trivial, fun located => ?_⟩
  cases located with
  | ok ref => exact ⟨_, rfl, rfl⟩
  | error e => exact ⟨_, rfl, rfl⟩

theorem accounts_scale (c : Canary) (role : Role) (replicas : Int32) : Accounts c (scale c role replicas) := by
  intro k
  have hscaled : (((c.scale role replicas).run.run k).run Api.carry : Program Api.interface _).Accounts Api.Hit
      (fun x => ∃ u, x.1 = .ok u) (ErrsWith ControllerError.Reflects) :=
    (Relays.run Api.carry_relays (Operation.relays_scale c role replicas k)).accounts
  have hafter : ∀ k' source, (through c k' (blame c role replicas source).run).Always fun x =>
      ∃ e, x.1 = .error e ∧ e.source? = some source := fun _ source =>
    always_through (always_blame c role replicas source)
  have hrun : through c k (scale c role replicas).run =
      (((c.scale role replicas).run.run k).run Api.carry : Program Api.interface _).bind fun x =>
        match x with
        | (.ok _, k') => done (.ok (), k')
        | (.error source, k') => through c k' (blame c role replicas source).run := by
    show through c k (Program.ask (.scale role replicas) _) = _
    rw [through_ask]
    refine congrArg (Program.bind _) (funext fun x => ?_)
    rcases x with ⟨e | u, k'⟩ <;> rfl
  rw [hrun]
  refine hscaled.bind ?_ ?_ ?_
  · rintro ⟨source | u, k'⟩ hbad
    · refine Within.mono (hafter k' source) (fun _ h => h) ?_
      rintro ⟨_, _⟩ ⟨e, rfl, -⟩ h
      cases h
    · exact absurd ⟨u, rfl⟩ hbad
  · rintro discovery ⟨_, k'⟩ ⟨source, rfl, hsource⟩
    refine Within.mono (hafter k' source) (fun _ h => h) ?_
    rintro ⟨_, _⟩ ⟨e, rfl, he⟩
    refine ⟨e, rfl, ?_⟩
    unfold RouterError.Reflects
    rw [he]
    exact hsource
  · rintro ⟨source | u, k'⟩
    · refine accounts_of_never (Within.mono (hafter k' source) (fun _ h => h) ?_)
      rintro ⟨_, _⟩ ⟨e, rfl, -⟩ h
      cases h
    · exact .done _

theorem accounts_scaleAll (c : Canary) : ∀ steps, Accounts c (scaleAll c steps)
  | [] => fun _ => .done _
  | (role, replicas) :: rest => (accounts_scale c role replicas).bind (accounts_scaleAll c rest)

theorem accounts_setRoutes (c : Canary) (w : RouteWeights) : Accounts c (setRoutes c w) := by
  rw [setRoutes_eq]
  exact (accounts_routes c _).bind (accounts_scaleAll c _)

end Coordinated

/-! ## Steps -/

namespace StepFailure

def isRetriable : StepFailure → Bool
  | .controller e => e.isRetriable
  | .router e => e.isRetriable
  | _ => false

/-- The error of a controller behind the failure of a step. -/
def source? : StepFailure → Option ControllerError
  | .controller e => some e
  | .router e => e.source?
  | _ => none

/-- The baseline that the canary refers to could not be read. -/
def NamesSource (f : StepFailure) : Prop := ∃ e, f.source? = some e ∧ e.NamesSource

/-- A failure after an outage: another try can help unless kinds were asked for, or it was the baseline that the
canary refers to. -/
def Reflects (discovery : Bool) (f : StepFailure) : Prop := f.isRetriable = true ↔ discovery = false ∧ ¬ f.NamesSource

theorem namesSource_iff {f : StepFailure} {e : ControllerError} (h : f.source? = some e) :
    f.NamesSource ↔ e.NamesSource := by
  unfold NamesSource
  rw [h]
  simp

theorem reflects_controller {discovery : Bool} {e : ControllerError} (h : e.Reflects discovery) :
    Reflects discovery (.controller e) := by
  unfold Reflects
  rw [namesSource_iff rfl]
  exact h

theorem reflects_router {discovery : Bool} {e : RouterError} (h : e.Reflects discovery) :
    Reflects discovery (.router e) := by
  unfold Reflects
  cases e with
  | scale | controller =>
    rw [namesSource_iff rfl]
    exact h
  | route | api =>
    obtain rfl : discovery = false := h
    exact ⟨fun _ => ⟨rfl, fun ⟨_, hsource, _⟩ => by cases hsource⟩, fun _ => rfl⟩

end StepFailure

namespace ControllerStep

/-- Steps that ask the router. -/
def routes : ControllerStep → Bool
  | .reconcile => true
  | .setRoutes _ => true
  | .getRoutes => true
  | _ => false

/-- A step that does not ask the router fails after any outage. -/
theorem relays_attempt (settings : Settings) (c : Canary) (k : Controller) {step : ControllerStep}
    (hstep : step.routes = false) :
    ((step.attempt settings c k).run Api.carry : Program Api.interface _).Relays Api.Hit
      (Errs StepFailure.Reflects) := by
  have hpass : ∀ {α : Type} discovery (r : Except ControllerError α), Errs ControllerError.Reflects discovery r →
      Errs StepFailure.Reflects discovery (ended .controller r) := by
    rintro α discovery _ ⟨e, rfl, he⟩
    exact ⟨_, rfl, StepFailure.reflects_controller he⟩
  have hstate : ∀ {α σ : Type} {p : Program Cluster.interface (Except ControllerError α × σ)},
      p.Relays Cluster.Hit (ErrsWith ControllerError.Reflects) →
        (p.bind fun r => done (ended StepFailure.controller r.1)).Relays Cluster.Hit (Errs StepFailure.Reflects) :=
    fun hp => hp.bind (fun discovery r hr => hpass discovery r.1 hr) fun _ => .done _
  have hoperated : ∀ {α : Type} {x : Operation α}, Operation.Relays x →
      (attempt.operated k x).Relays Cluster.Hit (Errs StepFailure.Reflects) := fun hx => hstate (hx k)
  have htask : ∀ {α : Type} {t : Task α}, Task.Relays t →
      (attempt.task t).Relays Cluster.Hit (Errs StepFailure.Reflects) := fun ht =>
    Relays.bind ht hpass fun _ => .done _
  refine Relays.run Api.carry_relays ?_
  cases step with
  | name | finalizeRoutes => exact .done _
  | prepare => exact hoperated (Operation.relays_prepare c settings)
  | requirePrimaryReady => exact hoperated (Operation.relays_requirePrimaryReady c)
  | targetVerdict => exact hoperated (Operation.relays_targetVerdict c)
  | scaleToZero => exact hoperated (Operation.relays_scaleToZero c)
  | scaleFromZero => exact hoperated (Operation.relays_scaleFromZero c)
  | metadata => exact hoperated (Operation.relays_targetMetadata c settings)
  | targetChanged => exact hoperated (Operation.relays_targetChanged c)
  | dependenciesChanged => exact hoperated (Operation.relays_dependenciesChanged c)
  | targetHash => exact hoperated (Operation.relays_task (Task.relays_targetHash c))
  | finalize => exact hoperated (Operation.relays_finalize c)
  | promote => exact hstate (relays_promote settings c)
  | syncStatus delta => exact htask (Task.relays_syncStatus c settings delta)
  | writeStatus delta => exact htask (Task.relays_updateStatus c settings delta)
  | locate role => exact hoperated (Operation.relays_workloadFor c role)
  | scale role replicas => exact hoperated (Operation.relays_scale c role replicas)
  | reconcile | setRoutes | getRoutes => cases hstep

/-- A step fails after an outage, or passes over it. -/
theorem accounts_attempt (settings : Settings) (c : Canary) (k : Controller) (step : ControllerStep) :
    ((step.attempt settings c k).run Api.carry : Program Api.interface _).Accounts Api.Hit (· = .ok ())
      (Errs StepFailure.Reflects) := by
  have hpass : ∀ discovery (x : Except RouterError Unit × Controller), Errs RouterError.Reflects discovery x.1 →
      Errs StepFailure.Reflects discovery (ended .router x.1) := by
    rintro discovery ⟨_, k'⟩ ⟨e, rfl, he⟩
    exact ⟨_, rfl, StepFailure.reflects_router he⟩
  have hcoordinated : ∀ {work : Coordinated Unit}, Coordinated.Accounts c work →
      ((attempt.coordinated c k work).run Api.carry : Program Api.interface _).Accounts Api.Hit (· = .ok ())
        (Errs StepFailure.Reflects) := by
    intro work hwork
    show ((((c.coordinate work).run.run k).bind _).run Api.carry : Program Api.interface _).Accounts _ _ _
    rw [run_bind]
    refine Accounts.bind (hwork k) ?_ hpass fun _ => .done _
    rintro ⟨e | u, k'⟩ hbad
    · exact fun h => by cases h
    · exact absurd rfl hbad
  cases hstep : step.routes with
  | false => exact (relays_attempt settings c k hstep).accounts
  | true =>
    cases step with
    | reconcile => exact hcoordinated (Coordinated.accounts_reconcile c)
    | setRoutes weights => exact hcoordinated (Coordinated.accounts_setRoutes c weights)
    | getRoutes =>
      show ((Api.getRoutes c).run.bind fun r => done (ended StepFailure.router r)).Accounts _ _ _
      exact Api.getRoutes_accounts c (fun _ h => h) (fun _ => rfl) fun failure =>
        ⟨_, rfl, StepFailure.reflects_router (Api.reflects_api failure)⟩
    | _ => cases hstep

/-- For every controller and every canary, in every step and whatever has been answered before: once the server has
answered a request that it is not able to, the step fails, however it goes on, and another try can help unless the
server was asked which kinds it knows, or it was the baseline that the canary refers to that could not be read. Only
steps that ask the router may also pass over such an answer, and what could have succeeded then still can. -/
theorem outage_reflected (settings : Settings) (c : Canary) (k : Controller) (step : ControllerStep)
    {log : List (Exchange Api.interface)} {r : Api.Request}
    {next : Api.Reply r → Program Api.interface (Except StepFailure Unit)} {reply : Api.Reply r}
    (hreached : After ((step.attempt settings c k).run Api.carry) log (Program.ask r next))
    (hrefused : r.Refused reply) :
    (∀ rest result, Trace (next reply) rest result →
      ∃ e, result = .error e ∧ (e.isRetriable = true ↔ r.isDiscovery = false ∧ ¬ e.NamesSource)) ∨
    step.routes = true ∧
      ((∃ rest, Trace (Program.ask (I := Api.interface) r next) rest (.ok ())) →
        ∃ rest, Trace (next reply) rest (.ok ())) := by
  have hhit : Api.Hit r.isDiscovery r reply := ⟨rfl, hrefused⟩
  cases hstep : step.routes with
  | false =>
    have hends := (relays_attempt settings c k hstep).of_after hreached hhit
    exact .inl fun rest result htrace => (hends.of_trace htrace).2
  | true =>
    rcases (accounts_attempt settings c k step).of_after hreached hhit with hends | hspared
    · exact .inl fun rest result htrace => (hends.of_trace htrace).2
    · exact .inr ⟨rfl, hspared (.ok ()) rfl⟩

/-- The store cannot be read for a status that is to be written. -/
theorem outage_reflected_store :
    ∃ (next : Except ApiFailure Json → Program Api.interface (Except StepFailure Unit)) (e : StepFailure),
      After (((writeStatus {}).attempt .default HttpRoute.sharedCanary .deployment).run Api.carry) []
        (Program.ask (I := Api.interface) (.get "/apis/kulta.io/v1beta1/namespaces/prod/canaries/podinfo") next) ∧
      Trace (next (.error (.status 503 "ServiceUnavailable"))) [] (.error e) ∧ e.isRetriable = true := by
  have htarget : Api.objectTarget? (Api.canaryAt "prod" "podinfo") .whole =
      some ⟨"/apis/kulta.io/v1beta1/namespaces/prod/canaries/podinfo", true⟩ := by decide +kernel
  obtain ⟨next, hreached, hnext⟩ :
      ∃ next : Except ApiFailure Json → Program Api.interface (Except StepFailure Unit),
        ((writeStatus {}).attempt .default HttpRoute.sharedCanary .deployment).run Api.carry =
          Program.ask (I := Api.interface) (.get "/apis/kulta.io/v1beta1/namespaces/prod/canaries/podinfo") next ∧
        next (.error (.status 503 "ServiceUnavailable")) =
          done (.error (.controller (.store (.api (.status 503 "ServiceUnavailable"))))) := by
    show ∃ _, (((Api.get Canary.ofJson? (Api.canaryAt "prod" "podinfo")).bind _).bind _) = _ ∧ _
    unfold Api.get
    rw [htarget]
    exact ⟨_, rfl, rfl⟩
  have hended : Trace (next (.error (.status 503 "ServiceUnavailable"))) []
      (.error (.controller (.store (.api (.status 503 "ServiceUnavailable"))))) := by simp [hnext]
  refine ⟨next, _, after_nil_iff.2 hreached.symm, hended, ?_⟩
  rcases outage_reflected .default HttpRoute.sharedCanary .deployment (writeStatus {}) (after_nil_iff.2 hreached.symm)
    ⟨.status 503 "ServiceUnavailable", rfl, (⟨by decide, by decide⟩ : 500 ≤ 503 ∧ 503 < 600)⟩ with hends | ⟨hroutes, -⟩
  · obtain ⟨_, ⟨⟩, hretriable⟩ := hends _ _ hended
    refine hretriable.2 ⟨rfl, ?_⟩
    rintro ⟨_, ⟨⟩, _, _, ⟨⟩⟩
  · cases hroutes

/-- Which kinds the server knows is all that is asked before the target is read. A deployment is taken to have failed
where the server is not able to say. -/
theorem outage_of_discovery_fatal :
    ∃ (next : Except ApiFailure Api.Catalogue → Program Api.interface (Except StepFailure Unit)) (e : StepFailure),
      (targetChanged.attempt .default HttpRoute.sharedCanary .deployment).run Api.carry =
        Program.ask (I := Api.interface) (.kinds "/apis/apps/v1") next ∧
      next (.error (.status 503 "ServiceUnavailable")) = done (.error e) ∧ e.isRetriable = false ∧ ¬ e.NamesSource := by
  have htarget : Api.kindsTarget? "apps/v1" = some ⟨"/apis/apps/v1", true⟩ := by decide +kernel
  obtain ⟨next, hrun, hnext⟩ :
      ∃ next : Except ApiFailure Api.Catalogue → Program Api.interface (Except StepFailure Unit),
        (targetChanged.attempt .default HttpRoute.sharedCanary .deployment).run Api.carry =
          Program.ask (I := Api.interface) (.kinds "/apis/apps/v1") next ∧
        next (.error (.status 503 "ServiceUnavailable")) = done (.error (.controller (.access
          (.unknownKind "apps/v1" "Deployment" (ApiFailure.status 503 "ServiceUnavailable").message)))) := by
    show ∃ _, (((((Api.kinds "apps/v1").bind _).bind _).bind _).bind _) = _ ∧ _
    unfold Api.kinds
    rw [htarget]
    exact ⟨_, rfl, rfl⟩
  refine ⟨next, _, hrun, hnext, rfl, ?_⟩
  rintro ⟨_, ⟨⟩, _, _, ⟨⟩⟩

end ControllerStep

end Rollout
