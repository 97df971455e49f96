/-
Setting a split again after a run that was cut short. A controller that knows its workloads asks for the
writes of the split and for nothing else (`Coordinated.run_setRoutes_asks`), and each of them puts fixed
values into the rules of the route or the size of a workload. Main statement: `setRoutes_repaired`,
whatever fails in a first run, a second one leaves what one alone would have left. That the rules come
through as text unchanged is needed (`setRoutes_drifts`).
-/
import Rollout.Proofs.Api.Effects
import Rollout.Proofs.Controller.Operations
import Rollout.Proofs.Routing.Order
import Rollout.Proofs.World.Strikes

namespace Rollout

open Program

/-! ## What is asked -/

namespace Coordinated

/-- A request to make one of some writes, or for the place of a workload. -/
def Requested (xs : List Write) (r : Coordination.Request) : Prop :=
  (∃ x ∈ xs, x.request = r) ∨ ∃ role, r = .locate role

theorem issueAll_asks (c : Canary) {xs : List Write} : ∀ {ys : List Write}, (∀ y ∈ ys, y ∈ xs) →
    (issueAll c ys).run.Asks (Requested xs)
  | [], _ => trivial
  | y :: rest, h => by
    have hissue : (issue c y).run.Asks (Requested xs) := by
      have hmem := h y (List.mem_cons_self ..)
      cases y with
      | routes weights => exact ⟨.inl ⟨_, hmem, rfl⟩, fun _ => trivial⟩
      | scale role replicas =>
        refine ⟨.inl ⟨_, hmem, rfl⟩, fun reply => ?_⟩
        rcases reply with source | u
        · refine ⟨.inr ⟨role, rfl⟩, fun located => ?_⟩
          cases located <;> trivial
        · trivial
    refine Asks.bind hissue fun r => ?_
    cases r with
    | error e => trivial
    | ok u => exact issueAll_asks c fun y hy => h y (List.mem_cons_of_mem _ hy)

/-- A write as a controller that changes workloads carries it out. -/
def Write.carried (c : Canary) (k : Controller) (refs : Role → WorkloadRef) : Write → Exchange Cluster.interface
  | .routes weights => ⟨.setRoutes c weights, .ok ()⟩
  | .scale role replicas => ⟨.change (refs role) (k.resize replicas), .ok ()⟩

/-- A request by which one of some writes is carried out. -/
def Carries (c : Canary) (k : Controller) (refs : Role → WorkloadRef) (xs : List Write) (r : Cluster.Request) : Prop :=
  ∃ e ∈ xs.map (·.carried c k refs), e.request = r

section Known

variable {c : Canary} {k : Controller} {refs : Role → WorkloadRef}

variable (hk : k.patches = true) (hrefs : ∀ role, k.workload? c role = some (refs role))

include hk hrefs

theorem scale_within (role : Role) (replicas : Int32) : ((c.scale role replicas).run.run k).Within
    (· = Cluster.Request.change (refs role) (k.resize replicas)) fun r => r.2 = k := by
  rw [show (c.scale role replicas).run.run k = _ from Operation.performs_scale hk (hrefs role) replicas]
  refine ⟨rfl, fun reply => ?_⟩
  cases reply <;> rfl

/-- It asks for the writes it is to carry out, and for nothing else. -/
theorem run_within {α : Type} {xs : List Write} {p : Program Coordination.interface α} (h : p.Asks (Requested xs)) :
    ((p.run c.coordination).run k).Within (Carries c k refs xs) fun r : α × Controller => r.2 = k := by
  induction p with
  | done a => exact rfl
  | ask r next ih =>
    have hhandled : ((c.coordination r).run k).Within (Carries c k refs xs) fun r => r.2 = k := by
      rcases h.1 with ⟨x, hx, rfl⟩ | ⟨role, rfl⟩
      · have hmem : x.carried c k refs ∈ xs.map (·.carried c k refs) := List.mem_map_of_mem hx
        cases x with
        | routes weights => exact ⟨⟨_, hmem, rfl⟩, fun _ => rfl⟩
        | scale role replicas =>
          exact Within.mono (scale_within hk hrefs role replicas) (fun r hr => hr ▸ ⟨_, hmem, rfl⟩) fun _ h => h
      · show ((c.workloadFor role).run.run k).Within _ _
        rw [Operation.run_workloadFor (hrefs role)]
        exact rfl
    refine Within.bind hhandled ?_
    rintro ⟨reply, k'⟩ rfl
    exact ih reply (h.2 reply)

/-- Where all is done that it asks, a split is set by carrying out its writes. -/
theorem trace_run_setRoutes (w : RouteWeights) :
    Trace (((setRoutes c w).run.run c.coordination).run k) ((writesFor c w).map (·.carried c k refs)) (.ok (), k) := by
  have hrun := ok_setRoutes hk hrefs w
  have hlog : (writesFor c w).map (·.carried c k refs) = ⟨.setRoutes c (plan c w).1, .ok ()⟩ ::
      (plan c w).2.map fun step => ⟨.change (refs step.1) (k.resize step.2), .ok ()⟩ := by
    rw [writesFor, List.map_cons, List.map_map]; rfl
  rw [hlog]
  exact trace_run_iff.2 ⟨_, hrun⟩

theorem run_setRoutes_asks (w : RouteWeights) :
    (((setRoutes c w).run.run c.coordination).run k).Asks (Carries c k refs (writesFor c w)) := by
  rw [setRoutes_eq_issueAll]
  exact (run_within hk hrefs (issueAll_asks c fun _ h => h)).asks

end Known

end Coordinated

/-! ## Setting a split through the API -/

/-- A split is set with a controller, through the API. -/
def splitting (c : Canary) (k : Controller) (w : RouteWeights) :
    Program Api.interface (Except RouterError Unit × Controller) :=
  ((c.coordinate (Coordinated.setRoutes c w)).run.run k).run Api.carry

/-- A canary without a namespace has no route, and nothing is written for it. -/
theorem splitting_of_unplaced {c : Canary} (h : c.targetNamespace? = none) (k : Controller) (w : RouteWeights) :
    ∃ e, splitting c k w = done (.error e, k) := by
  have hroutes : ∀ weights, ∃ e, (Api.setRoutes c weights).run = done (.error e) := by
    intro weights
    refine ⟨.route c.routeName "" 0 0 "canary has no namespace", ?_⟩
    unfold Api.setRoutes Api.routeAddress
    rw [h]; rfl
  obtain ⟨e, he⟩ := hroutes (Coordinated.plan c w).1
  refine ⟨e, ?_⟩
  unfold splitting Canary.coordinate
  rw [Coordinated.setRoutes_eq]
  show (((Api.setRoutes c (Coordinated.plan c w).1).run).bind _) = _
  rw [he]; rfl

/-- Setting a split again makes up for a run that was cut short. For any canary whose workloads a
controller that changes them knows and that are live, any split and any faults: be the route missing, or
be it there with rules that come through as text unchanged once the split is written, doing it again ends
as doing it once would have, and every stored object has the rules and the size that it would have. -/
theorem setRoutes_repaired {c : Canary} {k : Controller} {w : RouteWeights} {refs : Role → WorkloadRef}
    {word : Nat → String} {world world₁ : World} {first : Except RouterError Unit × Controller} (hk : k.patches = true)
    (hrefs : ∀ role, k.workload? c role = some (refs role))
    (hordered : ∀ ref j, world.store.get? ref = some j → j.Ordered)
    (hlive : ∀ role, ∃ object world', Ends (World.fair word) (Api.workload (refs role)).run world (.ok object) world')
    (hroute : ∀ ns, c.targetNamespace? = some ns → ∃ found world',
      Ends (World.fair word) (Api.route (Api.routeAt c ns)).run world (.ok found) world' ∧
        ∀ route ∈ found, ∀ rule ∈ HttpRoute.splitRules c (Coordinated.plan c w).1 (HttpRoute.rules route.body),
          rule.Steady)
    (hfirst : Faulty (World.fair word) Api.Failed (splitting c k w) world first world₁) :
    ∃ result once twice, Ends (World.fair word) (splitting c k w) world result once ∧
      Ends (World.fair word) (splitting c k w) world₁ result twice ∧ ∀ x, twice.holds k x = once.holds k x := by
  cases hns : c.targetNamespace? with
  | none =>
    obtain ⟨e, he⟩ := splitting_of_unplaced hns k w
    rw [he] at hfirst ⊢
    cases hfirst
    exact ⟨_, world, world, ends_done_iff.2 ⟨rfl, rfl⟩, ends_done_iff.2 ⟨rfl, rfl⟩, fun _ => rfl⟩
  | some ns =>
    obtain ⟨found, world', hends, hsteady⟩ := hroute ns hns
    obtain ⟨sent, ht⟩ := Api.exists_target_of_ends_route hends
    have hfound : world.stored? sent.path = none ∧ word 404 = "NotFound" ∨
        ∃ j r m, world.stored? sent.path = some j ∧ j.ReadAs r ∧ Manifest.ofJson? r = some m ∧
          ∀ rule ∈ HttpRoute.splitRules c (Coordinated.plan c w).1 (HttpRoute.rules m.body), rule.Steady := by
      rcases Api.exists_of_ends_route ht hends with ⟨-, hnone, hword⟩ | ⟨j, r, m, rfl, hj, hr, hm⟩
      · exact .inl ⟨hnone, hword⟩
      · exact .inr ⟨j, r, m, hj, hr, hm, hsteady m rfl⟩
    obtain ⟨asked, put, hstands, hrules⟩ := exists_puts_setRoutes hns ht (Coordinated.plan c w).1 k word hordered hfound
    -- each write puts what it puts whatever has been done before
    have hall : ∀ e ∈ (Coordinated.writesFor c w).map (·.carried c k refs), ∃ put, Puts (World.fair word) Api.Failed
        (World.Stands k world asked) (World.holds k) (Api.carry e.request) e.reply put := by
      intro e he
      obtain ⟨x, hx, rfl⟩ := List.mem_map.1 he
      rcases List.mem_cons.1 hx with rfl | hx
      · exact ⟨put, hrules⟩
      · obtain ⟨⟨role, replicas⟩, -, rfl⟩ := List.mem_map.1 hx
        obtain ⟨object, world', hworkload⟩ := hlive role
        obtain ⟨a, path, j, hlocated, hj, hread⟩ := Api.exists_of_ends_workload hworkload
        obtain ⟨⟨spot, part⟩, hn, hget⟩ := Option.bind_eq_some_iff.1 hj
        exact ⟨_, puts_change word hlocated hn hget hread k replicas asked⟩
    choose! puts hputs using hall
    exact ⟨_, repaired (Coordinated.trace_run_setRoutes hk hrefs w) (Coordinated.run_setRoutes_asks hk hrefs w) hputs
      hstands hfirst⟩

/-! ### A world with a route -/

/-- The route of `sizedCanary`. -/
def sizedRoute : WorkloadRef := (⟨Api.routeResource, "prod", "podinfo"⟩ : Api.Address).ref

/-- A stored object of `prod` with this specification. -/
def sizedObject (ref : WorkloadRef) (spec : List (String × Json)) : WorkloadRef × Json :=
  (ref, .object [("apiVersion", .str ref.apiVersion), ("kind", .str ref.kind),
    ("metadata", .object [("name", .str ref.name), ("namespace", .str ref.ns)]), ("spec", .object spec)])

/-- The workloads of `sizedCanary` with three replicas each, and its route with one rule. -/
def sizedWorld (rule : List (String × Json)) : World where
  store := { objects := [
    sizedObject (sizedWorkload .canary) [("replicas", .int 3)],
    sizedObject (sizedWorkload .primary) [("replicas", .int 3)],
    sizedObject sizedRoute [("rules", .arr [.object rule])]] }
  now := default
  kinds := World.commonKinds

/-- The same world, where the first patch of the target is to fail. -/
def struckWorld (rule : List (String × Json)) : World :=
  { sizedWorld rule with faults := [⟨"PATCH", some "deployments/podinfo", .status 500, some 1⟩] }

theorem ordered_sizedObject (ref : WorkloadRef) {spec : List (String × Json)} (h : ∀ e ∈ spec, e.2.Ordered) :
    (sizedObject ref spec).2.Ordered := by
  have hname : (Json.object [("name", .str ref.name), ("namespace", .str ref.ns)]).Ordered :=
    Json.ordered_object (by simp [Json.Ordered])
  exact Json.ordered_object (by simpa [Json.Ordered, hname] using Json.ordered_object h)

theorem ordered_sizedWorld {rule : List (String × Json)} (h : ∀ e ∈ rule, e.2.Ordered) (ref : WorkloadRef) (j : Json)
    (hj : (sizedWorld rule).store.get? ref = some j) : j.Ordered := by
  obtain ⟨before, after, hobjects, -⟩ := List.lookup_eq_some_iff.1 hj
  have hmem : (ref, j) ∈ (sizedWorld rule).store.objects := by rw [hobjects]; simp
  have hrules : (Json.arr [.object rule]).Ordered := (Json.orderedItems_iff _).2 (by simpa using Json.ordered_object h)
  simp only [sizedWorld, List.mem_cons, List.not_mem_nil, or_false] at hmem
  rcases hmem with hmem | hmem | hmem
  · rw [← show (ref, j).2 = j from rfl, hmem]
    exact ordered_sizedObject _ (by simp [Json.Ordered])
  · rw [← show (ref, j).2 = j from rfl, hmem]
    exact ordered_sizedObject _ (by simp [Json.Ordered])
  · rw [← show (ref, j).2 = j from rfl, hmem]
    exact ordered_sizedObject _ (by simpa using hrules)

/-- The split by halves of `sizedCanary`, underway. -/
def halving : Program Api.interface (Except RouterError Unit × Controller) :=
  splitting (sizedCanary .progressing 4) .deployment ⟨50, 50, false⟩

/-- What the split by halves ends with in a world. -/
def halved (world : World) : (Except RouterError Unit × Controller) × World :=
  (halving.run (World.fair fun _ => "")).run world

theorem ends_halved (world : World) : Ends (World.fair fun _ => "") halving world (halved world).1 (halved world).2 :=
  ends_run halving world

/-- The rules of a route that is found hold no doubles with the split by halves. -/
def wholeSplit (found : Option Manifest) : Bool :=
  found.all fun route => Json.areWhole (HttpRoute.splitRules (sizedCanary .progressing 4)
    (Coordinated.plan (sizedCanary .progressing 4) ⟨50, 50, false⟩).1 (HttpRoute.rules route.body))

/-- A target that cannot be patched at first: the route has been written and the target has not been
scaled, and doing it again makes up for that. -/
theorem setRoutes_repaired_half : ∃ first world₁ result once twice,
    Faulty (World.fair fun _ => "") Api.Failed halving (sizedWorld [("filters", .arr [])]) first world₁ ∧
    first.1.isOk = false ∧
    Ends (World.fair fun _ => "") halving (sizedWorld [("filters", .arr [])]) result once ∧
    Ends (World.fair fun _ => "") halving world₁ result twice ∧
    ∀ x, twice.holds .deployment x = once.holds .deployment x := by
  obtain ⟨world₁, hfaulty, -⟩ := World.faulty_of_serve halving (v := sizedWorld [("filters", .arr [])])
    (w := struckWorld [("filters", .arr [])]) rfl
  have hlive : ∀ role, ∃ object world', Ends (World.fair fun _ => "") (Api.workload (sizedWorkload role)).run
      (sizedWorld [("filters", .arr [])]) (.ok object) world' := by
    intro role
    refine Exists.imp (fun _ h => h.2) (exists_ends_ok (fun _ => true) ?_)
    cases role <;> decide +kernel
  have hroute : ∀ ns, (sizedCanary .progressing 4).targetNamespace? = some ns → ∃ found world',
      Ends (World.fair fun _ => "") (Api.route (Api.routeAt (sizedCanary .progressing 4) ns)).run
        (sizedWorld [("filters", .arr [])]) (.ok found) world' ∧
        ∀ route ∈ found, ∀ rule ∈ HttpRoute.splitRules (sizedCanary .progressing 4)
          (Coordinated.plan (sizedCanary .progressing 4) ⟨50, 50, false⟩).1 (HttpRoute.rules route.body),
          rule.Steady := by
    intro ns hns
    obtain rfl : "prod" = ns := Option.some.inj hns
    have hfound : ∃ found, wholeSplit found = true ∧ ∃ world', Ends (World.fair fun _ => "")
        (Api.route (Api.routeAt (sizedCanary .progressing 4) "prod")).run (sizedWorld [("filters", .arr [])])
          (.ok found) world' :=
      exists_ends_ok wholeSplit (by decide +kernel)
    obtain ⟨found, hwhole, world', hends⟩ := hfound
    refine ⟨found, world', hends, fun route hmem => ?_⟩
    obtain rfl : found = some route := hmem
    exact Json.steady_of_areWhole hwhole
  obtain ⟨result, once, twice, honce, htwice, hsame⟩ := setRoutes_repaired rfl (workload?_sizedCanary .progressing 4)
    (ordered_sizedWorld (by simp [Json.Ordered, Json.OrderedItems])) hlive hroute hfaulty
  exact ⟨_, world₁, result, once, twice, hfaulty, by decide +kernel, honce, htwice, hsame⟩

/-- A double that is read as its neighbour. -/
def drifting : Double := ⟨false, 4332734418915482619, by decide⟩

/-- Where the ratio of the first rule stands among the doubles. -/
def ratioOf (rules : Option Json) : Option Nat :=
  match rules.bind (·.pointer? ["0", "ratio"]) with
  | some (.double x) => some x.position
  | _ => none

/-- Rules are written as they were read. One that holds a double which is read as its neighbour is not
what it would have been once it has been written twice. -/
theorem setRoutes_drifts : ∃ first world₁ result once result' twice,
    Faulty (World.fair fun _ => "") Api.Failed halving (sizedWorld [("ratio", .double drifting)]) first world₁ ∧
    Ends (World.fair fun _ => "") halving (sizedWorld [("ratio", .double drifting)]) result once ∧
    Ends (World.fair fun _ => "") halving world₁ result' twice ∧
    result.1.isOk = true ∧ result'.1.isOk = true ∧
    twice.holds .deployment (sizedRoute, .rules) ≠ once.holds .deployment (sizedRoute, .rules) := by
  obtain ⟨world₁, hfaulty, hcontent⟩ := World.faulty_of_serve halving (v := sizedWorld [("ratio", .double drifting)])
    (w := struckWorld [("ratio", .double drifting)]) rfl
  generalize hstruck : ((halving.run World.serve).run (struckWorld [("ratio", .double drifting)])) = struck
    at hfaulty hcontent
  obtain ⟨hresult, hagain⟩ : World.Agree (halved world₁) (halved struck.2) := World.blind_run _ halving _ _ hcontent
  have hratios : ((halved (sizedWorld [("ratio", .double drifting)])).1.1.isOk, (halved struck.2).1.1.isOk,
      ratioOf ((halved (sizedWorld [("ratio", .double drifting)])).2.holds .deployment (sizedRoute, .rules)),
      ratioOf ((halved struck.2).2.holds .deployment (sizedRoute, .rules))) =
        (true, true, some 4332734418915482621, some 4332734418915482623) := by
    subst hstruck
    decide +kernel
  simp only [Prod.mk.injEq] at hratios
  obtain ⟨honce, htwice, hfirst, hsecond⟩ := hratios
  refine ⟨_, world₁, _, _, _, _, hfaulty, ends_halved _, ends_halved _, honce, by rw [hresult]; exact htwice,
    fun hsame => ?_⟩
  rw [World.holds_congr hagain] at hsame
  rw [hsame, hfirst] at hsecond
  exact absurd hsecond (by decide)

end Rollout
