/-
What each operation of a controller may ask. Whatever it is answered, an operation reads, and changes
no more than the scalings of its step (`ControllerStep.scalings`), each made to the workload in its
role; and it settles no more than the baseline of its controller. Main statements:
`ControllerStep.work_within`, for any bound on the requests that the scalings and the judging keep,
and `ControllerStep.work_takes`, its case for the scalings of the step. A session is left as the work of
its step ends (`ControllerStep.leaves_takeControllerStep`).
-/
import Rollout.Proofs.Routing.Served
import Rollout.Proofs.Session
import Rollout.Proofs.Status.Update

namespace Rollout

open Program

/-! ## What may be asked -/

/-- A request that reads, or that carries out one of some scalings on the workload in its role. -/
def Cluster.Request.Takes (c : Canary) (k : Controller) (scalings : List (Role × Int32)) (r : Cluster.Request) : Prop :=
  r.Reads ∨ ∃ scaling ∈ scalings, ∃ k' ref,
    k.Settles k' ∧ k'.workload? c scaling.1 = some ref ∧ r = k.sizing ref scaling.2

namespace Operation

variable {α β ε : Type} {c : Canary} {k : Controller} {allowed : Cluster.Request → Prop}
  {post : α → Controller → Prop} {post' : β → Controller → Prop}

/-- Whatever it is answered, the operation asks only what is allowed and makes no more of its
controller than to settle the baseline. What a success gives is as it should be. -/
def Keeps (allowed : Cluster.Request → Prop) (k : Controller) (x : Operation α) (post : α → Controller → Prop) : Prop :=
  (x.run.run k).Within allowed fun r => k.Settles r.2 ∧ ∀ a, r.1 = .ok a → post a r.2

/-- The operation asks only what is allowed. -/
def Asks (allowed : Cluster.Request → Prop) (k : Controller) (x : Operation α) : Prop :=
  Keeps allowed k x fun _ _ => True

theorem Keeps.mono {x : Operation α} {post₁ : α → Controller → Prop} (hx : Keeps allowed k x post)
    (h : ∀ a k', post a k' → post₁ a k') : Keeps allowed k x post₁ :=
  Within.mono hx (fun _ h => h) fun _ hr => ⟨hr.1, fun a ha => h a _ (hr.2 a ha)⟩

theorem Keeps.asks {x : Operation α} (hx : Keeps allowed k x post) : Operation.Asks allowed k x :=
  hx.mono fun _ _ _ => trivial

theorem Keeps.bind {x : Operation α} {f : α → Operation β} (hx : Keeps allowed k x post)
    (hf : ∀ a k₁, k.Settles k₁ → post a k₁ → Keeps allowed k₁ (f a) post') : Keeps allowed k (x >>= f) post' := by
  show ((x.run.run k).bind _).Within _ _
  refine Within.bind hx ?_
  rintro ⟨e | a, k₁⟩ ⟨hsettles, hpost⟩
  · exact ⟨hsettles, fun _ h => by cases h⟩
  · exact Within.mono (hf a k₁ hsettles (hpost a rfl)) (fun _ h => h) fun r h => ⟨hsettles.trans h.1, h.2⟩

theorem keeps_pure (a : α) : Keeps allowed k (pure a) fun b k' => b = a ∧ k' = k :=
  ⟨.same k, fun _ h => by cases h; exact ⟨rfl, rfl⟩⟩

theorem asks_throw (e : ControllerError) : Operation.Asks allowed k (throw e : Operation α) :=
  ⟨.same k, fun _ h => by cases h⟩

theorem keeps_get : Keeps allowed k get fun k₁ k' => k₁ = k ∧ k' = k :=
  ⟨.same k, fun _ h => by cases h; exact ⟨rfl, rfl⟩⟩

/-- A task leaves the controller as it is. -/
theorem keeps_task {t : Task α} (h : t.run.Asks allowed) : Keeps allowed k (monadLift t) fun _ k' => k' = k :=
  Within.bind h.within fun _ _ => ⟨.same k, fun _ _ => rfl⟩

theorem keeps_ofExcept {wrap : ε → ControllerError} {x : Except ε α} :
    Keeps allowed k (monadLift (Task.ofExcept wrap x)) fun a k' => x = .ok a ∧ k' = k := by
  cases x with
  | error e => exact ⟨.same k, fun _ h => by cases h⟩
  | ok a => exact ⟨.same k, fun _ h => by cases h; exact ⟨rfl, rfl⟩⟩

section Reading

variable (hlooks : ∀ r : Cluster.Request, r.Looks → allowed r)

include hlooks

/-- A task that changes nothing. -/
theorem keeps_looks {t : Task α} (h : t.run.Asks Cluster.Request.Looks) :
    Keeps allowed k (monadLift t) fun _ k' => k' = k :=
  keeps_task (h.mono hlooks)

/-! ### Finding workloads -/

theorem keeps_settledBaseline (c : Canary) (settled : Option WorkloadRef) :
    Keeps allowed (.rolling settled) (c.settledBaseline settled) fun ref k' => k' = .rolling (some ref) := by
  cases settled with
  | some baseline => exact (keeps_pure baseline).mono fun _ _ ⟨hb, hk⟩ => by rw [hb, hk]
  | none =>
    have hbase : ∀ object, (baselineRef object).run.Asks Cluster.Request.Looks := by
      intro object
      unfold baselineRef
      split <;> trivial
    refine Keeps.bind (keeps_looks hlooks (resolveSource_asks c)) fun object k₁ _ hk₁ => ?_
    refine Keeps.bind (keeps_looks hlooks (hbase object)) fun baseline k₂ _ hk₂ => ?_
    subst hk₁ hk₂
    have hset : Keeps allowed (.rolling none) (set (Controller.rolling (some baseline)))
        fun (_ : PUnit) k' => k' = .rolling (some baseline) :=
      ⟨.settled baseline, fun _ _ => rfl⟩
    exact Keeps.bind hset fun _ k₃ _ hk₃ => (keeps_pure baseline).mono fun _ _ ⟨hb, hk⟩ => by rw [hk, hk₃, hb]

/-- What is found for a role is the workload that the controller then knows for it. -/
theorem keeps_workloadFor (c : Canary) (k : Controller) (role : Role) :
    Keeps allowed k (c.workloadFor role) fun ref k' => k'.workload? c role = some ref := by
  refine Keeps.bind keeps_get fun _ k₁ _ hk => ?_
  obtain ⟨rfl, rfl⟩ := hk
  have hplaced : ∀ {o : Option WorkloadRef}, k₁.workload? c role = o →
      Keeps allowed k₁ (monadLift (Task.ofExcept id (c.placed o)) : Operation WorkloadRef)
        fun ref k' => k'.workload? c role = some ref := by
    intro o ho
    refine keeps_ofExcept.mono fun ref k' ⟨hplaced, hk⟩ => ?_
    rw [hk, ho]
    cases o with
    | none => cases hplaced
    | some ref' => cases hplaced; rfl
  have hgiven : ∀ {ref : WorkloadRef}, k₁.workload? c role = some ref →
      Keeps allowed k₁ (pure ref) fun ref k' => k'.workload? c role = some ref := fun href =>
    (keeps_pure _).mono fun _ _ ⟨hb, hk⟩ => by rw [hb, hk, href]
  cases k₁ with
  | deployment | daemonSet | service =>
    cases role with
    | primary => exact hplaced rfl
    | canary => exact hplaced rfl
  | rolling settled =>
    cases role with
    | primary => exact (keeps_settledBaseline hlooks c settled).mono fun ref k' hk => by rw [hk]; rfl
    | canary => exact hplaced rfl
  | swap baseline target =>
    cases role with
    | primary => exact hgiven rfl
    | canary => exact hgiven rfl

/-! ### Scaling -/

/-- Scaling changes the workload in the role, by the change of the controller's kind. -/
theorem asks_scale {role : Role} {replicas : Int32}
    (hsizing : ∀ k' ref, k.Settles k' → k'.workload? c role = some ref → allowed (k.sizing ref replicas)) :
    Operation.Asks allowed k (c.scale role replicas) := by
  refine Keeps.bind keeps_get fun _ k₁ _ hk => ?_
  obtain ⟨rfl, rfl⟩ := hk
  have hdone : ∀ {k' : Controller} (reply : Except AccessError Unit),
      Operation.Asks allowed k' (monadLift (Task.ofExcept .access reply) : Operation Unit) := fun reply =>
    keeps_ofExcept.asks
  cases k₁ with
  | service => exact (keeps_pure ()).asks
  | deployment | daemonSet | rolling | swap =>
    refine Keeps.bind (keeps_workloadFor hlooks c _ role) fun ref k' hsettles href => ?_
    exact Keeps.bind (keeps_task (Task.asks_ask (hsizing k' ref hsettles href))) fun reply _ _ _ => hdone reply

end Reading

/-- A controller that only routes scales nothing. -/
theorem asks_scale_service (role : Role) (replicas : Int32) : Operation.Asks allowed .service (c.scale role replicas) :=
  Keeps.bind keeps_get fun _ k₁ _ hk => by
    obtain ⟨rfl, rfl⟩ := hk
    exact (keeps_pure ()).asks

end Operation

/-! ## Work that only reads -/

theorem Cluster.Request.Updates.reads {r : Cluster.Request} (h : r.Updates) : r.Reads := by
  cases r with
  | change | scale => exact h.elim
  | _ => rfl

/-- A request by which workloads are judged. -/
def Cluster.Request.Judges : Cluster.Request → Prop
  | .workload _ => True
  | .now => True
  | _ => False

theorem Cluster.Request.Judges.looks {r : Cluster.Request} (h : r.Judges) : r.Looks := by
  cases r with
  | workload | now => rfl
  | _ => exact h.elim

theorem workload_judges (ref : WorkloadRef) : (Task.workload ref).run.Asks Cluster.Request.Judges :=
  Task.asks_bind (Task.asks_ask trivial) fun _ => Task.asks_ofExcept

theorem workload_asks (ref : WorkloadRef) : (Task.workload ref).run.Asks Cluster.Request.Looks :=
  (workload_judges ref).mono fun _ h => h.looks

theorem targetHash_asks (c : Canary) : c.targetHash.run.Asks Cluster.Request.Looks := by
  refine Task.asks_bind Task.asks_ofExcept fun target => ?_
  exact Task.asks_bind (workload_asks target) fun _ => trivial

theorem verdictNow_judges (c : Canary) (object : Manifest) : (c.verdictNow object).run.Asks Cluster.Request.Judges :=
  Task.asks_bind (Task.asks_ask trivial) fun _ => Task.asks_ofExcept

theorem verdict_judges (c : Canary) (object : Manifest) : (c.verdict object).run.Asks Cluster.Request.Judges := by
  unfold Canary.verdict
  split
  · split
    · trivial
    · exact Task.asks_bind (workload_judges _) fun deployment => verdictNow_judges c deployment
  · exact verdictNow_judges c object

theorem verdict_asks (c : Canary) (object : Manifest) : (c.verdict object).run.Asks Cluster.Request.Looks :=
  (verdict_judges c object).mono fun _ h => h.looks

theorem completeDelta_asks (c : Canary) (delta : StatusDelta) :
    (c.completeDelta delta).run.Asks Cluster.Request.Looks := by
  unfold Canary.completeDelta
  refine Task.asks_bind (Task.asks_ask rfl) fun reply => ?_
  -- with either answer the hash is asked for next
  extract_lets withConfigs
  have hrest : ∀ configs, (withConfigs configs).run.Asks Cluster.Request.Looks := by
    intro configs
    dsimp only [withConfigs]
    cases delta.lastAppliedSpec with
    | some hash => trivial
    | none => exact Task.asks_bind (targetHash_asks c) fun _ => trivial
  cases reply with
  | ok refs => exact hrest _
  | error e =>
    show Asks _ (ite _ _ _ : Task StatusDelta).run
    split
    · exact hrest _
    · trivial

/-- A status is recorded by looking and updating. -/
theorem syncStatus_asks_of {allowed : Cluster.Request → Prop} (hlooks : ∀ r : Cluster.Request, r.Looks → allowed r)
    (hupdates : ∀ r : Cluster.Request, r.Updates → allowed r) (c : Canary) (settings : Settings) (delta : StatusDelta) :
    (c.syncStatus settings delta).run.Asks allowed :=
  Task.asks_bind ((completeDelta_asks c delta).mono hlooks) fun _ => (updateAttempts_updates ..).mono hupdates

theorem syncStatus_asks (c : Canary) (settings : Settings) (delta : StatusDelta) :
    (c.syncStatus settings delta).run.Asks Cluster.Request.Reads :=
  syncStatus_asks_of (fun _ h => h.reads) (fun _ h => h.reads) c settings delta

theorem promote_updates (settings : Settings) (c : Canary) :
    ((promote settings).run.run c).Asks Cluster.Request.Updates := by
  have hattempt : ∀ {task : Task Canary}, task.run.Asks Cluster.Request.Updates →
      ∀ {f : Canary → ExceptT ControllerError (StateT Canary (Program Cluster.interface)) Unit},
        (∀ a s, ((f a).run.run s).Asks Cluster.Request.Updates) → ∀ s : Canary,
          ((promote.attempt task >>= f).run.run s).Asks Cluster.Request.Updates := by
    intro task htask f hf s
    refine Asks.bind (Asks.bind htask fun _ => trivial) ?_
    rintro ⟨e | a, s'⟩
    · trivial
    · exact hf a s'
  show Asks _ ((ite _ _ _ : ExceptT ControllerError (StateT Canary (Program Cluster.interface)) Unit).run.run c)
  split
  · trivial
  · refine hattempt (updateAttempts_updates ..) (fun recorded s => ?_) c
    have hread : (Task.canary recorded.ns recorded.name).run.Asks Cluster.Request.Updates :=
      Task.asks_bind (Task.asks_ask trivial) fun _ => Task.asks_ofExcept
    exact hattempt hread (f := set) (fun a s => show Asks _ (done (Except.ok (), a)) from trivial) recorded

/-! ## Operations that only read -/

namespace Operation

section Reading

variable {allowed : Cluster.Request → Prop} (hlooks : ∀ r : Cluster.Request, r.Looks → allowed r)

include hlooks

theorem asks_requirePrimaryReady (c : Canary) (k : Controller) : Operation.Asks allowed k c.requirePrimaryReady := by
  refine Keeps.bind keeps_get fun _ k₁ _ hk => ?_
  obtain ⟨rfl, rfl⟩ := hk
  cases k₁ with
  | service => exact (keeps_pure ()).asks
  | deployment | daemonSet | rolling | swap =>
    refine Keeps.bind (keeps_workloadFor hlooks c _ .primary) fun ref _ _ _ => ?_
    refine Keeps.bind (keeps_looks hlooks (workload_asks ref)) fun object _ _ _ => ?_
    exact Keeps.bind (keeps_looks hlooks (verdict_asks c object)) fun _ _ _ _ => keeps_ofExcept.asks

theorem asks_targetVerdict (c : Canary) (k : Controller) : Operation.Asks allowed k c.targetVerdict := by
  refine Keeps.bind keeps_get fun _ k₁ _ hk => ?_
  obtain ⟨rfl, rfl⟩ := hk
  cases k₁ with
  | service => exact (keeps_pure _).asks
  | deployment | daemonSet | rolling | swap =>
    refine Keeps.bind (keeps_workloadFor hlooks c _ .canary) fun ref _ _ _ => ?_
    refine Keeps.bind (keeps_looks hlooks (workload_asks ref)) fun object _ _ _ => ?_
    exact (keeps_looks hlooks (verdict_asks c object)).asks

theorem asks_targetMetadata (c : Canary) (settings : Settings) (k : Controller) :
    Operation.Asks allowed k (c.targetMetadata settings) := by
  refine Keeps.bind keeps_get fun _ k₁ _ hk => ?_
  obtain ⟨rfl, rfl⟩ := hk
  cases k₁ with
  | service => exact (keeps_pure _).asks
  | deployment | daemonSet | rolling | swap =>
    refine Keeps.bind (keeps_workloadFor hlooks c _ .canary) fun ref _ _ _ => ?_
    exact Keeps.bind (keeps_looks hlooks (workload_asks ref)) fun _ _ _ _ => keeps_ofExcept.asks

theorem asks_targetChanged (c : Canary) (k : Controller) : Operation.Asks allowed k c.targetChanged := by
  refine Keeps.bind keeps_get fun _ k₁ _ hk => ?_
  obtain ⟨rfl, rfl⟩ := hk
  cases k₁ with
  | rolling | swap => exact (keeps_pure _).asks
  | deployment | daemonSet | service =>
    exact Keeps.bind (keeps_looks hlooks (targetHash_asks c)) fun _ _ _ _ => (keeps_pure _).asks

theorem asks_dependenciesChanged (c : Canary) (k : Controller) : Operation.Asks allowed k c.dependenciesChanged := by
  refine Keeps.bind keeps_get fun _ k₁ _ hk => ?_
  obtain ⟨rfl, rfl⟩ := hk
  cases k₁ with
  | service => exact (keeps_pure _).asks
  | deployment | daemonSet | rolling | swap =>
    refine Keeps.bind (keeps_looks hlooks (Task.asks_ask rfl)) fun reply _ _ _ => ?_
    cases reply with
    | ok changed => exact (keeps_pure _).asks
    | error e =>
      show Operation.Asks allowed _ (ite _ _ _ : Operation Bool)
      split
      · exact (keeps_pure _).asks
      · exact asks_throw _

end Reading

end Operation

/-! ## Operations that scale -/

/-- Whether a controller finds its baseline when it is needed. -/
def Controller.isRolling : Controller → Bool
  | .rolling _ => true
  | _ => false

/-- What preparing scales. -/
def Canary.preparation (c : Canary) : Controller → List (Role × Int32)
  | .service => []
  | .rolling _ => []
  | k => if c.isInitializing then [(.canary, 0), (.primary, c.fullSize k)] else []

/-- What retiring scales. -/
def Canary.retirement (c : Canary) : Controller → List (Role × Int32)
  | .service => []
  | .rolling _ => []
  | .swap _ _ => [(.primary, if c.isPromoted then 0 else c.maxReplicas)]
  | _ => [(.canary, 0)]

/-- What a start from zero scales. -/
def Canary.firstSize (c : Canary) : Controller → List (Role × Int32)
  | .deployment => [(.canary, max c.spec.analysis.canaryReplicas 1)]
  | .daemonSet => [(.canary, 1)]
  | _ => []

namespace Operation

/-- Scalings that may be made, also once the baseline has been settled. -/
def MayScale (allowed : Cluster.Request → Prop) (c : Canary) (k : Controller) (scalings : List (Role × Int32)) : Prop :=
  ∀ scaling ∈ scalings, ∀ k₁, k.Settles k₁ → Operation.Asks allowed k₁ (c.scale scaling.1 scaling.2)

section Scaling

variable {allowed : Cluster.Request → Prop} {c : Canary} {k : Controller} {scalings : List (Role × Int32)}

/-- Scalings that are due are taken. -/
theorem mayScale_takes (c : Canary) (k : Controller) (scalings : List (Role × Int32)) :
    MayScale (Cluster.Request.Takes c k scalings) c k scalings := by
  rintro ⟨role, replicas⟩ hmem k₁ h
  exact asks_scale (fun _ h => .inl h.reads) fun k' ref hsettles href =>
    .inr ⟨(role, replicas), hmem, k', ref, h.trans hsettles, href, h.sizing ref replicas⟩

/-- A rolling canary that is prepared may have its status written if it is initialized; nothing else is changed. -/
theorem asks_prepare_rolling {settings : Settings} (hlooks : ∀ r : Cluster.Request, r.Looks → allowed r)
    (hsync : c.isInitialized = true → (c.syncStatus settings { phase := some .progressing }).run.Asks allowed)
    (settled : Option WorkloadRef) : Operation.Asks allowed (.rolling settled) (c.prepare settings) := by
  have hprepare : Operation.Asks allowed (.rolling settled) (do
      let _ ← c.settledBaseline settled
      if c.isInitializing && !c.spec.skipAnalysis then c.requirePrimaryReady
      if c.isInitialized then c.syncStatus settings { phase := some .progressing } else return c) := by
    refine Keeps.bind (keeps_settledBaseline hlooks c settled) fun _ k₂ _ _ => ?_
    extract_lets moveOn
    have hrest : ∀ k, Operation.Asks allowed k (moveOn ()) := by
      intro k
      show Operation.Asks _ k (ite _ _ _ : Operation Canary)
      split
      · rename_i hinitialized
        exact (keeps_task (hsync hinitialized)).asks
      · exact (keeps_pure _).asks
    split
    · exact Keeps.bind (asks_requirePrimaryReady hlooks c k₂) fun _ k₃ _ _ => hrest k₃
    · exact hrest k₂
  exact hprepare

theorem asks_prepare {settings : Settings} (hlooks : ∀ r : Cluster.Request, r.Looks → allowed r)
    (hscale : MayScale allowed c k (c.preparation k))
    (hsync : k.isRolling = true → (c.syncStatus settings { phase := some .progressing }).run.Asks allowed) :
    Operation.Asks allowed k (c.prepare settings) := by
  refine Keeps.bind keeps_get fun _ k₁ _ hk => ?_
  obtain ⟨rfl, rfl⟩ := hk
  cases k₁ with
  | service => exact (keeps_pure _).asks
  | rolling settled => exact asks_prepare_rolling hlooks (fun _ => hsync rfl) settled
  | deployment | daemonSet | swap =>
    unfold Canary.preparation at hscale
    dsimp only at hscale ⊢
    split
    · rename_i hinitial
      rw [if_pos hinitial] at hscale
      -- both roles are scaled, be it at once or when the baseline is ready
      have hsizes : ∀ {k : Controller} {n : Int32}, MayScale allowed c k [(.canary, 0), (.primary, n)] →
          ∀ k₁, k.Settles k₁ → Operation.Asks allowed k₁ (do
            c.scale .canary 0
            let _ ← c.scale .primary n
            pure c) := by
        intro k n hscale k₁ hsettles
        refine Keeps.bind (hscale (.canary, 0) (by simp) k₁ hsettles) fun _ k₂ hsettles' _ => ?_
        refine Keeps.bind (hscale (.primary, n) (by simp) k₂ (hsettles.trans hsettles')) fun _ _ _ _ => ?_
        exact (keeps_pure _).asks
      split
      · exact Keeps.bind (asks_requirePrimaryReady hlooks c _) fun _ k₁ hsettles _ => hsizes hscale k₁ hsettles
      · exact hsizes hscale _ (.same _)
    · exact (keeps_pure _).asks

theorem asks_finalize (hscale : MayScale allowed c k [(.primary, c.fullSize k)]) :
    Operation.Asks allowed k c.finalize := by
  refine Keeps.bind keeps_get fun _ k₁ _ hk => ?_
  obtain ⟨rfl, rfl⟩ := hk
  exact hscale (.primary, c.fullSize k₁) (by simp) k₁ (.same k₁)

theorem asks_scaleToZero (hscale : MayScale allowed c k (c.retirement k)) :
    Operation.Asks allowed k c.scaleToZero := by
  refine Keeps.bind keeps_get fun _ k₁ _ hk => ?_
  obtain ⟨rfl, rfl⟩ := hk
  cases k₁ with
  | service | rolling => exact (keeps_pure _).asks
  | deployment | daemonSet | swap => exact hscale _ (List.mem_cons_self ..) _ (.same _)

theorem asks_scaleFromZero (hscale : MayScale allowed c k (c.firstSize k)) :
    Operation.Asks allowed k c.scaleFromZero := by
  refine Keeps.bind keeps_get fun _ k₁ _ hk => ?_
  obtain ⟨rfl, rfl⟩ := hk
  cases k₁ with
  | service | rolling | swap => exact (keeps_pure _).asks
  | deployment | daemonSet => exact hscale _ (List.mem_cons_self ..) _ (.same _)

end Scaling

end Operation

/-! ## Coordinated work -/

namespace Coordinated

/-- What the coordinator asks of the controller are some scalings. -/
def Scales (scalings : List (Role × Int32)) : Coordination.Request → Prop
  | .scale role replicas => (role, replicas) ∈ scalings
  | _ => True

variable {scalings : List (Role × Int32)}

theorem scaleAll_asks (c : Canary) : ∀ {steps : List (Role × Int32)}, (∀ step ∈ steps, step ∈ scalings) →
    (scaleAll c steps).run.Asks (Scales scalings)
  | [], _ => trivial
  | (role, replicas) :: rest, h => by
    have hscale : (scale c role replicas).run.Asks (Scales scalings) := by
      refine ⟨h _ (List.mem_cons_self ..), fun reply => ?_⟩
      rcases reply with source | u
      · refine ⟨trivial, fun located => ?_⟩
        cases located <;> trivial
      · trivial
    refine Asks.bind hscale fun r => ?_
    cases r with
    | error e => trivial
    | ok u => exact scaleAll_asks c fun step hs => h step (List.mem_cons_of_mem _ hs)

theorem setRoutes_asks (c : Canary) (w : RouteWeights) : (setRoutes c w).run.Asks (Scales (plan c w).2) := by
  rw [setRoutes_eq]
  refine Asks.bind ⟨trivial, fun _ => trivial⟩ fun r => ?_
  cases r with
  | error e => trivial
  | ok u => exact scaleAll_asks c fun _ h => h

/-- What may be asked of a controller and the router. -/
def MayAsk (allowed : Cluster.Request → Prop) (c : Canary) (k : Controller) : Coordination.Request → Prop
  | .reconcile => allowed (.reconcileRoutes c)
  | .setRoutes weights => allowed (.setRoutes c weights)
  | .scale role replicas => ∀ k₁, k.Settles k₁ → Operation.Asks allowed k₁ (c.scale role replicas)
  | _ => True

/-- A controller and the router ask only what is allowed, if no more is asked of them than may be. -/
theorem within_of_mayAsk {α : Type} {allowed : Cluster.Request → Prop} {c : Canary} {k : Controller}
    (hlooks : ∀ r : Cluster.Request, r.Looks → allowed r) :
    ∀ {p : Program Coordination.interface α} {k₁ : Controller}, p.Asks (MayAsk allowed c k) → k.Settles k₁ →
      ((p.run c.coordination).run k₁).Within allowed fun r : α × Controller => k.Settles r.2
  | .done a, k₁, _, h => h
  | .ask r next, k₁, hasks, h => by
    have hhandled : ((c.coordination r).run k₁).Within allowed fun r => k₁.Settles r.2 := by
      cases r with
      | reconcile | setRoutes => exact ⟨hasks.1, fun _ => .same k₁⟩
      | getRoutes => exact ⟨hlooks _ rfl, fun _ => .same k₁⟩
      | scale role replicas => exact Within.mono (hasks.1 k₁ h) (fun _ h => h) fun _ h => h.1
      | locate role => exact Within.mono (Operation.keeps_workloadFor hlooks c k₁ role) (fun _ h => h) fun _ h => h.1
    exact Within.bind hhandled fun reply hsettles => within_of_mayAsk hlooks (hasks.2 reply.1) (h.trans hsettles)

end Coordinated

/-! ## Steps -/

namespace ControllerStep

/-- What a step scales, of the roles of a canary. -/
def scalings (c : Canary) (k : Controller) : ControllerStep → List (Role × Int32)
  | .prepare => c.preparation k
  | .scaleToZero => c.retirement k
  | .scaleFromZero => c.firstSize k
  | .finalize => [(.primary, c.fullSize k)]
  | .scale role replicas => [(role, replicas)]
  | .setRoutes weights => (Coordinated.plan c weights).2
  | _ => []

/-- The work of a step on a canary, up to the controller that it leaves. -/
def work (settings : Settings) (c : Canary) (k : Controller) : ControllerStep → Program Cluster.interface Controller
  | .name => done k
  | .prepare => operated (c.prepare settings)
  | .requirePrimaryReady => operated c.requirePrimaryReady
  | .targetVerdict => operated c.targetVerdict
  | .scaleToZero => operated c.scaleToZero
  | .scaleFromZero => operated c.scaleFromZero
  | .metadata => operated (c.targetMetadata settings)
  | .targetChanged => operated c.targetChanged
  | .dependenciesChanged => operated c.dependenciesChanged
  | .targetHash => operated (liftM c.targetHash)
  | .finalize => operated c.finalize
  | .promote => ((Rollout.promote settings).run.run c).bind fun _ => done k
  | .syncStatus delta => (c.syncStatus settings delta).run.bind fun _ => done k
  | .writeStatus delta => (c.updateStatus settings delta).run.bind fun _ => done k
  | .locate role => operated (c.workloadFor role)
  | .scale role replicas => operated (c.scale role replicas)
  | .reconcile => coordinated Coordinated.reconcile
  | .setRoutes weights => coordinated (Coordinated.setRoutes c weights)
  | .getRoutes => coordinated Coordinated.getRoutes
  | .finalizeRoutes => done k
where
  operated {α : Type} (operation : Operation α) : Program Cluster.interface Controller :=
    (operation.run.run k).bind fun r => done r.2
  coordinated {α : Type} (work : Coordinated α) : Program Cluster.interface Controller :=
    ((c.coordinate work).run.run k).bind fun r => done r.2

/-- Whether a step writes the status of its canary. -/
def records (k : Controller) : ControllerStep → Bool
  | .prepare => k.isRolling
  | .promote | .syncStatus _ | .writeStatus _ => true
  | _ => false

/-- Whether a step splits the traffic. -/
def splits : ControllerStep → Bool
  | .reconcile | .setRoutes _ => true
  | _ => false

section Work

variable {allowed : Cluster.Request → Prop} {settings : Settings} {c : Canary} {k : Controller} {step : ControllerStep}

theorem work_operated {α : Type} {x : Operation α} (h : Operation.Asks allowed k x) :
    (work.operated k x).Within allowed k.Settles :=
  Within.bind h fun _ hr => hr.1

/-- A step looks, takes its scalings, and updates the status or splits the traffic of its canary if it records or
splits; it settles no more than the baseline. -/
theorem work_within (hlooks : ∀ r : Cluster.Request, r.Looks → allowed r)
    (hscale : Operation.MayScale allowed c k (step.scalings c k))
    (hrecords : step.records k = true → ∀ r : Cluster.Request, r.Updates → allowed r)
    (hsplits : step.splits = true → allowed (.reconcileRoutes c) ∧ ∀ weights, allowed (.setRoutes c weights)) :
    (step.work settings c k).Within allowed k.Settles := by
  have hcoordinated : ∀ {α : Type} {x : Coordinated α}, x.run.Asks (Coordinated.MayAsk allowed c k) →
      (work.coordinated c k x).Within allowed k.Settles := fun h =>
    Within.bind (Coordinated.within_of_mayAsk hlooks h (.same k)) fun _ hr => hr
  have htask : ∀ {β : Type} {p : Program Cluster.interface β}, p.Asks allowed →
      (p.bind fun _ => done k).Within allowed k.Settles := fun h =>
    Within.bind h.within fun _ _ => .same k
  cases step with
  | name | finalizeRoutes => exact .same k
  | prepare =>
    exact work_operated (Operation.asks_prepare hlooks hscale fun hk =>
      syncStatus_asks_of hlooks (hrecords hk) c settings _)
  | requirePrimaryReady => exact work_operated (Operation.asks_requirePrimaryReady hlooks c k)
  | targetVerdict => exact work_operated (Operation.asks_targetVerdict hlooks c k)
  | scaleToZero => exact work_operated (Operation.asks_scaleToZero hscale)
  | scaleFromZero => exact work_operated (Operation.asks_scaleFromZero hscale)
  | metadata => exact work_operated (Operation.asks_targetMetadata hlooks c settings k)
  | targetChanged => exact work_operated (Operation.asks_targetChanged hlooks c k)
  | dependenciesChanged => exact work_operated (Operation.asks_dependenciesChanged hlooks c k)
  | targetHash => exact work_operated (Operation.keeps_looks hlooks (targetHash_asks c)).asks
  | finalize => exact work_operated (Operation.asks_finalize hscale)
  | promote => exact htask ((promote_updates settings c).mono (hrecords rfl))
  | syncStatus delta => exact htask (syncStatus_asks_of hlooks (hrecords rfl) c settings delta)
  | writeStatus delta => exact htask ((updateAttempts_updates ..).mono (hrecords rfl))
  | locate role => exact work_operated (Operation.keeps_workloadFor hlooks c k role).asks
  | scale role replicas => exact work_operated (hscale (role, replicas) (List.mem_singleton_self _) k (.same k))
  | reconcile => exact hcoordinated ⟨(hsplits rfl).1, fun _ => trivial⟩
  | getRoutes => exact hcoordinated ⟨trivial, fun _ => trivial⟩
  | setRoutes weights =>
    refine hcoordinated ((Coordinated.setRoutes_asks c weights).mono fun r hr => ?_)
    cases r with
    | reconcile => exact (hsplits rfl).1
    | setRoutes weights => exact (hsplits rfl).2 weights
    | scale role replicas => exact hscale (role, replicas) hr
    | getRoutes | locate => trivial

end Work

/-- A step reads and takes its scalings, whatever it is answered, and settles no more than the
baseline. -/
theorem work_takes (settings : Settings) (c : Canary) (k : Controller) (step : ControllerStep) :
    (step.work settings c k).Within (Cluster.Request.Takes c k (step.scalings c k)) k.Settles :=
  work_within (fun _ h => .inl h.reads) (Operation.mayScale_takes c k _) (fun _ _ h => .inl h.reads) fun _ =>
    ⟨.inl rfl, fun _ => .inl rfl⟩

/-! ### Steps of a session -/

section Session

variable {α : Type} {s : Session} {k : Controller}

/-- A session is left with the controller and the world that a run of work ends with. -/
def Leaves (s : Session) (work : Program Cluster.interface Controller) (s' : Session) : Prop :=
  s'.controller = some ((work.run s.backend.answer).run s.world).1 ∧
    s'.world = ((work.run s.backend.answer).run s.world).2

theorem leaves_operated (outcome : α → Outcome) (x : Operation α) :
    Leaves s (work.operated k x) (Session.takeControllerStep.operated k outcome x s).2 := by
  unfold Leaves work.operated
  rw [run_bind_done]
  exact ⟨rfl, rfl⟩

theorem leaves_coordinated (outcome : α → Outcome) (x : Coordinated α) :
    Leaves s (work.coordinated s.canary k x) (Session.takeControllerStep.coordinated k outcome x s).2 := by
  unfold Leaves work.coordinated
  rw [run_bind_done]
  exact ⟨rfl, rfl⟩

theorem leaves_prepare : Leaves s (work.operated k (s.canary.prepare s.settings))
    (Session.takeControllerStep k .prepare s).2 := by
  unfold Leaves work.operated
  rw [run_bind_done]
  rcases hrun : (((s.canary.prepare s.settings).run.run k).run s.backend.answer).run s.world with ⟨⟨r, k'⟩, w⟩
  rw [hrun, Session.prepare_eq hrun]
  exact ⟨rfl, rfl⟩

/-- Work on the status keeps the controller. -/
theorem leaves_refresh (hk : s.controller = some k) (t : Task Canary) :
    Leaves s (t.run.bind fun _ => done k) (Session.refresh t s).2 := by
  unfold Leaves
  rw [run_bind_done]
  rcases hrun : (t.run.run s.backend.answer).run s.world with ⟨r, w⟩
  rw [hrun, Session.refresh_eq hrun]
  exact ⟨hk, rfl⟩

/-- A session's step leaves the controller and the world of its work. -/
theorem leaves_takeControllerStep (hk : s.controller = some k) (step : ControllerStep) :
    Leaves s (step.work s.settings s.canary k) (Session.takeControllerStep k step s).2 := by
  cases step with
  | name | finalizeRoutes => exact ⟨hk, rfl⟩
  | prepare => exact leaves_prepare
  | requirePrimaryReady | targetVerdict | scaleToZero | scaleFromZero | metadata | targetChanged
  | dependenciesChanged | targetHash | finalize | locate | scale => exact leaves_operated ..
  | setRoutes => exact leaves_coordinated ..
  | reconcile => exact leaves_coordinated (fun _ => .done) Coordinated.reconcile
  | getRoutes => exact leaves_coordinated .weights Coordinated.getRoutes
  | syncStatus delta => exact leaves_refresh hk (s.canary.syncStatus s.settings delta)
  | writeStatus delta => exact leaves_refresh hk (s.canary.updateStatus s.settings delta)
  | promote =>
    unfold Leaves work
    rw [run_bind_done]
    exact ⟨hk, rfl⟩

end Session

end ControllerStep

end Rollout
