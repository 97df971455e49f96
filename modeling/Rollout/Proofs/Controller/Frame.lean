/-
What controllers leave alone. A step may write the sizes of the workloads that it scales, the status of its canary and
the rules of its route (`ControllerStep.Writes`); whatever it is answered, it asks for no other place to be written
(`ControllerStep.writes_of_trace`). Main statement: `nothing_else_written`, through the server of an orderly world, any
of whose requests may fail, steps on canaries whose references are plain leave all else as it was, and steps that only
inspect leave everything.
-/
import Rollout.Proofs.Api.Frame
import Rollout.Proofs.Controller.Errands
import Rollout.Proofs.Routing.Repair

namespace Rollout

open Program

/-! ## What a step may write -/

namespace ControllerStep

/-- The places that a step on a canary may write, each in the object under a reference: the size of a workload that it
scales, the status of the canary, and the rules of its route. -/
inductive Writes (c : Canary) (k : Controller) (step : ControllerStep) : WorkloadRef → List String → Prop
  | replicas {role : Role} {count : Int32} {ref : WorkloadRef} : k ≠ .service → k ≠ .daemonSet →
      (role, count) ∈ step.scalings c k → k.workload? c role = some ref → Writes c k step ref ["spec", "replicas"]
  | parking {role : Role} {count : Int32} {ref : WorkloadRef} : k = .daemonSet →
      (role, count) ∈ step.scalings c k → k.workload? c role = some ref →
      Writes c k step ref (WorkloadChange.selectorPath ++ [WorkloadChange.parkingKey])
  | status : step.records k = true → Writes c k step (Api.canaryAt c.ns c.name).ref ["status"]
  | rules {ns : String} : step.splits = true → c.targetNamespace? = some ns →
      Writes c k step (Api.routeAt c ns).ref ["spec", "rules"]

/-- A step that looks at the rollout and changes nothing. -/
def inspects : ControllerStep → Bool
  | .name | .requirePrimaryReady | .targetVerdict | .metadata | .targetChanged | .dependenciesChanged | .targetHash
  | .locate _ | .getRoutes | .finalizeRoutes => true
  | _ => false

variable {c : Canary} {k k' : Controller} {step : ControllerStep} {spot ref : WorkloadRef} {place : List String}

/-- What a step may write it may write as well once the baseline has been settled. -/
theorem Writes.settles (h : step.Writes c k spot place) (hk : k.Settles k') : step.Writes c k' spot place := by
  cases h with
  | replicas hservice hdaemonSet hscaling href =>
    refine .replicas (hk.ne_service hservice) ?_ (hk.scalings c step ▸ hscaling) (hk.workload? href)
    cases hk with
    | same => exact hdaemonSet
    | settled => exact fun h => by cases h
  | parking hdaemonSet hscaling href =>
    subst hdaemonSet
    cases hk
    exact .parking rfl hscaling href
  | status hrecords =>
    refine .status ?_
    cases hk with
    | same => exact hrecords
    | settled => cases step <;> first | rfl | cases hrecords
  | rules hsplits hns => exact .rules hsplits hns

theorem Writes.inContent (h : step.Writes c k spot place) : Store.InContent place := by
  cases h with
  | replicas | parking | rules => exact ⟨_, .inl rfl⟩
  | status => exact ⟨_, .inr rfl⟩

/-- A scaling that is due writes the size of its workload. -/
theorem writes_of_sizing {role : Role} {count : Int32} (hk : k ≠ .service)
    (hscaling : (role, count) ∈ step.scalings c k) (href : k.workload? c role = some ref)
    (h : (k.sizing ref count).Writes spot place) : step.Writes c k spot place := by
  cases k with
  | service => exact absurd rfl hk
  | daemonSet =>
    obtain ⟨rfl, rfl⟩ := h
    exact .parking rfl hscaling href
  | deployment | rolling | swap =>
    obtain ⟨rfl, rfl⟩ := h
    exact .replicas hk (fun h => by cases h) hscaling href

end ControllerStep

/-! ## What a step asks for -/

/-- Whether a request is one that the step may make: it scales unless its controller only routes, it updates a status
if it records, and it splits the traffic of its own canary. -/
def Cluster.Request.Owned (c : Canary) (k : Controller) (step : ControllerStep) : Cluster.Request → Prop
  | .change _ _ | .scale _ _ => k ≠ .service
  | .writeStatus _ _ => step.records k = true
  | .setRoutes c' _ | .reconcileRoutes c' => step.splits = true ∧ c' = c
  | _ => True

theorem ControllerStep.work_owned (settings : Settings) (c : Canary) (k : Controller) (step : ControllerStep) :
    (step.work settings c k).Asks (Cluster.Request.Owned c k step) := by
  have hlooks : ∀ r : Cluster.Request, r.Looks → r.Owned c k step := by
    intro r h
    cases r with
    | change | scale | writeStatus | setRoutes | reconcileRoutes => cases h
    | _ => trivial
  refine (work_within hlooks ?_ ?_ fun hsplits => ⟨⟨hsplits, rfl⟩, fun _ => ⟨hsplits, rfl⟩⟩).asks
  · rintro ⟨role, count⟩ - k₁ hsettles
    by_cases hk : k = .service
    · subst hk
      cases hsettles
      exact Operation.asks_scale_service role count
    · refine Operation.asks_scale hlooks fun _ ref _ _ => ?_
      cases k₁ <;> exact hk
  · intro hrecords r h
    cases r with
    | writeStatus => exact hrecords
    | change | scale | setRoutes | reconcileRoutes => exact h.elim
    | _ => trivial

/-! ### Statuses -/

section Statuses

variable {α β : Type} {allowed : Cluster.Request → Prop} (c : Canary)

/-- Before a status is written, the canary that it is written onto has been read. -/
def Canary.Reread (p : Program Cluster.interface α) : Prop :=
  ∀ log fresh status next, After p log (.ask (.writeStatus fresh status) next) →
    ⟨.canary c.ns c.name, .ok fresh⟩ ∈ log

variable {c} in
theorem Canary.Reread.bind {p : Program Cluster.interface α} {f : α → Program Cluster.interface β} (hp : c.Reread p)
    (hf : ∀ a, c.Reread (f a)) : c.Reread (p.bind f) := by
  intro log fresh status next h
  rcases after_bind_iff.1 h with ⟨left, hleft, hask⟩ | ⟨l₁, l₂, a, rfl, -, hsecond⟩
  · cases left with
    | done a => exact absurd (hf a [] fresh status next (hask ▸ .nil _)) (List.not_mem_nil)
    | ask r next' =>
      cases hask
      exact hp log fresh status next' hleft
  · exact List.mem_append_right _ (hf a l₂ fresh status next hsecond)

/-- Where no status is written, nothing is to be read before. -/
theorem Canary.reread_of_asks {p : Program Cluster.interface α} (h : p.Asks allowed)
    (hno : ∀ fresh status, ¬ allowed (.writeStatus fresh status)) : c.Reread p := fun _ _ _ _ ha =>
  absurd (h.after ha).1 (hno _ _)

theorem Canary.reread_of_looks {p : Program Cluster.interface α} (h : p.Asks Cluster.Request.Looks) : c.Reread p :=
  c.reread_of_asks h fun _ _ h => by cases h

theorem Canary.reread_done (a : α) : c.Reread (done a) := c.reread_of_looks trivial

theorem Canary.reread_updateStatus (settings : Settings) (delta : StatusDelta) :
    c.Reread (c.updateStatus settings delta).run := by
  intro log fresh status next h
  obtain ⟨before, now, rfl, -⟩ := After.updateStatus_write h
  simp

theorem Canary.reread_syncStatus (settings : Settings) (delta : StatusDelta) :
    c.Reread (c.syncStatus settings delta).run := by
  show c.Reread (Program.bind _ _)
  refine (c.reread_of_looks (completeDelta_asks c delta)).bind fun r => ?_
  cases r with
  | error e => exact c.reread_done _
  | ok delta => exact c.reread_updateStatus settings delta

theorem Canary.reread_promote (settings : Settings) : c.Reread ((promote settings).run.run c) := by
  show c.Reread ((ite _ _ _ : ExceptT ControllerError (StateT Canary (Program Cluster.interface)) Unit).run.run c)
  split
  · exact c.reread_done _
  · show c.Reread (Program.bind (Program.bind _ _) _)
    refine ((c.reread_updateStatus settings _).bind fun _ => c.reread_done _).bind ?_
    rintro ⟨e | recorded, c'⟩
    · exact c.reread_done _
    · have hread : (Task.canary recorded.ns recorded.name).run.Asks Cluster.Request.Looks :=
        Task.asks_bind (Task.asks_ask rfl) fun _ => Task.asks_ofExcept
      show c.Reread (Program.bind (Program.bind _ _) _)
      refine ((c.reread_of_looks hread).bind fun _ => c.reread_done _).bind ?_
      rintro ⟨e | stored, c''⟩ <;> exact c.reread_done _

/-- What a rolling canary does before its status is synced changes nothing. -/
theorem Canary.reread_prepare (settings : Settings) (settled : Option WorkloadRef) :
    c.Reread ((c.prepare settings).run.run (.rolling settled)) := by
  have hbind : ∀ {α : Type} {x : Operation α} {f : α → Operation Canary} {k : Controller},
      Operation.Asks Cluster.Request.Looks k x → (∀ a k₁, c.Reread ((f a).run.run k₁)) →
        c.Reread ((x >>= f).run.run k) := by
    intro α x f k hx hf
    refine (c.reread_of_looks (Within.asks hx)).bind ?_
    rintro ⟨e | a, k₁⟩
    · exact c.reread_done _
    · exact hf a k₁
  have hprepare : c.Reread ((do
      let _ ← c.settledBaseline settled
      if c.isInitializing && !c.spec.skipAnalysis then c.requirePrimaryReady
      if c.isInitialized then c.syncStatus settings { phase := some .progressing } else return c :
        Operation Canary).run.run (.rolling settled)) := by
    refine hbind (Operation.keeps_settledBaseline (fun _ h => h) c settled).asks fun _ k₁ => ?_
    extract_lets moveOn
    have hmove : ∀ k, c.Reread ((moveOn ()).run.run k) := by
      intro k
      show c.Reread ((ite _ _ _ : Operation Canary).run.run k)
      split
      · show c.Reread (Program.bind _ _)
        exact (c.reread_syncStatus settings _).bind fun _ => c.reread_done _
      · exact c.reread_done _
    split
    · exact hbind (Operation.asks_requirePrimaryReady (fun _ h => h) c k₁) fun _ => hmove
    · exact hmove k₁
  exact hprepare

/-- Before a step writes a status, it has read its canary. -/
theorem ControllerStep.work_reread (settings : Settings) (k : Controller) (step : ControllerStep) :
    c.Reread (step.work settings c k) := by
  by_cases hrecords : step.records k = true
  · have hend : ∀ {β : Type} {p : Program Cluster.interface β}, c.Reread p → ∀ f : β → Controller,
        c.Reread (p.bind fun b => done (f b)) := fun h f => h.bind fun _ => c.reread_done _
    cases step with
    | prepare =>
      cases k with
      | rolling settled => exact hend (c.reread_prepare settings settled) Prod.snd
      | deployment | daemonSet | service | swap => cases hrecords
    | promote => exact hend (c.reread_promote settings) fun _ => k
    | syncStatus delta => exact hend (c.reread_syncStatus settings delta) fun _ => k
    | writeStatus delta => exact hend (c.reread_updateStatus settings delta) fun _ => k
    | _ => cases hrecords
  · exact c.reread_of_asks (work_owned settings c k step) fun _ _ h => hrecords h

end Statuses

/-! ### Workloads -/

section Traces

variable {settings : Settings} {c : Canary} {k k' : Controller} {step : ControllerStep}
  {log : List (Exchange Cluster.interface)}

theorem resolution_looks (c : Canary) : c.resolution.run.Asks Cluster.Request.Looks := by
  refine Task.asks_bind (resolveSource_asks c) fun object => ?_
  unfold baselineRef
  split <;> trivial

/-- What errands change of workloads is sized as the step is to scale them, for the controller that is left. -/
theorem Errands.sized (h : Errands c step k log k') {e : Exchange Cluster.interface} (he : e ∈ log)
    (htouched : e.request.touched?.isSome = true) : ∃ role count ref, (role, count) ∈ step.scalings c k' ∧
      k'.workload? c role = some ref ∧ e.request = k'.sizing ref count := by
  have hlooks : ∀ {x : Exchange Cluster.interface}, x.request.Looks → x.request.touched?.isSome = true → False := by
    intro x hx hx'
    rw [show x.request.touched? = none from hx.reads] at hx'
    cases hx'
  induction h with
  | nil => cases he
  | @cons k k₁ k' _ rest herrand hrest ih =>
    rcases List.mem_append.1 he with hfirst | hlater
    · cases herrand with
      | read | hashed =>
        obtain rfl := List.mem_singleton.1 hfirst
        cases htouched
      | judged _ _ hjudged =>
        exact (hlooks ((Canary.judged_judges c _).of_mem hjudged e hfirst).looks htouched).elim
      | @sized _ role count ref reply hscaling href =>
        obtain rfl := List.mem_singleton.1 hfirst
        have hsettles := hrest.settles
        exact ⟨role, count, ref, by rw [hsettles.scalings]; exact hscaling, hsettles.workload? href,
          (hsettles.sizing ref count).symm⟩
      | aside haside =>
        obtain rfl := List.mem_singleton.1 hfirst
        cases hrequest : e.request <;> rw [hrequest] at htouched haside <;> cases haside <;> cases htouched
      | unresolved hresolution | resolved hresolution =>
        exact (hlooks ((resolution_looks c).of_mem hresolution e hfirst) htouched).elim
    · exact ih hlater

/-- All that a step asks for, once what it was answered before can be trusted, writes no other places than the step may
write with the controller that it leaves. -/
theorem ControllerStep.writes_of_trace {before after : List (Exchange Cluster.interface)}
    {e : Exchange Cluster.interface} (h : Trace (step.work settings c k) (before ++ e :: after) k')
    (htrusted : ∀ x ∈ before, Cluster.Answers x.request x.reply)
    (hplain : ∀ spot place, step.Writes c k' spot place → Api.IsPlainRef spot) {spot : WorkloadRef}
    {place : List String} (hwrites : e.request.Writes spot place) : step.Writes c k' spot place := by
  have he : e ∈ before ++ e :: after := by simp
  have howned := (step.work_owned settings c k).of_mem h e he
  have herrands := step.work_goesOn settings c k h
  have hsettles := herrands.settles
  -- a workload is written by a scaling only
  have hsized : e.request.touched?.isSome = true → k ≠ .service → step.Writes c k' spot place := by
    intro htouched hk
    obtain ⟨role, count, ref, hscaling, href, hrequest⟩ := herrands.sized he htouched
    rw [hrequest] at hwrites
    exact writes_of_sizing (hsettles.ne_service hk) hscaling href hwrites
  obtain ⟨request, reply⟩ := e
  cases request with
  | change | scale => exact hsized rfl howned
  | writeStatus fresh status =>
    obtain ⟨left, hleft, hnext⟩ := after_append_iff.1 h
    obtain ⟨next, rfl⟩ : ∃ next, left = .ask (.writeStatus fresh status) next := by
      cases hnext
      exact ⟨_, rfl⟩
    have hread := ControllerStep.work_reread c settings k step before fresh status next hleft
    have hstatus : step.Writes c k' (Api.canaryAt c.ns c.name).ref ["status"] := (Writes.status howned).settles hsettles
    obtain ⟨hns, hname⟩ := htrusted _ hread (hplain _ _ hstatus) fresh rfl
    obtain ⟨rfl, rfl⟩ := hwrites
    rw [hns, hname]
    exact hstatus
  | setRoutes | reconcileRoutes =>
    obtain ⟨hsplits, rfl⟩ := howned
    obtain ⟨ns, hns, rfl, rfl⟩ := hwrites
    exact .rules hsplits hns
  | _ => exact hwrites.elim

end Traces

/-! ## Steps through a server -/

section Served

variable {settings : Settings} {word : Nat → String} {c : Canary} {k k' : Controller} {step : ControllerStep}
  {w w' : World}

/-- A step through the server of an orderly world leaves all but what it may write. -/
theorem ControllerStep.spares (h : Faulty (World.fair word) Api.Failed ((step.work settings c k).run Api.carry) w k' w')
    (hw : w.Orderly) (hplain : ∀ spot place, step.Writes c k' spot place → Api.IsPlainRef spot) :
    w'.Orderly ∧ w.Spares (step.Writes c k') w' := by
  have hcarry : ∀ (r : Cluster.Request) (v v' : World) (reply : Cluster.Reply r),
      (∀ spot place, r.Writes spot place → step.Writes c k' spot place) →
      v.Orderly ∧ w.Spares (step.Writes c k') v → Faulty (World.fair word) Api.Failed (Api.carry r) v reply v' →
      (v'.Orderly ∧ w.Spares (step.Writes c k') v') ∧ Cluster.Answers r reply := by
    intro r v v' reply hr hv hfaulty
    have hminding := Api.carry_minding hw r fun spot place hwrites =>
      ⟨hplain spot place (hr spot place hwrites), hr spot place hwrites⟩
    exact World.spares_of_faulty (fun _ _ => Writes.inContent) hminding hfaulty hv
  refine h.of_traces hcarry ⟨hw, World.spares_of_content rfl⟩ ?_
  intro before e after htrace htrusted spot place
  exact writes_of_trace htrace htrusted hplain

theorem ControllerStep.settles_of_faulty
    (h : Faulty (World.fair word) Api.Failed ((step.work settings c k).run Api.carry) w k' w') : k.Settles k' := by
  obtain ⟨log, htrace⟩ := h.exists_trace
  exact ((step.work_takes settings c k).of_trace htrace).2

theorem ControllerStep.work_looks (h : step.inspects = true) (settings : Settings) (c : Canary) (k : Controller) :
    (step.work settings c k).Asks Cluster.Request.Looks := by
  have hnone : step.scalings c k = [] := by cases step <;> first | rfl | cases h
  refine (step.work_within (fun _ h => h) ?_ ?_ ?_).asks
  · rw [hnone]
    intro scaling hmem
    cases hmem
  · intro hrecords
    cases step <;> cases h <;> cases hrecords
  · intro hsplits
    cases step <;> cases h <;> cases hsplits

/-- A step that inspects leaves everything, in any world. -/
theorem ControllerStep.content_of_inspects (hinspects : step.inspects = true)
    (h : Faulty (World.fair word) Api.Failed ((step.work settings c k).run Api.carry) w k' w') :
    w'.content = w.content := by
  have hcarry : ∀ (r : Cluster.Request) (v v' : World) (reply : Cluster.Reply r), r.Looks → v.content = w.content →
      Faulty (World.fair word) Api.Failed (Api.carry r) v reply v' → v'.content = w.content ∧ True := by
    intro r v v' reply hr hv hfaulty
    exact ⟨(World.content_of_faulty (Api.carry_looking hr) hfaulty).trans hv, trivial⟩
  refine h.of_traces hcarry (by rfl) fun before e after htrace _ => ?_
  exact (work_looks hinspects settings c k).of_mem htrace e (by simp)

end Served

/-! ## Runs of steps -/

/-- Steps taken one after another with a controller, each on a canary, through a server any of whose requests may
fail. -/
inductive ServedSteps (settings : Settings) (word : Nat → String) :
    Controller → World → List (Canary × ControllerStep) → Controller → World → Prop
  | nil (k : Controller) (w : World) : ServedSteps settings word k w [] k w
  | cons {k k₁ k' : Controller} {w w₁ w' : World} {c : Canary} {step : ControllerStep}
      {rest : List (Canary × ControllerStep)} :
      Faulty (World.fair word) Api.Failed ((step.work settings c k).run Api.carry) w k₁ w₁ →
      ServedSteps settings word k₁ w₁ rest k' w' → ServedSteps settings word k w ((c, step) :: rest) k' w'

namespace ServedSteps

variable {settings : Settings} {word : Nat → String} {k k' : Controller} {w w' : World}
  {steps : List (Canary × ControllerStep)}

theorem settles (h : ServedSteps settings word k w steps k' w') : k.Settles k' := by
  induction h with
  | nil k => exact .same k
  | cons hfaulty _ ih => exact (ControllerStep.settles_of_faulty hfaulty).trans ih

/-- What some of the steps may write, with the controller that they leave. -/
def Writes (steps : List (Canary × ControllerStep)) (k : Controller) (spot : WorkloadRef) (place : List String) :
    Prop :=
  ∃ taken ∈ steps, taken.2.Writes taken.1 k spot place

theorem spares (h : ServedSteps settings word k w steps k' w') (hw : w.Orderly)
    (hplain : ∀ spot place, Writes steps k' spot place → Api.IsPlainRef spot) :
    w'.Orderly ∧ w.Spares (Writes steps k') w' := by
  induction h with
  | nil => exact ⟨hw, World.spares_of_content rfl⟩
  | @cons k k₁ k' w w₁ w' c step rest hfaulty hrest ih =>
    have hfirst : ∀ spot place, step.Writes c k₁ spot place → Writes ((c, step) :: rest) k' spot place :=
      fun _ _ hwrites => ⟨(c, step), List.mem_cons_self .., hwrites.settles hrest.settles⟩
    have hlater : ∀ spot place, Writes rest k' spot place → Writes ((c, step) :: rest) k' spot place :=
      fun _ _ ⟨taken, hmem, hwrites⟩ => ⟨taken, List.mem_cons_of_mem _ hmem, hwrites⟩
    obtain ⟨hw₁, hspares₁⟩ := step.spares hfaulty hw fun spot place hwrites =>
      hplain spot place (hfirst spot place hwrites)
    obtain ⟨hw', hspares'⟩ := ih hw₁ fun spot place hwrites => hplain spot place (hlater spot place hwrites)
    exact ⟨hw', (hspares₁.mono hfirst).trans (hspares'.mono hlater)⟩

theorem content_eq (h : ServedSteps settings word k w steps k' w')
    (hinspects : ∀ taken ∈ steps, taken.2.inspects = true) : w'.content = w.content := by
  induction h with
  | nil => rfl
  | cons hfaulty _ ih =>
    obtain ⟨hfirst, hlater⟩ := List.forall_mem_cons.1 hinspects
    exact (ih hlater).trans (ControllerStep.content_of_inspects hfirst hfaulty)

/-- A controller that only routes writes to its canary and to its route. -/
theorem Writes.of_service {spot : WorkloadRef} {place : List String} (h : Writes steps .service spot place) :
    ∃ taken ∈ steps, spot = (Api.canaryAt taken.1.ns taken.1.name).ref ∨
      ∃ ns, taken.1.targetNamespace? = some ns ∧ spot = (Api.routeAt taken.1 ns).ref := by
  obtain ⟨taken, hmem, hwrites⟩ := h
  refine ⟨taken, hmem, ?_⟩
  cases hwrites with
  | replicas hservice => exact absurd rfl hservice
  | parking hdaemonSet => cases hdaemonSet
  | status => exact .inl rfl
  | rules _ hns => exact .inr ⟨_, hns, rfl⟩

end ServedSteps

/-- Nothing else is written. Whatever fails, steps on canaries leave the world of a server as it was but for the places
that they may write: the sizes of the workloads that they scale, the statuses of their canaries and the rules of their
routes. Where the server keeps its world in order and the references of these objects are plain, all other objects are
the same, and those hold what they held apart from these places and their versions. With a controller that only routes
all objects are the same but the canaries and their routes. Steps that inspect leave everything, in any world and with
any references. -/
theorem nothing_else_written (settings : Settings) (word : Nat → String) {k k' : Controller} {w w' : World}
    {steps : List (Canary × ControllerStep)} (h : ServedSteps settings word k w steps k' w') :
    (w.Orderly → (∀ spot place, ServedSteps.Writes steps k' spot place → Api.IsPlainRef spot) →
      w'.Orderly ∧ w.Spares (ServedSteps.Writes steps k') w' ∧
      (k' = .service → ∀ ref, (∀ taken ∈ steps, ref ≠ (Api.canaryAt taken.1.ns taken.1.name).ref ∧
          ∀ ns, taken.1.targetNamespace? = some ns → ref ≠ (Api.routeAt taken.1 ns).ref) →
        w'.store.get? ref = w.store.get? ref)) ∧
    ((∀ taken ∈ steps, taken.2.inspects = true) → w'.content = w.content) := by
  refine ⟨fun hw hplain => ?_, h.content_eq⟩
  obtain ⟨hw', hspares⟩ := h.spares hw hplain
  refine ⟨hw', hspares, ?_⟩
  rintro rfl ref hapart
  refine hspares.get?_eq fun place hwrites => ?_
  obtain ⟨taken, hmem, rfl | ⟨ns, hns, rfl⟩⟩ := hwrites.of_service
  · exact (hapart taken hmem).1 rfl
  · exact (hapart taken hmem).2 ns hns rfl

/-! ### A target that cannot be patched at first, and one whose name names another -/

/-- The replica count in a stored object. -/
def countIn (w : World) (ref : WorkloadRef) : Option Int :=
  match (w.store.get? ref).bind (·.path? ["spec", "replicas"]) with
  | some (.int count) => some count
  | _ => none

theorem countIn_congr {w w' : World} (h : w'.content = w.content) (ref : WorkloadRef) :
    countIn w' ref = countIn w ref := by
  unfold countIn
  rw [World.store_eq_of_content h]

/-- A step taken in a world as it is served, with the faults that strike there. -/
def taking (c : Canary) (step : ControllerStep) (w : World) : Controller × World :=
  (((step.work .default c .deployment).run Api.carry).run World.serve).run w

theorem served_taking {c : Canary} (step : ControllerStep) {v w : World} (h : v.content = w.content) :
    ∃ v', Faulty (World.fair fun _ => "") Api.Failed ((step.work .default c .deployment).run Api.carry) v .deployment
      v' ∧ v'.content = (taking c step w).2.content := by
  obtain ⟨v', hfaulty, hcontent⟩ := World.faulty_of_serve ((step.work .default c .deployment).run Api.carry) h
  have hkept : ∀ {k}, Controller.deployment.Settles k → k = .deployment := fun hk => by
    cases hk
    rfl
  rw [hkept (step.settles_of_faulty hfaulty)] at hfaulty
  exact ⟨v', hfaulty, hcontent⟩

theorem orderly_sizedWorld : (sizedWorld []).Orderly where
  plain := by decide +kernel
  listed := by decide +kernel
  ordered := ordered_sizedWorld (by simp)
  named := by
    intro ref j hj
    obtain ⟨before, after, hobjects, -⟩ := List.lookup_eq_some_iff.1 hj
    have hmem : (ref, j) ∈ (sizedWorld []).store.objects := by rw [hobjects]; simp
    have hnamed : ∀ e ∈ (sizedWorld []).store.objects, Store.identity e.2 = e.1 := by decide +kernel
    exact hnamed _ hmem

/-- A target is scaled on the second attempt, for the first patch of it fails: only its replica count has been written.
And looking at it writes nothing. -/
theorem nothing_else_written_retried :
    (∃ w', ServedSteps .default (fun _ => "") .deployment (sizedWorld [])
        [(sizedCanary .progressing 4, .scale .canary 2), (sizedCanary .progressing 4, .scale .canary 2)] .deployment
          w' ∧
      countIn w' (sizedWorkload .canary) = some 2 ∧
      (sizedWorld []).Spares (fun spot place => spot = sizedWorkload .canary ∧ place = ["spec", "replicas"]) w') ∧
    ∃ w', ServedSteps .default (fun _ => "") .deployment (sizedWorld [])
        [(sizedCanary .progressing 4, .targetVerdict)] .deployment w' ∧ w'.content = (sizedWorld []).content := by
  constructor
  · obtain ⟨w₁, hfirst, hcontent₁⟩ := served_taking (c := sizedCanary .progressing 4) (.scale .canary 2)
      (v := sizedWorld []) (w := struckWorld []) rfl
    obtain ⟨w₂, hsecond, hcontent₂⟩ := served_taking (c := sizedCanary .progressing 4) (.scale .canary 2) hcontent₁
    have hrun := ServedSteps.cons hfirst (.cons hsecond (.nil _ _))
    have hwrites : ∀ spot place, ServedSteps.Writes [(sizedCanary .progressing 4, .scale .canary 2),
        (sizedCanary .progressing 4, .scale .canary 2)] .deployment spot place →
          spot = sizedWorkload .canary ∧ place = ["spec", "replicas"] := by
      rintro spot place ⟨taken, hmem, hwrites⟩
      obtain rfl : taken = (sizedCanary .progressing 4, .scale .canary 2) := by simpa using hmem
      cases hwrites with
      | replicas _ _ hscaling href =>
        cases List.mem_singleton.1 hscaling
        rw [workload?_sizedCanary] at href
        exact ⟨(Option.some.inj href).symm, rfl⟩
      | parking hdaemonSet => cases hdaemonSet
      | status hrecords => cases hrecords
      | rules hsplits => cases hsplits
    have hplain : Api.IsPlainRef (sizedWorkload .canary) :=
      ⟨show Api.IsVersion ("apps" ++ "/" ++ "v1") from .ofGroup (by decide) (by decide) (by decide), by decide,
        by decide⟩
    obtain ⟨-, hspares, -⟩ := (nothing_else_written .default (fun _ => "") hrun).1 orderly_sizedWorld
      fun spot place h => (hwrites spot place h).1 ▸ hplain
    refine ⟨w₂, hrun, ?_, hspares.mono hwrites⟩
    rw [countIn_congr hcontent₂]
    decide +kernel
  · obtain ⟨w₁, hfaulty, -⟩ := served_taking (c := sizedCanary .progressing 4) .targetVerdict
      (v := sizedWorld []) (w := sizedWorld []) rfl
    have hrun := ServedSteps.cons hfaulty (.nil _ _)
    exact ⟨w₁, hrun, (nothing_else_written .default (fun _ => "") hrun).2 (by simp [ControllerStep.inspects])⟩

/-- A canary whose target has a name in which a fragment begins. -/
def aimedCanary : Canary where
  metadata := { name := some "podinfo", ns := some "prod" }
  spec := { targetRef := ⟨"apps/v1", "Deployment", "podinfo#2", none⟩, analysis := { maxReplicas := 4 } }

/-- Scaling such a target may write that target only. -/
theorem writes_aimed {spot : WorkloadRef} {place : List String}
    (h : ServedSteps.Writes [(aimedCanary, .scale .canary 5)] .deployment spot place) :
    spot = ⟨"apps/v1", "Deployment", "podinfo#2", "prod"⟩ := by
  obtain ⟨taken, hmem, hwrites⟩ := h
  obtain rfl := List.mem_singleton.1 hmem
  cases hwrites with
  | replicas _ _ hscaling href =>
    cases List.mem_singleton.1 hscaling
    exact (Option.some.inj href).symm
  | parking hdaemonSet => cases hdaemonSet
  | status hrecords => cases hrecords
  | rules hsplits => cases hsplits

/-- A name in which a fragment begins leads to the workload whose name stands before it. -/
theorem written_under_alias :
    ¬ ∀ (settings : Settings) (word : Nat → String) (k k' : Controller) (w w' : World)
      (steps : List (Canary × ControllerStep)), ServedSteps settings word k w steps k' w' →
        w.Orderly → w.Spares (ServedSteps.Writes steps k') w' := by
  intro hclaim
  have hbefore : countIn (sizedWorld []) (sizedWorkload .canary) = some 3 := by decide +kernel
  have hafter : countIn (taking aimedCanary (.scale .canary 5) (sizedWorld [])).2 (sizedWorkload .canary) = some 5 := by
    decide +kernel
  obtain ⟨w', hfaulty, hcontent⟩ := served_taking (c := aimedCanary) (.scale .canary 5) (v := sizedWorld [])
    (w := sizedWorld []) rfl
  have hspares := hclaim _ _ _ _ _ _ _ (.cons hfaulty (.nil _ _)) orderly_sizedWorld
  -- nothing of the workload before the number sign may be written, but its count is another
  have hother : sizedWorkload .canary ≠ ⟨"apps/v1", "Deployment", "podinfo#2", "prod"⟩ := by decide
  have hkept := hspares.get?_eq fun place hwrites => hother (writes_aimed hwrites)
  rw [← countIn_congr hcontent] at hafter
  unfold countIn at hbefore hafter
  rw [hkept, hbefore] at hafter
  cases hafter

end Rollout
