/-
The steps of a session: changes to the world around the controller, the operations of the
controller, and the traffic that goes with them. A step has one outcome or fails, and what it asked
is left in the world's record.
-/
import Rollout.Session.Basic

namespace Rollout

/-! ## Steps -/

/-- A change to the world, or a look at it. An object that is not named is the stored canary. -/
inductive WorldStep where
  /-- Stores an object under an identity. -/
  | put (ref : WorkloadRef) (object : Json)
  | delete (ref : Option WorkloadRef)
  /-- Merges a patch into a stored object. -/
  | edit (ref : Option WorkloadRef) (patch : Json)
  | look (ref : Option WorkloadRef)
  /-- Merges a patch into the session's canary. -/
  | editCanary (patch : Json)
  | addFault (fault : Fault)
  | clearFaults
  | setTracker (tracker : TrackerScript)
  | advance (seconds : Int)
deriving Repr, Inhabited

/-- Work that needs no controller. -/
inductive FreeStep where
  | construct (construction : Session.Construction)
  | resolveSource
  | updateStatus (delta : StatusDelta)
  | reconcileRoutes
  | setRoutes (weights : RouteWeights)
  | getRoutes
  | finalizeRoutes
deriving Repr, Inhabited

/-- Work of the controller. -/
inductive ControllerStep where
  | name
  | prepare
  | requirePrimaryReady
  | targetVerdict
  | scaleToZero
  | scaleFromZero
  | metadata
  | targetChanged
  | dependenciesChanged
  | targetHash
  | finalize
  | promote
  | syncStatus (delta : StatusDelta)
  | writeStatus (delta : StatusDelta)
  | locate (role : Role)
  | scale (role : Role) (replicas : Int32)
  | reconcile
  | setRoutes (weights : RouteWeights)
  | getRoutes
  | finalizeRoutes
deriving Repr, Inhabited

/-! ## Outcomes -/

/-- What a step answers. -/
inductive Outcome where
  | done
  | flag (value : Bool)
  | hash (value : Option String)
  | controller (made : Controller)
  | workload (ref : Option WorkloadRef)
  | verdict (verdict : Verdict)
  | metadata (metadata : WorkloadMetadata)
  | weights (weights : RouteWeights)
  | object (json : Option Json)
  | time (now : Instant)
deriving Repr, Inhabited

/-- Why a step has no outcome. -/
inductive StepFailure where
  | controller (error : ControllerError)
  | router (error : RouterError)
  /-- There is no controller to do it. -/
  | noController
  /-- The object is not stored. -/
  | noObject
  /-- The session's canary would not be one any more. -/
  | invalidCanary
  /-- The program stopped. -/
  | crashed (cause : Crash)
deriving Repr, Inhabited

/-! ## Taking steps -/

/-- A step being taken. -/
abbrev StepRun := StateM Session (Except StepFailure Outcome)

/-- What becomes of a step whose work has a result. -/
def conclude {ε α : Type} (failure : ε → StepFailure) (outcome : α → Outcome) :
    Except ε α → Except StepFailure Outcome
  | .ok a => .ok (outcome a)
  | .error e => .error (failure e)

namespace Session

/-- The identity that a step is about. -/
def concerned (s : Session) (ref : Option WorkloadRef) : WorkloadRef :=
  ref.getD (Api.canaryAt s.canary.ns s.canary.name).ref

/-- Changes the world. -/
def inWorld {α : Type} (act : StateM World α) : StateM Session α := fun s =>
  let (result, world) := act.run s.world
  (result, { s with world })

/-- Takes a step in the world. Nothing is asked. -/
def takeWorldStep : WorldStep → StepRun
  | .put ref object => do
    inWorld (World.put ref object)
    return .ok .done
  | .delete ref => do
    let ref := (← get).concerned ref
    let found ← inWorld (World.find? ref)
    inWorld (modify fun w => { w with store := w.store.delete ref })
    return .ok (.flag found.isSome)
  | .edit ref patch => do
    let ref := (← get).concerned ref
    match ← inWorld (World.find? ref) with
    | none => return .error .noObject
    | some object =>
      inWorld (World.put ref (patch.merge object))
      return .ok .done
  | .look ref => do
    return .ok (.object (← inWorld (World.find? ((← get).concerned ref))))
  | .editCanary patch => do
    match Canary.ofJson? (patch.merge (← get).canary.toJson) with
    | none => return .error .invalidCanary
    | some canary =>
      modify fun s => { s with canary }
      return .ok .done
  | .addFault fault => do
    inWorld (modify fun w => { w with faults := w.faults ++ [fault] })
    return .ok .done
  | .clearFaults => do
    inWorld (modify fun w => { w with faults := [] })
    return .ok .done
  | .setTracker tracker => do
    inWorld (modify fun w => { w with tracker })
    return .ok .done
  | .advance seconds => do
    match (← get).world.now.plus? seconds with
    | none => return .error (.crashed .calendar)
    | some now =>
      inWorld (modify fun w => { w with now })
      return .ok (.time now)

/-- Takes a step that needs no controller. -/
def takeFreeStep (step : FreeStep) : StepRun := do
  let c := (← get).canary
  match step with
  | .construct construction =>
    return conclude .controller .controller (← construct construction)
  | .resolveSource =>
    return conclude .controller (fun o => .workload (WorkloadRef.of? o))
      (← perform c.resolveSource.run)
  | .updateStatus delta =>
    return conclude .controller (fun _ => .done)
      (← refresh (c.updateStatus (← get).settings delta))
  | .reconcileRoutes => routed (fun _ => .done) (request (.reconcileRoutes c))
  | .setRoutes weights => routed (fun _ => .done) (request (.setRoutes c weights))
  | .getRoutes => routed .weights (request (.getRoutes c))
  | .finalizeRoutes => routed (fun _ => .done) (request (.finalizeRoutes c))
where
  request (r : Cluster.Request) : Program Cluster.interface (Cluster.Reply r) :=
    Program.request (I := Cluster.interface) r
  routed {α : Type} (outcome : α → Outcome)
      (work : Program Cluster.interface (Except RouterError α)) : StepRun := do
    return conclude .router outcome (← perform work)

/-- Takes a step of the controller. -/
def takeControllerStep (controller : Controller) (step : ControllerStep) : StepRun := do
  let c := (← get).canary
  let settings := (← get).settings
  match step with
  | .name => return .ok (.controller controller)
  | .prepare =>
    match ← operate controller (c.prepare settings) with
    | .error e => return .error (.controller e)
    | .ok canary =>
      modify fun s => { s with canary }
      return .ok .done
  | .requirePrimaryReady => operated (fun _ => .done) c.requirePrimaryReady
  | .targetVerdict => operated .verdict c.targetVerdict
  | .scaleToZero => operated (fun _ => .done) c.scaleToZero
  | .scaleFromZero => operated (fun _ => .done) c.scaleFromZero
  | .metadata => operated .metadata (c.targetMetadata settings)
  | .targetChanged => operated .flag c.targetChanged
  | .dependenciesChanged => operated .flag c.dependenciesChanged
  | .targetHash => operated .hash (liftM c.targetHash)
  | .finalize => operated (fun _ => .done) c.finalize
  | .promote =>
    let (result, canary) ← perform ((promote settings).run.run c)
    modify fun s => { s with canary }
    return conclude .controller (fun _ => .done) result
  | .syncStatus delta =>
    return conclude .controller (fun _ => .done) (← refresh (c.syncStatus settings delta))
  | .writeStatus delta =>
    return conclude .controller (fun _ => .done) (← refresh (c.updateStatus settings delta))
  | .locate role => operated (fun ref => .workload (some ref)) (c.workloadFor role)
  | .scale role replicas => operated (fun _ => .done) (c.scale role replicas)
  | .reconcile => coordinated (fun _ => .done) Coordinated.reconcile
  | .setRoutes weights => coordinated (fun _ => .done) (Coordinated.setRoutes c weights)
  | .getRoutes => coordinated .weights Coordinated.getRoutes
  | .finalizeRoutes => return .ok .done
where
  operated {α : Type} (outcome : α → Outcome) (operation : Operation α) : StepRun := do
    return conclude .controller outcome (← operate controller operation)
  coordinated {α : Type} (outcome : α → Outcome) (work : Coordinated α) : StepRun := do
    return conclude .router outcome (← coordinate controller work)

end Session

end Rollout
