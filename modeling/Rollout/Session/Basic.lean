/-
A session with a world: a controller at work on one canary, whose requests the world carries out
either at once or through its API. The canary is the session's own copy; the stored one may have
moved on.
-/
import Rollout.Controller.Progress
import Rollout.Routing.Coordinator
import Rollout.World.Direct
import Rollout.World.Server

namespace Rollout

/-- How the world carries out the requests of controllers. -/
inductive Backend where
  /-- At once, on the stored objects. -/
  | direct
  /-- Through requests to the API server. -/
  | api
deriving DecidableEq, Repr, Inhabited

/-- Carries out a request in the way of a backend. -/
def Backend.answer : Backend → (r : Cluster.Request) → StateM World (Cluster.Reply r)
  | .direct, r => World.answer r
  | .api, r => World.answerThroughApi r

/-- A session. There is no controller where none could be made. -/
structure Session where
  world : World
  backend : Backend
  settings : Settings
  canary : Canary
  controller : Option Controller := none
deriving Repr, Inhabited

namespace Session

/-! ## Running programs -/

/-- Runs a program on the world. -/
def perform {α : Type} (program : Program Cluster.interface α) : StateM Session α := fun s =>
  let (result, world) := (program.run s.backend.answer).run s.world
  (result, { s with world })

/-- Runs an operation of a controller, which the session keeps as the operation leaves it. -/
def operate {α : Type} (controller : Controller) (operation : Operation α) :
    StateM Session (Except ControllerError α) := do
  let (result, controller) ← perform (operation.run.run controller)
  modify fun s => { s with controller := some controller }
  return result

/-- Runs coordinated work on the session's canary. -/
def coordinate {α : Type} (controller : Controller) (work : Coordinated α) :
    StateM Session (Except RouterError α) := do
  let (result, controller) ← perform (((← get).canary.coordinate work).run.run controller)
  modify fun s => { s with controller := some controller }
  return result

/-- Runs work that answers the canary as it is stored, which takes the place of the session's. -/
def refresh (work : Task Canary) : StateM Session (Except ControllerError Unit) := do
  match ← perform work.run with
  | .error e => return .error e
  | .ok canary =>
    modify fun s => { s with canary }
    return .ok ()

/-! ## The controller -/

/-- How a controller is made: as the canary asks for, or one of a given shape. -/
inductive Construction where
  | asAsked
  | deployment
  | daemonSet
  | service
  | rolling
  | swap
deriving DecidableEq, Repr, Inhabited

/-- The controller that a construction makes for a canary. -/
def Construction.make (c : Canary) : Construction → Task Controller
  | .asAsked => Controller.select c
  | .deployment => pure .deployment
  | .daemonSet => pure .daemonSet
  | .service => pure .service
  | .rolling => pure (.rolling none)
  | .swap => Controller.swapFor c

/-- Makes the session's controller anew. A failure leaves the session without one. -/
def construct (construction : Construction) :
    StateM Session (Except ControllerError Controller) := do
  let result ← perform (construction.make (← get).canary).run
  modify fun s => { s with controller := result.toOption }
  return result

end Session

end Rollout
