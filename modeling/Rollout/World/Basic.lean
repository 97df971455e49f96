/-
A world to run controllers in: stored objects, a clock, a tracker that follows a script, faults
that strike when they are called for, and the record of all that was asked.
-/
import Rollout.Api.Request
import Rollout.Canary.Codec
import Rollout.World.Store

namespace Rollout

/-! ## Faults -/

/-- What a fault does to the request it strikes. -/
inductive FaultEffect where
  /-- The request fails with an API error of this code. -/
  | status (code : Nat)
  /-- The request fails in a way that has a name. -/
  | named (name : String)
  /-- Another writer changes the stored canary's status first. -/
  | race (status : Json)
deriving Repr, Inhabited

/-- A fault: the operation it strikes, the end of the name it is limited to, what it does, and how
often it strikes, if not always. -/
structure Fault where
  operation : String
  nameEnd : Option String
  effect : FaultEffect
  times : Option Int
deriving Repr, Inhabited

/-- Whether a text ends with another. -/
def endsWith (text suffix : String) : Bool :=
  TrackerError.startsWith suffix.toList.reverse text.toList.reverse

/-- Whether a fault strikes an operation on a name. -/
def Fault.strikes (f : Fault) (operation name : String) : Bool :=
  f.operation == operation &&
    (match f.nameEnd with
      | some suffix => endsWith name suffix
      | none => true) &&
    (match f.times with
      | some n => decide (0 < n)
      | none => true)

/-- The first fault that strikes, and the faults as they are left. -/
def Fault.take (operation name : String) : List Fault → Option FaultEffect × List Fault
  | [] => (none, [])
  | f :: rest =>
    if f.strikes operation name then
      (some f.effect, { f with times := f.times.map (· - 1) } :: rest)
    else
      let (effect, rest) := take operation name rest
      (effect, f :: rest)

/-! ## The tracker's script -/

/-- What the tracker answers. -/
inductive TrackerScript where
  /-- It is not used, and not asked. -/
  | absent
  | failing (error : TrackerError)
  | answering (refs : List ConfigRef) (changed : Bool)
deriving Repr, Inhabited

/-! ## The world -/

/-- What was asked: by a controller, or as a request to the API. -/
inductive Asked where
  | ofCluster (r : Cluster.Request)
  | ofApi (r : Api.Request)
deriving Repr, Inhabited

/-- A world. `asked` lists what was asked, the last first; `weights` is the split of a router
that is part of the world, and `kinds` are the kinds that the server lists. -/
structure World where
  store : Store := {}
  now : Instant
  tracker : TrackerScript := .absent
  faults : List Fault := []
  asked : List Asked := []
  weights : RouteWeights := .primaryOnly
  kinds : List Api.Resource := []
deriving Repr, Inhabited

namespace World

/-- Notes what is asked. -/
def note (a : Asked) : StateM World Unit := modify fun w => { w with asked := a :: w.asked }

/-- The effect of the first fault that strikes. -/
def fault (operation name : String) : StateM World (Option FaultEffect) := fun w =>
  let (effect, faults) := Fault.take operation name w.faults
  (effect, { w with faults })

/-- The stored object with an identity. -/
def find? (ref : WorkloadRef) : StateM World (Option Json) := fun w => (w.store.get? ref, w)

/-- Stores an object under an identity. -/
def put (ref : WorkloadRef) (object : Json) : StateM World Unit :=
  modify fun w => { w with store := w.store.put ref object }

/-- The configuration that the tracker's script lists. -/
def configRefs (note : StateM World Unit) :
    StateM World (Except TrackerError (List ConfigRef)) := do
  match (← get).tracker with
  | .absent => return .ok []
  | .failing e => note; return .error e
  | .answering refs _ => note; return .ok refs

/-- Whether the tracker's script says that the configuration has changed. -/
def configChanged (note : StateM World Unit) : StateM World (Except TrackerError Bool) := do
  match (← get).tracker with
  | .absent => return .ok false
  | .failing e => note; return .error e
  | .answering _ changed => note; return .ok changed

end World

end Rollout
