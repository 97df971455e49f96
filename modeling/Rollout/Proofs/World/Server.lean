/-
The API server of a world, as programs find it that ask for objects. It answers without faults of its
own and words the reasons of its refusals in any way (`World.fair`). What it knows of kinds says which
object a path names (`World.named?`); reading changes nothing that counts (`World.content_fair`), and a
patch puts one object (`World.fair_patch`).
-/
import Rollout.Proofs.Faults
import Rollout.Proofs.World.Objects

namespace Rollout

open Program

/-! ## Requests that can fail -/

/-- A failure whose reason, if it has none, is worded by its code. -/
def ApiFailure.worded (word : Nat → String) : ApiFailure → ApiFailure
  | .status code reason => .status code (if reason = "" then word code else reason)
  | .unreadable => .unreadable

namespace Api

/-- A reply, with its failure worded. -/
def reworded (word : Nat → String) : (r : Request) → Reply r → Reply r
  | .kinds _, reply => Except.mapError (ApiFailure.worded word) reply
  | .get _, reply => Except.mapError (ApiFailure.worded word) reply
  | .revisions _ _, reply => Except.mapError (ApiFailure.worded word) reply
  | .patch _ _, reply => Except.mapError (ApiFailure.worded word) reply
  | .configRefs _, reply => reply
  | .configChanged _, reply => reply
  | .now, reply => reply
  | .pause _, reply => reply

/-- A request to the server has failed. -/
def Failed : (r : Request) → Reply r → Prop
  | .kinds _, reply => ∃ failure, reply = .error failure
  | .get _, reply => ∃ failure, reply = .error failure
  | .revisions _ _, reply => ∃ failure, reply = .error failure
  | .patch _ _, reply => ∃ failure, reply = .error failure
  | _, _ => False

/-- A request that looks up kinds or an object. -/
def Request.Looks : Request → Prop
  | .kinds _ => True
  | .get _ => True
  | _ => False

end Api

namespace World

/-- The server without faults. It has a word for the reason of each refusal. -/
def fair (word : Nat → String) (r : Api.Request) : StateM World (Api.Reply r) := fun w =>
  let (reply, w') := (serve r).run { w with faults := [] }
  (Api.reworded word r reply, w')

/-- Where no fault is to strike and no reason is worded, this is how requests are served. -/
theorem fair_blank {w : World} (h : w.faults = []) (r : Api.Request) :
    (fair (fun _ => "") r).run w = (serve r).run w := by
  have hworded : ∀ f : ApiFailure, f.worded (fun _ => "") = f := by
    intro f
    cases f with
    | status code reason => by_cases hr : reason = "" <;> simp [ApiFailure.worded, hr]
    | unreadable => rfl
  have hreworded : ∀ reply, Api.reworded (fun _ => "") r reply = reply := by
    intro reply
    cases r
    case kinds | get | revisions | patch =>
      cases reply with
      | error f => exact congrArg Except.error (hworded f)
      | ok a => rfl
    all_goals rfl
  have hw : { w with faults := [] } = w := by rw [← h]
  show (Api.reworded _ r ((serve r).run { w with faults := [] }).1, ((serve r).run { w with faults := [] }).2) = _
  rw [hreworded, hw]; rfl

/-- What a world holds, apart from what strikes and what was asked. -/
def content (w : World) : World := { w with faults := [], asked := [] }

/-- The object and the part of it that a path names. -/
def named? (w : World) (path : String) : Option (WorkloadRef × Option String) := ((objectAt? path).run w).1

theorem run_objectAt? (w : World) (path : String) : (objectAt? path).run w = (w.named? path, w) := by
  unfold named? objectAt?
  split <;> rfl

theorem named?_congr {w w' : World} (h : w.kinds = w'.kinds) (path : String) : w.named? path = w'.named? path := by
  unfold named? objectAt?
  split
  · show Option.map _ (((w.kinds ++ builtinKinds).find? _).map _) =
      Option.map _ (((w'.kinds ++ builtinKinds).find? _).map _)
    rw [h]
  · rfl

/-- The world once it has been asked. -/
def served (w : World) (r : Api.Request) : World := { w with faults := [], asked := .ofApi r :: w.asked }

theorem run_unlessFailing {α : Type} (w : World) (r : Api.Request) (act : StateM World (Except ApiFailure α)) :
    (unlessFailing r act).run { w with faults := [] } = act.run (w.served r) := by
  unfold unlessFailing
  cases r <;> rfl

variable {word : Nat → String} {w w' : World} {path : String} {ref : WorkloadRef} {part : Option String} {j : Json}

theorem run_kindsOf (w : World) (apiVersion : String) : (kindsOf apiVersion).run w =
    (match (w.kinds.filter fun r : Api.Resource => r.apiVersion == apiVersion).map fun r : Api.Resource =>
        (r.kind, r.plural) with
      | [] => .error absent
      | known => .ok ⟨apiVersion, known⟩, w) := by
  show (match (w.kinds.filter fun r : Api.Resource => r.apiVersion == apiVersion).map fun r : Api.Resource =>
      (r.kind, r.plural) with
    | [] => (pure (.error absent) : StateM World (Except ApiFailure Api.Catalogue))
    | known => pure (.ok ⟨apiVersion, known⟩)).run w = _
  split <;> rfl

theorem fair_of_serve {r : Api.Request} {reply : Api.Reply r}
    (h : (serve r).run { w with faults := [] } = (reply, w')) (word : Nat → String) :
    (fair word r).run w = (Api.reworded word r reply, w') := by
  show (let (reply, w') := (serve r).run { w with faults := [] }; (Api.reworded word r reply, w')) = _
  rw [h]

/-! ## Looking -/

/-- The kinds that a path asks for, as they are listed. -/
def listed (w : World) (path : String) : Except ApiFailure Api.Catalogue :=
  match Api.Place.ofPath? path with
  | some (.kinds apiVersion) => ((kindsOf apiVersion).run w).1
  | _ => .error absent

theorem listed_congr (h : w.kinds = w'.kinds) (path : String) : w.listed path = w'.listed path := by
  unfold listed
  simp only [run_kindsOf, h]

theorem fair_kinds (word : Nat → String) (w : World) (path : String) :
    (fair word (.kinds path)).run w = (Except.mapError (·.worded word) (w.listed path), w.served (.kinds path)) := by
  refine fair_of_serve (r := .kinds path) ?_ word
  show (unlessFailing (.kinds path) _).run { w with faults := [] } = _
  rw [run_unlessFailing]
  unfold listed
  cases Api.Place.ofPath? path with
  | none => rfl
  | some place =>
    cases place with
    | kinds apiVersion => simp only [run_kindsOf]; rfl
    | collection | object => rfl

/-- The stored object that a path names. -/
def stored? (w : World) (path : String) : Option Json := (w.named? path).bind fun place => w.store.get? place.1

theorem kinds_eq_of_content (h : w.content = w'.content) : w.kinds = w'.kinds := by
  have hkinds := congrArg World.kinds h
  exact hkinds

theorem store_eq_of_content (h : w.content = w'.content) : w.store = w'.store := by
  have hstore := congrArg World.store h
  exact hstore

theorem stored?_congr (h : w.content = w'.content) (path : String) : w.stored? path = w'.stored? path := by
  unfold stored?
  rw [named?_congr (kinds_eq_of_content h), store_eq_of_content h]

theorem run_find? (w : World) (ref : WorkloadRef) : (find? ref).run w = (w.store.get? ref, w) := rfl

theorem run_read (w : World) (path : String) :
    (read path).run w = ((w.stored? path).elim (.error absent) .ok, w) := by
  unfold read stored?
  rw [StateT.run_bind, run_objectAt?]
  cases hn : w.named? path with
  | none => rfl
  | some place =>
    obtain ⟨ref, part⟩ := place
    show (find? ref >>= _ : StateM World _).run w = _
    rw [StateT.run_bind, run_find?, Option.bind_some]
    cases w.store.get? ref <;> rfl

theorem fair_get (word : Nat → String) (w : World) (path : String) : (fair word (.get path)).run w =
    ((w.stored? path).elim (.error (absent.worded word)) .ok, w.served (.get path)) := by
  have hrun : (serve (.get path)).run { w with faults := [] } =
      ((w.stored? path).elim (.error absent) .ok, w.served (.get path)) := by
    show (unlessFailing (.get path) _).run { w with faults := [] } = _
    rw [run_unlessFailing, run_read]
    show ((((w.served (.get path)).named? path).bind fun place => w.store.get? place.1).elim _ _, _) = _
    rw [named?_congr (show (w.served (.get path)).kinds = w.kinds from rfl) path]; rfl
  rw [fair_of_serve hrun]
  cases w.stored? path <;> rfl

/-- Looking changes nothing that counts. -/
theorem content_fair {r : Api.Request} (h : r.Looks) (w : World) : ((fair word r).run w).2.content = w.content := by
  cases r
  case kinds path => rw [fair_kinds]; rfl
  case get path => rw [fair_get]; rfl
  all_goals cases h

/-! ## Patching -/

/-- A patch that is not for another version of its object puts what it makes of the object. -/
theorem fair_patch (word : Nat → String) {body : Json} (hn : w.named? path = some (ref, part))
    (hj : w.store.get? ref = some j) (hbody : isOutdated body j = false) :
    ∃ w', (fair word (.patch path body)).run w =
        (.ok (shown ref part (Store.stamped (w.store.version + 1) ((relevant part body).merge j))), w') ∧
      w'.content = ({ w with store := w.store.put ref ((relevant part body).merge j) } : World).content := by
  let w₁ := w.served (.patch path body)
  let w₂ : World := { w₁ with store := w.store.put ref ((relevant part body).merge j) }
  have hplace : ∀ w' : World, w'.kinds = w.kinds → w'.named? path = some (ref, part) := fun w' h =>
    (named?_congr h path).trans hn
  have hread : (read path).run w₂ =
      (.ok (Store.stamped (w.store.version + 1) ((relevant part body).merge j)), w₂) := by
    rw [run_read]
    unfold stored?
    rw [hplace w₂ rfl, Option.bind_some, show w₂.store.get? ref = _ from Store.get?_put .., if_pos rfl]; rfl
  have hrun : (serve (.patch path body)).run { w with faults := [] } =
      (.ok (shown ref part (Store.stamped (w.store.version + 1) ((relevant part body).merge j))), w₂) := by
    show (unlessFailing (.patch path body) _).run { w with faults := [] } = _
    rw [run_unlessFailing]
    unfold mergeInto
    rw [StateT.run_bind, run_objectAt?, hplace (w.served _) rfl]
    show (find? ref >>= _ : StateM World _).run w₁ = _
    rw [StateT.run_bind, run_find?, show w₁.store.get? ref = some j from hj]
    show (ite (isOutdated body j = true) _ _ : StateM World _).run w₁ = _
    rw [hbody]
    show (do return (← read path).map (shown ref part) : StateM World _).run w₂ = _
    rw [StateT.run_bind, hread]; rfl
  exact ⟨w₂, fair_of_serve hrun word, rfl⟩

end World

end Rollout
