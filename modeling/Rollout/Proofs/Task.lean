/-
Runs of tasks and of operations, step by step. A successful run of work put one behind the other is
cut into successful runs of the parts (`Task.ok_bind_iff`, `Operation.ok_bind_iff`,
`Coordinated.ok_bind_iff`), and each basic step has one lemma that says what it asks and gives. An operation
that leaves its controller as it is can be a task (`Operation.Performs`).
-/
import Rollout.Proofs.Program
import Rollout.Routing.Coordinator

namespace Rollout

open Program

/-! ## Tasks -/

/-- Whatever is asked of the cluster can be answered. -/
theorem Cluster.nonempty_reply (r : Cluster.Request) : Nonempty (Cluster.Reply r) := by
  cases r <;> exact ⟨default⟩

namespace Task

variable {α β ε : Type} {log : List (Exchange Cluster.interface)}

/-- The task succeeds, answered as the log says. -/
def Ok (t : Task α) (log : List (Exchange Cluster.interface)) (a : α) : Prop := Trace t.run log (.ok a)

/-- A task ends where its first part fails, or goes on with what that gives. -/
theorem trace_bind_iff {x : Task α} {f : α → Task β} {r : Except ControllerError β} :
    Trace (x >>= f).run log r ↔ (∃ e, Trace x.run log (.error e) ∧ r = .error e) ∨
      ∃ l₁ l₂ a, log = l₁ ++ l₂ ∧ Ok x l₁ a ∧ Trace (f a).run l₂ r := by
  show Trace (x.run.bind _) log r ↔ _
  rw [Program.trace_bind_iff]
  constructor
  · rintro ⟨l₁, l₂, e | a, rfl, h₁, h₂⟩
    · obtain ⟨rfl, rfl⟩ := trace_done_iff.1 h₂
      exact .inl ⟨e, by rw [List.append_nil]; exact h₁, rfl⟩
    · exact .inr ⟨l₁, l₂, a, rfl, h₁, h₂⟩
  · rintro (⟨e, h, rfl⟩ | ⟨l₁, l₂, a, rfl, h₁, h₂⟩)
    · exact ⟨log, [], .error e, by rw [List.append_nil], h, trace_done_iff.2 ⟨rfl, rfl⟩⟩
    · exact ⟨l₁, l₂, .ok a, rfl, h₁, h₂⟩

theorem ok_bind_iff {x : Task α} {f : α → Task β} {b : β} :
    Ok (x >>= f) log b ↔ ∃ l₁ l₂ a, log = l₁ ++ l₂ ∧ Ok x l₁ a ∧ Ok (f a) l₂ b := by
  refine trace_bind_iff.trans ⟨fun h => ?_, .inr⟩
  rcases h with ⟨e, -, he⟩ | h
  · cases he
  · exact h

/-- What a task asks of the cluster is answered, and it goes on with the answer. -/
theorem trace_ask_bind_iff {r : Cluster.Request} {f : Cluster.Reply r → Task β} {result : Except ControllerError β} :
    Trace (ask r >>= f).run log result ↔ ∃ reply rest, log = ⟨r, reply⟩ :: rest ∧ Trace (f reply).run rest result := by
  show Trace (Program.ask (I := Cluster.interface) r fun reply => (f reply).run) log result ↔ _
  exact trace_ask_iff

theorem trace_pure_iff {a : α} {result : Except ControllerError α} :
    Trace (pure a : Task α).run log result ↔ log = [] ∧ result = .ok a := trace_done_iff

theorem trace_throw_iff {e : ControllerError} {result : Except ControllerError α} :
    Trace (throw e : Task α).run log result ↔ log = [] ∧ result = .error e := trace_done_iff

@[simp] theorem ok_pure_iff {a b : α} : Ok (pure a) log b ↔ log = [] ∧ b = a := by
  unfold Ok
  show Trace (done (Except.ok a)) log (Except.ok b) ↔ _
  rw [trace_done_iff, Except.ok.injEq]

@[simp] theorem ok_throw_iff {e : ControllerError} {b : α} : Ok (throw e) log b ↔ False := by
  unfold Ok
  show Trace (done (Except.error e)) log (Except.ok b) ↔ _
  rw [trace_done_iff]; simp

@[simp] theorem ok_ofExcept_iff {wrap : ε → ControllerError} {x : Except ε α} {a : α} :
    Ok (ofExcept wrap x) log a ↔ log = [] ∧ x = .ok a := by
  cases x with
  | error e => unfold ofExcept; simp
  | ok b => unfold ofExcept; simp [eq_comm]

@[simp] theorem ok_ask_iff {r : Cluster.Request} {reply : Cluster.Reply r} :
    Ok (ask r) log reply ↔ log = [⟨r, reply⟩] := by
  unfold Ok
  show Trace (Program.ask (I := Cluster.interface) r fun reply => done (Except.ok reply)) log (Except.ok reply) ↔ _
  rw [trace_ask_iff]
  constructor
  · rintro ⟨reply', rest, rfl, h⟩
    obtain ⟨rfl, h⟩ := trace_done_iff.1 h
    cases h; rfl
  · rintro rfl; exact ⟨reply, [], rfl, trace_done_iff.2 ⟨rfl, rfl⟩⟩

end Task

/-! ## Operations -/

namespace Operation

variable {α β : Type} {k k' : Controller} {log : List (Exchange Cluster.interface)}

/-- The operation of one controller succeeds, answered as the log says, and leaves another. -/
def Ok (x : Operation α) (k : Controller) (log : List (Exchange Cluster.interface)) (a : α) (k' : Controller) : Prop :=
  Trace (x.run.run k) log (.ok a, k')

theorem ok_bind_iff {x : Operation α} {f : α → Operation β} {b : β} :
    Ok (x >>= f) k log b k' ↔
      ∃ l₁ l₂ a k₁, log = l₁ ++ l₂ ∧ Ok x k l₁ a k₁ ∧ Ok (f a) k₁ l₂ b k' := by
  unfold Ok
  show Trace ((x.run.run k).bind _) log (Except.ok b, k') ↔ _
  rw [trace_bind_iff]
  constructor
  · rintro ⟨l₁, l₂, ⟨e | a, k₁⟩, rfl, h₁, h₂⟩
    · cases (trace_done_iff.1 h₂).2
    · exact ⟨l₁, l₂, a, k₁, rfl, h₁, h₂⟩
  · rintro ⟨l₁, l₂, a, k₁, rfl, h₁, h₂⟩; exact ⟨l₁, l₂, (.ok a, k₁), rfl, h₁, h₂⟩

@[simp] theorem ok_pure_iff {a b : α} : Ok (pure a) k log b k' ↔ log = [] ∧ b = a ∧ k' = k := by
  unfold Ok
  show Trace (done (Except.ok a, k)) log (Except.ok b, k') ↔ _
  rw [trace_done_iff]; simp

@[simp] theorem ok_get_iff {k₁ : Controller} : Ok get k log k₁ k' ↔ log = [] ∧ k₁ = k ∧ k' = k := by
  unfold Ok
  show Trace (done (Except.ok k, k)) log (Except.ok k₁, k') ↔ _
  rw [trace_done_iff]; simp

@[simp] theorem ok_set_iff {k₁ : Controller} {u : PUnit} : Ok (set k₁) k log u k' ↔ log = [] ∧ k' = k₁ := by
  unfold Ok
  show Trace (done (Except.ok ⟨⟩, k₁)) log (Except.ok u, k') ↔ _
  rw [trace_done_iff]; simp

/-! ### Operations that are tasks -/

/-- With this controller the operation is the task, and leaves the controller as it is. -/
def Performs (k : Controller) (x : Operation α) (t : Task α) : Prop :=
  x.run.run k = t.run.bind fun r => done (r, k)

theorem performs_task (t : Task α) : Performs k (monadLift t) t := rfl

theorem performs_pure (a : α) : Performs k (pure a) (pure a) := rfl

theorem Performs.bind {x : Operation α} {t : Task α} {f : α → Operation β} {g : α → Task β} (hx : Performs k x t)
    (hf : ∀ a, Performs k (f a) (g a)) : Performs k (x >>= f) (t >>= g) := by
  show (x.run.run k).bind _ = (t.run.bind _).bind _
  rw [show x.run.run k = _ from hx, Program.bind_assoc, Program.bind_assoc]
  refine congrArg t.run.bind (funext fun r => ?_)
  cases r with
  | error e => rfl
  | ok a => exact hf a

theorem Performs.trace_iff {x : Operation α} {t : Task α} (h : Performs k x t) {r : Except ControllerError α} :
    Trace (x.run.run k) log (r, k') ↔ Trace t.run log r ∧ k' = k := by
  rw [show x.run.run k = _ from h, trace_bind_iff]
  constructor
  · rintro ⟨l₁, l₂, r', rfl, h₁, h₂⟩
    obtain ⟨rfl, heq⟩ := trace_done_iff.1 h₂
    cases heq
    rw [List.append_nil]
    exact ⟨h₁, rfl⟩
  · rintro ⟨htrace, rfl⟩
    exact ⟨log, [], r, (List.append_nil log).symm, htrace, trace_done_iff.2 ⟨rfl, rfl⟩⟩

theorem Performs.bind_throw {x : Operation α} {e : ControllerError} (hx : Performs k x (throw e))
    (f : α → Operation β) : Performs k (x >>= f) (throw e) := by
  show (x.run.run k).bind _ = _
  rw [show x.run.run k = _ from hx]
  rfl

/-- A task leaves the controller as it is. -/
@[simp] theorem ok_task_iff {t : Task α} {a : α} :
    Ok (monadLift t : Operation α) k log a k' ↔ Task.Ok t log a ∧ k' = k := (performs_task t).trace_iff

end Operation

/-! ## Coordinated work -/

namespace Coordinated

variable {α β : Type} {c : Canary} {k k' : Controller} {calls : List (Exchange Coordination.interface)}
  {log : List (Exchange Cluster.interface)}

/-- The work on a canary succeeds with a controller: `calls` is what it asks, `log` what the
controller and the router ask for that. -/
def Ok (c : Canary) (x : Coordinated α) (k : Controller) (calls : List (Exchange Coordination.interface))
    (log : List (Exchange Cluster.interface)) (a : α) (k' : Controller) : Prop :=
  Carried c.coordination x.run k calls log (.ok a) k'

theorem ok_bind_iff {x : Coordinated α} {f : α → Coordinated β} {b : β} :
    Ok c (x >>= f) k calls log b k' ↔
      ∃ u₁ u₂ l₁ l₂ a k₁, calls = u₁ ++ u₂ ∧ log = l₁ ++ l₂ ∧ Ok c x k u₁ l₁ a k₁ ∧ Ok c (f a) k₁ u₂ l₂ b k' := by
  unfold Ok
  show Carried c.coordination (x.run.bind _) k calls log (Except.ok b) k' ↔ _
  rw [carried_bind_iff]
  constructor
  · rintro ⟨u₁, u₂, l₁, l₂, e | a, k₁, rfl, rfl, h₁, h₂⟩
    · cases (carried_done_iff.1 h₂).2.2.1
    · exact ⟨u₁, u₂, l₁, l₂, a, k₁, rfl, rfl, h₁, h₂⟩
  · rintro ⟨u₁, u₂, l₁, l₂, a, k₁, rfl, rfl, h₁, h₂⟩; exact ⟨u₁, u₂, l₁, l₂, .ok a, k₁, rfl, rfl, h₁, h₂⟩

@[simp] theorem ok_pure_iff {a b : α} :
    Ok c (pure a) k calls log b k' ↔ calls = [] ∧ log = [] ∧ b = a ∧ k' = k := by
  unfold Ok
  show Carried c.coordination (done (Except.ok a)) k calls log (Except.ok b) k' ↔ _
  rw [carried_done_iff, Except.ok.injEq]

/-- The router is asked for the split as it is. -/
theorem ok_routes_iff {weights : RouteWeights} {u : Unit} :
    Ok c (routes weights) k calls log u k' ↔
      calls = [⟨.setRoutes weights, .ok ()⟩] ∧ log = [⟨.setRoutes c weights, .ok ()⟩] ∧ k' = k := by
  unfold Ok
  show Carried c.coordination (Program.ask (I := Coordination.interface) (.setRoutes weights) done) k calls log
    (Except.ok u) k' ↔ _
  rw [carried_ask_iff]
  constructor
  · rintro ⟨reply, k₁, u', l₁, l₂, rfl, rfl, ht, hd⟩
    obtain ⟨rfl, rfl, hreply, rfl⟩ := carried_done_iff.1 hd
    obtain ⟨reply', rest, rfl, h⟩ := trace_ask_iff.1
      (show Trace (Program.ask (I := Cluster.interface) (.setRoutes c weights) fun reply => done (reply, k)) l₁ _
        from ht)
    obtain ⟨rfl, h⟩ := trace_done_iff.1 h
    cases h
    subst hreply
    exact ⟨rfl, rfl, rfl⟩
  · rintro ⟨rfl, rfl, rfl⟩
    refine ⟨.ok (), k', [], [_], [], rfl, rfl, ?_, carried_done_iff.2 ⟨rfl, rfl, rfl, rfl⟩⟩
    show Trace (Program.ask (I := Cluster.interface) (.setRoutes c weights) fun reply => done (reply, k')) _ _
    exact trace_ask_iff.2 ⟨.ok (), [], rfl, trace_done_iff.2 ⟨rfl, rfl⟩⟩

/-- Scaling succeeds when the controller scales. -/
theorem ok_scale_iff {role : Role} {replicas : Int32} {u : Unit} :
    Ok c (scale c role replicas) k calls log u k' ↔
      calls = [⟨.scale role replicas, .ok ()⟩] ∧ Operation.Ok (c.scale role replicas) k log () k' := by
  unfold Ok Operation.Ok
  show Carried c.coordination (Program.ask (I := Coordination.interface) (.scale role replicas) _) k calls log
    (Except.ok u) k' ↔ _
  rw [carried_ask_iff]
  constructor
  · rintro ⟨source | u, k₁, u', l₁, l₂, rfl, rfl, ht, hd⟩
    · -- a failure to scale is one of the work, wherever the workload is
      obtain ⟨located | ref, k₂, u₂, l₃, l₄, -, -, -, hthrow⟩ := carried_ask_iff.1
        (show Carried c.coordination (Program.ask (I := Coordination.interface) (.locate role) _) k₁ u' l₂ _ k' from hd)
      · cases (carried_done_iff.1 hthrow).2.2.1
      · cases (carried_done_iff.1 hthrow).2.2.1
    · obtain ⟨rfl, rfl, -, rfl⟩ := carried_done_iff.1 hd
      rw [List.append_nil]; exact ⟨rfl, ht⟩
  · rintro ⟨rfl, ht⟩
    exact ⟨.ok (), k', [], log, [], rfl, (List.append_nil log).symm, ht, carried_done_iff.2 ⟨rfl, rfl, rfl, rfl⟩⟩

end Coordinated

end Rollout
