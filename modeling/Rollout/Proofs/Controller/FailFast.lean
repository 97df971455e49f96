/-
Tasks that end where a request fails. `Task.FailsFast` says what such a program ends with where nothing fails;
after a failed request it asks nothing more and ends with an error (`Task.FailsFast.of_trace`). Workloads that are
changed in turn are changed in that order, up to the first failure (`trace_changeAll`).
-/
import Rollout.Proofs.Controller.Scaling

namespace Rollout

open Program

/-! ## Failures -/

/-- Whether a request was answered with a failure. -/
def Exchange.failed : Exchange Cluster.interface → Bool
  | ⟨.workload _, .error _⟩ => true
  | ⟨.revisions _ _, .error _⟩ => true
  | ⟨.change _ _, .error _⟩ => true
  | ⟨.scale _ _, .error _⟩ => true
  | ⟨.canary _ _, .error _⟩ => true
  | ⟨.writeStatus _ _, .error _⟩ => true
  | ⟨.configRefs _, .error _⟩ => true
  | ⟨.configChanged _, .error _⟩ => true
  | ⟨.reconcileRoutes _, .error _⟩ => true
  | ⟨.setRoutes _ _, .error _⟩ => true
  | ⟨.getRoutes _, .error _⟩ => true
  | ⟨.finalizeRoutes _, .error _⟩ => true
  | _ => false

/-- What was asked that changes something, in order. -/
def writesIn (log : List (Exchange Cluster.interface)) : List Cluster.Request :=
  (log.map (·.request)).filter (·.writes)

@[simp] theorem writesIn_append (l₁ l₂ : List (Exchange Cluster.interface)) :
    writesIn (l₁ ++ l₂) = writesIn l₁ ++ writesIn l₂ := by
  unfold writesIn
  rw [List.map_append, List.filter_append]

theorem writesIn_of_looks {log : List (Exchange Cluster.interface)} (h : ∀ e ∈ log, e.request.Looks) :
    writesIn log = [] := by
  rw [writesIn, List.filter_eq_nil_iff, List.forall_mem_map]
  exact fun e he => Bool.eq_false_iff.1 (h e he)

namespace Task

variable {α β : Type} {log : List (Exchange Cluster.interface)} {post : Except ControllerError α → Prop}
  {post' : Except ControllerError β → Prop}

/-- Where no request fails, the program ends as it should; where one does, it ends there, with an error. -/
def FailsFast (post : Except ControllerError α → Prop) : Program Cluster.interface (Except ControllerError α) → Prop
  | .done r => post r
  | .ask r next => ∀ reply, if (⟨r, reply⟩ : Exchange Cluster.interface).failed then ∃ e, next reply = .done (.error e)
      else FailsFast post (next reply)

theorem FailsFast.bind {x : Task α} {f : α → Task β} (hx : FailsFast post x.run)
    (hf : ∀ a, post (.ok a) → FailsFast post' (f a).run) (herror : ∀ e, post (.error e) → post' (.error e)) :
    FailsFast post' (x >>= f).run := by
  show FailsFast post' (x.run.bind _)
  generalize x.run = p at hx
  induction p with
  | done r =>
    cases r with
    | error e => exact herror e hx
    | ok a => exact hf a hx
  | ask r next ih =>
    intro reply
    have hnext := hx reply
    split at hnext
    · rename_i hfailed
      obtain ⟨e, he⟩ := hnext
      rw [if_pos hfailed]
      exact ⟨e, congrArg (Program.bind · _) he⟩
    · rename_i hfailed
      rw [if_neg hfailed]
      exact ih reply hnext

theorem FailsFast.mono {p : Program Cluster.interface (Except ControllerError α)}
    {post₁ : Except ControllerError α → Prop} (h : FailsFast post p) (hpost : ∀ r, post r → post₁ r) :
    FailsFast post₁ p := by
  induction p with
  | done r => exact hpost r h
  | ask r next ih =>
    intro reply
    have hnext := h reply
    split at hnext
    · rename_i hfailed
      rw [if_pos hfailed]
      exact hnext
    · rename_i hfailed
      rw [if_neg hfailed]
      exact ih reply hnext

theorem FailsFast.of_trace {p : Program Cluster.interface (Except ControllerError α)} {r : Except ControllerError α}
    (h : FailsFast post p) (ht : Trace p log r) :
    ((∀ e ∈ log, e.failed = false) → post r) ∧
      ∀ before e after, log = before ++ e :: after → e.failed = true → after = [] ∧ r.isOk = false := by
  induction p generalizing log with
  | done r =>
    obtain ⟨rfl, rfl⟩ := trace_done_iff.1 ht
    exact ⟨fun _ => h, fun before e after hlog => by simp at hlog⟩
  | ask request next ih =>
    obtain ⟨reply, rest, rfl, hrest⟩ := trace_ask_iff.1 ht
    have hnext := h reply
    split at hnext
    · rename_i hfailed
      obtain ⟨e, he⟩ := hnext
      rw [he] at hrest
      obtain ⟨rfl, rfl⟩ := trace_done_iff.1 hrest
      refine ⟨fun hlog => ?_, fun before e after hlog _ => ?_⟩
      · rw [hlog _ (List.mem_singleton_self _)] at hfailed
        cases hfailed
      · cases before with
        | nil => cases hlog; exact ⟨rfl, rfl⟩
        | cons first before => simp at hlog
    · rename_i hfailed
      obtain ⟨hpost, hstops⟩ := ih reply hnext hrest
      refine ⟨fun hlog => hpost fun e he => hlog e (List.mem_cons_of_mem _ he), fun before e after hlog he => ?_⟩
      cases before with
      | nil =>
        cases hlog
        exact absurd he hfailed
      | cons first before =>
        obtain ⟨-, hlog⟩ := List.cons.inj hlog
        exact hstops before e after hlog he

/-- The task succeeds, unless a request fails. -/
abbrev FailsOnly (t : Task α) : Prop := FailsFast (fun r => ∃ a, r = .ok a) t.run

theorem failsOnly_workload (ref : WorkloadRef) : FailsOnly (Task.workload ref) := by
  intro reply
  cases reply with
  | error e => exact ⟨_, rfl⟩
  | ok object => exact ⟨object, rfl⟩

theorem failsOnly_now : FailsOnly Task.now := fun now => ⟨now, rfl⟩

theorem FailsOnly.bind {x : Task α} {f : α → Task β} (hx : FailsOnly x) (hf : ∀ a, FailsOnly (f a)) :
    FailsOnly (x >>= f) :=
  FailsFast.bind hx (fun a _ => hf a) fun _ ⟨_, h⟩ => by cases h

/-- The task succeeds, unless a request fails or the program stops. -/
abbrev FailsOrCrashes (t : Task α) : Prop :=
  FailsFast (fun r => ∀ e, r = .error e → ∃ cause, e = .crashed cause) t.run

theorem FailsOnly.failsOrCrashes {t : Task α} (h : FailsOnly t) : FailsOrCrashes t :=
  h.mono fun _ ⟨_, hr⟩ _ he => by rw [hr] at he; cases he

theorem failsOrCrashes_pure (a : α) : FailsOrCrashes (pure a) := fun _ h => by cases h

theorem failsOrCrashes_ofExcept (r : Except Crash α) : FailsOrCrashes (ofExcept .crashed r) := by
  cases r with
  | error cause => exact fun _ h => ⟨cause, by cases h; rfl⟩
  | ok a => exact failsOrCrashes_pure a

theorem FailsOrCrashes.bind {x : Task α} {f : α → Task β} (hx : FailsOrCrashes x) (hf : ∀ a, FailsOrCrashes (f a)) :
    FailsOrCrashes (x >>= f) :=
  FailsFast.bind hx (fun a _ => hf a) fun e h _ he => h _ (by cases he; rfl)

end Task

/-! ## Changes in turn -/

/-- Changes workloads in turn. -/
def changeAll : List (WorkloadRef × WorkloadChange) → Task Unit
  | [] => pure ()
  | (ref, change) :: rest => do
    Task.change ref change
    changeAll rest

theorem failsOnly_changeAll : ∀ changes, Task.FailsOnly (changeAll changes)
  | [] => ⟨(), rfl⟩
  | (ref, change) :: rest => by
    have hchange : Task.FailsOnly (Task.change ref change) := by
      intro reply
      cases reply with
      | error e => exact ⟨_, rfl⟩
      | ok u => exact ⟨u, rfl⟩
    exact hchange.bind fun _ => failsOnly_changeAll rest

/-- The workloads are changed in this order, all of them if the task succeeds. -/
theorem trace_changeAll : ∀ {changes : List (WorkloadRef × WorkloadChange)} {log : List (Exchange Cluster.interface)}
    {r : Except ControllerError Unit}, Trace (changeAll changes).run log r →
      writesIn log <+: changes.map (fun x => Cluster.Request.change x.1 x.2) ∧
        (r = .ok () → writesIn log = changes.map fun x => Cluster.Request.change x.1 x.2)
  | [], log, r, h => by
    obtain ⟨rfl, rfl⟩ := trace_done_iff.1 h
    exact ⟨List.prefix_refl _, fun _ => rfl⟩
  | (ref, change) :: rest, log, r, h => by
    obtain ⟨reply, later, rfl, hlater⟩ := trace_ask_iff.1 h
    cases reply with
    | error e =>
      obtain ⟨rfl, rfl⟩ := trace_done_iff.1 hlater
      exact ⟨List.prefix_cons_iff.2 (.inr ⟨[], rfl, List.nil_prefix⟩), fun hr => by cases hr⟩
    | ok u =>
      obtain ⟨hbegin, hwhole⟩ := trace_changeAll (show Trace (changeAll rest).run later r from hlater)
      exact ⟨(List.prefix_cons_inj _).2 hbegin, fun hr => congrArg (_ :: ·) (hwhole hr)⟩

end Rollout
