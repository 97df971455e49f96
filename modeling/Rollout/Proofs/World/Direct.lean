/-
A world that carries requests out at once. A request is noted and carried out on what the world holds, or a
fault strikes and nothing is done (`run_unlessFault`). So a workload is read as it is stored (`run_object`), and
a change of it writes back what was read with the change made, or does nothing (`content_answer_change`).
-/
import Rollout.Proofs.World.Server
import Rollout.World.Direct

namespace Rollout.World

section Faults

variable {ε α : Type} (r : Cluster.Request) (failure : String → FaultEffect → ε) (act : StateM World (Except ε α))

/-- A request is carried out, unless a fault strikes, and then nothing is done. -/
theorem run_unlessFault (w : World) : ∃ w₁ : World, w₁.content = w.content ∧
    ((unlessFault r failure act).run w = act.run w₁ ∨
      w.faults ≠ [] ∧ ∃ e, (unlessFault r failure act).run w = (.error e, w₁)) := by
  let w₀ : World := { w with asked := .ofCluster r :: w.asked }
  let taken := Fault.take (operation r).1 (operation r).2 w.faults
  let w₁ : World := { w₀ with faults := taken.2 }
  have hnote : (note (.ofCluster r)).run w = pure ((), w₀) := rfl
  have hfault : (fault (operation r).1 (operation r).2).run w₀ = pure (taken.1, w₁) := rfl
  refine ⟨w₁, rfl, ?_⟩
  unfold unlessFault
  rw [StateT.run_bind, hnote, pure_bind]
  dsimp only
  rw [StateT.run_bind, hfault, pure_bind]
  cases heffect : taken.1 with
  | none => exact .inl rfl
  | some effect =>
    refine .inr ⟨fun hempty => ?_, failure (operation r).1 effect, rfl⟩
    rw [show taken = (none, []) by rw [show taken = Fault.take _ _ w.faults from rfl, hempty]; rfl] at heffect
    cases heffect

end Faults

variable {w : World} {ref : WorkloadRef} {m : Manifest}

/-- A workload is read as it is stored. -/
theorem run_object (w : World) (ref : WorkloadRef) : (object ref).run w =
    ((w.store.get? ref).elim (.error (.missing ref)) fun j =>
      (Manifest.ofJson? j).elim (.error (.malformed "undecodable object")) .ok, w) := by
  have hfind : (find? ref).run w = pure (w.store.get? ref, w) := run_find? w ref
  unfold object
  rw [StateT.run_bind, hfind, pure_bind]
  cases w.store.get? ref with
  | none => rfl
  | some j =>
    rw [Option.elim_some]
    dsimp only
    cases Manifest.ofJson? j <;> rfl

theorem run_object_eq_ok_iff :
    ((object ref).run w).1 = .ok m ↔ ∃ j, w.store.get? ref = some j ∧ Manifest.ofJson? j = some m := by
  rw [run_object]
  cases w.store.get? ref with
  | none => simp
  | some j => cases hm : Manifest.ofJson? j <;> simp [hm]

/-- What is read is written back with the change made. -/
theorem run_change (w : World) (ref : WorkloadRef) (c : WorkloadChange) : (change ref c).run w =
    match ((object ref).run w).1 with
    | .error e => (.error e, w)
    | .ok m => (.ok (), { w with store := w.store.put ref (c.apply m.toJson) }) := by
  have hread : (object ref).run w = (((object ref).run w).1, w) := by rw [run_object]
  generalize ((object ref).run w).1 = result at hread ⊢
  unfold change
  rw [StateT.run_bind, hread]
  cases result <;> rfl

/-- While nothing strikes, a workload is found as it is stored. -/
theorem answer_workload_eq_ok_iff : ((answer (.workload ref)).run { w with faults := [] }).1 = .ok m ↔
    ∃ j, w.store.get? ref = some j ∧ Manifest.ofJson? j = some m := by
  obtain ⟨w₁, hcontent, hrun | ⟨hfaults, -⟩⟩ :=
    run_unlessFault (.workload ref) (accessFault · ref) (object ref) { w with faults := [] }
  · show ((unlessFault _ _ _).run _).1 = _ ↔ _
    rw [hrun, run_object_eq_ok_iff, store_eq_of_content hcontent]
  · exact absurd rfl hfaults

/-- A change is made to what is read of the object, or nothing is done. -/
theorem content_answer_change (w : World) (ref : WorkloadRef) (c : WorkloadChange) :
    ((answer (.change ref c)).run w).2.content = w.content ∨
      ∃ j m, w.store.get? ref = some j ∧ Manifest.ofJson? j = some m ∧
        ((answer (.change ref c)).run w).2.content =
          ({ w with store := w.store.put ref (c.apply m.toJson) } : World).content := by
  obtain ⟨w₁, hcontent, hrun⟩ := run_unlessFault (.change ref c) (accessFault · ref) (change ref c) w
  have hanswer : (answer (.change ref c)).run w =
    (unlessFault (.change ref c) (accessFault · ref) (change ref c)).run w := rfl
  rw [hanswer]
  rcases hrun with hrun | ⟨-, e, hrun⟩
  · rw [hrun, run_change]
    cases hobject : ((object ref).run w₁).1 with
    | error e => exact .inl hcontent
    | ok m =>
      obtain ⟨j, hj, hm⟩ := run_object_eq_ok_iff.1 hobject
      rw [store_eq_of_content hcontent] at hj
      refine .inr ⟨j, m, hj, hm, ?_⟩
      dsimp only
      rw [store_eq_of_content hcontent]
      exact congrArg (fun v : World => { v with store := w.store.put ref (c.apply m.toJson) }) hcontent
  · rw [hrun]
    exact .inl hcontent

end Rollout.World
