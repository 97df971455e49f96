/-
The faults of a world. They fail requests that have no effect then, and nothing else that the server
does depends on them or on the record of what was asked (`World.blind_fair`). So a run in a world with
any faults is a faulty run of the fair server (`World.faulty_of_serve`), and where none is to strike it is
a run of the fair server (`World.run_serve_eq_fair`).
-/
import Rollout.Proofs.Api.Client

namespace Rollout.World

open Program

/-! ## Actions without regard to faults -/

section Blind

variable {α β : Type}

/-- Two answers are the same, from worlds that are left with the same content. -/
def Agree (x y : α × World) : Prop := x.1 = y.1 ∧ x.2.content = y.2.content

/-- The action depends on the content of a world alone. -/
def Blind (act : StateM World α) : Prop := ∀ w w' : World, w.content = w'.content → Agree (act.run w) (act.run w')

theorem blind_pure (a : α) : Blind (pure a) := fun _ _ h => ⟨rfl, h⟩

theorem Blind.bind {act : StateM World α} {f : α → StateM World β} (ha : Blind act) (hf : ∀ a, Blind (f a)) :
    Blind (act >>= f) := by
  intro w w' h
  obtain ⟨hresult, hcontent⟩ := ha w w' h
  show Agree ((f (act.run w).1).run (act.run w).2) ((f (act.run w').1).run (act.run w').2)
  rw [hresult]
  exact hf _ _ _ hcontent

/-- What is looked up in a world belongs to its content. -/
theorem Blind.look {f : World → StateM World α} (hf : ∀ w, Blind (f w))
    (h : ∀ w w' : World, w.content = w'.content → f w = f w') : Blind (get >>= f) := by
  intro w w' hw
  show Agree ((f w).run w) ((f w').run w')
  rw [h w w' hw]
  exact hf w' w w' hw

theorem blind_note (a : Asked) : Blind (note a) := fun _ _ h => ⟨rfl, h⟩

theorem blind_find? (ref : WorkloadRef) : Blind (find? ref) := fun _ _ h =>
  ⟨congrArg (Store.get? · ref) (store_eq_of_content h), h⟩

theorem blind_put (ref : WorkloadRef) (object : Json) : Blind (put ref object) := by
  intro w w' h
  refine ⟨Subsingleton.elim _ _, ?_⟩
  show ({ w.content with store := w.store.put ref object } : World) =
    { w'.content with store := w'.store.put ref object }
  rw [store_eq_of_content h, h]

theorem blind_objectAt? (path : String) : Blind (objectAt? path) := by
  intro w w' h
  rw [run_objectAt?, run_objectAt?]
  exact ⟨named?_congr (kinds_eq_of_content h) path, h⟩

theorem blind_kindsOf (apiVersion : String) : Blind (kindsOf apiVersion) := by
  intro w w' h
  rw [run_kindsOf, run_kindsOf, kinds_eq_of_content h]
  exact ⟨rfl, h⟩

theorem blind_read (path : String) : Blind (read path) := by
  intro w w' h
  rw [run_read, run_read, stored?_congr h path]
  exact ⟨rfl, h⟩

theorem blind_list (path : String) (component : Option String) : Blind (list path component) := by
  unfold list
  split
  · rename_i apiVersion plural ns _
    have hkind : Blind (kindListedAs? apiVersion plural) := fun w w' h => by
      refine ⟨?_, h⟩
      show Option.map _ ((w.kinds ++ builtinKinds).find? _) = Option.map _ ((w'.kinds ++ builtinKinds).find? _)
      rw [kinds_eq_of_content h]
    refine hkind.bind fun kind => ?_
    cases kind with
    | none => exact blind_pure _
    | some kind =>
      refine Blind.look (fun _ => ?_) fun _ _ hu => by rw [store_eq_of_content hu]
      cases component <;> exact blind_pure _
  · exact blind_pure _
  · exact blind_pure _

theorem blind_mergeInto (path : String) (body : Json) : Blind (mergeInto path body) := by
  unfold mergeInto
  refine (blind_objectAt? path).bind fun place => ?_
  cases place with
  | none => exact blind_pure _
  | some place =>
    refine (blind_find? place.1).bind fun found => ?_
    cases found with
    | none => exact blind_pure _
    | some object =>
      show Blind (ite _ _ _)
      split
      · exact blind_pure _
      · exact (blind_put _ _).bind fun _ => (blind_read path).bind fun _ => blind_pure _

end Blind

/-! ## Actions that leave the faults -/

section Calm

variable {α β : Type}

/-- The action leaves the faults of a world as they are. -/
def Calm (act : StateM World α) : Prop := ∀ w : World, (act.run w).2.faults = w.faults

theorem calm_pure (a : α) : Calm (pure a) := fun _ => rfl

theorem Calm.bind {act : StateM World α} {f : α → StateM World β} (ha : Calm act) (hf : ∀ a, Calm (f a)) :
    Calm (act >>= f) := fun w => (hf (act.run w).1 (act.run w).2).trans (ha w)

theorem Calm.look {f : World → StateM World α} (hf : ∀ w, Calm (f w)) : Calm (get >>= f) := fun w => hf w w

theorem calm_note (a : Asked) : Calm (note a) := fun _ => rfl

theorem calm_find? (ref : WorkloadRef) : Calm (find? ref) := fun _ => rfl

theorem calm_put (ref : WorkloadRef) (object : Json) : Calm (put ref object) := fun _ => rfl

theorem calm_objectAt? (path : String) : Calm (objectAt? path) := fun w => by rw [run_objectAt?]

theorem calm_kindsOf (apiVersion : String) : Calm (kindsOf apiVersion) := fun w => by rw [run_kindsOf]

theorem calm_read (path : String) : Calm (read path) := fun w => by rw [run_read]

theorem calm_list (path : String) (component : Option String) : Calm (list path component) := by
  unfold list
  split
  · rename_i apiVersion plural ns _
    have hkind : Calm (kindListedAs? apiVersion plural) := fun _ => rfl
    refine hkind.bind fun kind => ?_
    cases kind with
    | none => exact calm_pure _
    | some kind => exact Calm.look fun _ => by cases component <;> exact calm_pure _
  · exact calm_pure _
  · exact calm_pure _

theorem calm_mergeInto (path : String) (body : Json) : Calm (mergeInto path body) := by
  unfold mergeInto
  refine (calm_objectAt? path).bind fun place => ?_
  cases place with
  | none => exact calm_pure _
  | some place =>
    refine (calm_find? place.1).bind fun found => ?_
    cases found with
    | none => exact calm_pure _
    | some object =>
      show Calm (ite _ _ _)
      split
      · exact calm_pure _
      · exact (calm_put _ _).bind fun _ => (calm_read path).bind fun _ => calm_pure _

theorem Calm.unlessFailing {act : StateM World (Except ApiFailure α)} (hact : Calm act) (r : Api.Request) {w : World}
    (hw : w.faults = []) : ((unlessFailing r act).run w).2.faults = [] := by
  have hempty : { w with faults := [] } = w := by rw [← hw]
  rw [← hempty, run_unlessFailing]
  exact hact (w.served r)

/-- Where no fault is to strike, none is to strike once a request has been served. -/
theorem faults_serve (r : Api.Request) {w : World} (hw : w.faults = []) : ((serve r).run w).2.faults = [] := by
  cases r with
  | kinds path =>
    refine Calm.unlessFailing ?_ _ hw
    split
    · exact calm_kindsOf _
    · exact calm_pure _
  | get path => exact (calm_read path).unlessFailing _ hw
  | revisions path component => exact (calm_list path component).unlessFailing _ hw
  | patch path body => exact (calm_mergeInto path body).unlessFailing _ hw
  | configRefs c | configChanged c =>
    refine (Calm.look (fun u => ?_) w).trans hw
    cases u.tracker with
    | absent => exact calm_pure _
    | failing e => exact (calm_note _).bind fun _ => calm_pure _
    | answering refs changed => exact (calm_note _).bind fun _ => calm_pure _
  | now => exact hw
  | pause milliseconds => exact hw

end Calm

/-! ## The server -/

/-- The answer to a request comes from the action, unless a fault strikes, and then it is a failure. -/
theorem run_unlessFailing_cases {α : Type} (r : Api.Request) (act : StateM World (Except ApiFailure α)) (w : World) :
    ∃ w₁ : World, w₁.content = w.content ∧ ((unlessFailing r act).run w = act.run w₁ ∨
      w.faults ≠ [] ∧ ∃ failure, (unlessFailing r act).run w = (.error failure, w₁)) := by
  cases hline : r.line? with
  | none =>
    refine ⟨{ w with asked := .ofApi r :: w.asked }, rfl, .inl ?_⟩
    unfold unlessFailing
    rw [hline]; rfl
  | some line =>
    obtain ⟨method, path⟩ := line
    let w₀ : World := { w with asked := .ofApi r :: w.asked }
    let w₁ : World := { w₀ with faults := (Fault.take method path w.faults).2 }
    have hnote : (note (.ofApi r)).run w = pure ((), w₀) := rfl
    have hfault : (fault method path).run w₀ = pure ((Fault.take method path w.faults).1, w₁) := rfl
    refine ⟨w₁, rfl, ?_⟩
    unfold unlessFailing
    rw [hline, StateT.run_bind, hnote, pure_bind]
    dsimp only
    rw [StateT.run_bind, hfault, pure_bind]
    cases heffect : (Fault.take method path w.faults).1 with
    | none => exact .inl rfl
    | some effect =>
      refine .inr ⟨fun hempty => ?_, ?_⟩
      · rw [hempty] at heffect; cases heffect
      · cases effect <;> exact ⟨_, rfl⟩

/-- An action has the result that it has without faults, or a failure and no effect. -/
theorem Blind.unlessFailing_agrees {α : Type} {act : StateM World (Except ApiFailure α)} (hact : Blind act)
    (r : Api.Request) {v w : World} (hv : v.faults = []) (h : v.content = w.content) :
    Agree ((unlessFailing r act).run v) ((unlessFailing r act).run w) ∨
      w.faults ≠ [] ∧ (∃ failure, ((unlessFailing r act).run w).1 = .error failure) ∧
        ((unlessFailing r act).run w).2.content = w.content := by
  obtain ⟨v₁, hv₁, hrun | ⟨hfaults, -⟩⟩ := run_unlessFailing_cases r act v
  · obtain ⟨w₁, hw₁, hrun' | ⟨hfaults, failure, hrun'⟩⟩ := run_unlessFailing_cases r act w
    · rw [hrun, hrun']
      exact .inl (hact v₁ w₁ (hv₁.trans (h.trans hw₁.symm)))
    · rw [hrun']
      exact .inr ⟨hfaults, ⟨failure, rfl⟩, hw₁⟩
  · exact absurd hv hfaults

/-- A request is served as it is where no fault strikes, or fails without effect. -/
theorem serve_agrees (r : Api.Request) {v w : World} (hv : v.faults = []) (h : v.content = w.content) :
    Agree ((serve r).run v) ((serve r).run w) ∨
      w.faults ≠ [] ∧ Api.Failed r ((serve r).run w).1 ∧ ((serve r).run w).2.content = w.content := by
  have htracker : ∀ {u u' : World}, u.content = u'.content → u.tracker = u'.tracker := by
    intro u u' hu
    have htracker := congrArg World.tracker hu
    exact htracker
  cases r with
  | kinds path =>
    refine Blind.unlessFailing_agrees ?_ _ hv h
    split
    · exact blind_kindsOf _
    · exact blind_pure _
  | get path => exact (blind_read path).unlessFailing_agrees _ hv h
  | revisions path component => exact (blind_list path component).unlessFailing_agrees _ hv h
  | patch path body => exact (blind_mergeInto path body).unlessFailing_agrees _ hv h
  | configRefs c | configChanged c =>
    refine .inl (Blind.look (fun u => ?_) (fun u u' hu => ?_) v w h)
    · cases u.tracker with
      | absent => exact blind_pure _
      | failing e => exact (blind_note _).bind fun _ => blind_pure _
      | answering refs changed => exact (blind_note _).bind fun _ => blind_pure _
    · rw [htracker hu]
  | now =>
    have hnow := congrArg World.now h
    exact .inl ⟨hnow, h⟩
  | pause milliseconds => exact .inl ⟨rfl, h⟩

/-- The fair server depends on the content of the world alone. -/
theorem blind_fair (word : Nat → String) (r : Api.Request) : Blind (fair word r) := by
  intro w w' h
  obtain ⟨hreply, hcontent⟩ | ⟨hfaults, -⟩ :=
    serve_agrees r (v := { w with faults := [] }) (w := { w' with faults := [] }) rfl h
  · exact ⟨congrArg (Api.reworded word r) hreply, hcontent⟩
  · exact absurd rfl hfaults

/-! ## Runs -/

variable {ρ : Type}

theorem blind_run (word : Nat → String) (p : Program Api.interface ρ) : Blind (p.run (fair word)) := by
  induction p with
  | done a => exact blind_pure a
  | ask r next ih => exact (blind_fair word r).bind ih

/-- Whatever strikes in a world, the run of a program is a faulty run with the fair server, as far as
the content goes. -/
theorem faulty_of_serve (p : Program Api.interface ρ) {v w : World} (h : v.content = w.content) :
    ∃ v', Faulty (fair fun _ => "") Api.Failed p v ((p.run serve).run w).1 v' ∧
      v'.content = ((p.run serve).run w).2.content := by
  induction p generalizing v w with
  | done a => exact ⟨v, .done a v, h⟩
  | ask r next ih =>
    rcases serve_agrees r (v := { v with faults := [] }) rfl h with ⟨hreply, hcontent⟩ | ⟨-, hfailed, hcontent⟩
    · -- no fault strikes: the fair server answers the same
      have hfair : (fair (fun _ => "") r).run v = (serve r).run { v with faults := [] } :=
        fair_blank (w := { v with faults := [] }) rfl r
      obtain ⟨v', hfaulty, hcontent'⟩ := ih ((serve r).run w).1 (v := ((fair (fun _ => "") r).run v).2)
        (w := ((serve r).run w).2) (by rw [hfair]; exact hcontent)
      have hserved : (fair (fun _ => "") r).run v = (((serve r).run w).1, ((fair (fun _ => "") r).run v).2) :=
        Prod.ext (by rw [hfair]; exact hreply) rfl
      exact ⟨v', .served hserved hfaulty, hcontent'⟩
    · obtain ⟨v', hfaulty, hcontent'⟩ := ih ((serve r).run w).1 (v := v) (h.trans hcontent.symm)
      exact ⟨v', .refused hfailed hfaulty, hcontent'⟩

/-- Where nothing is to strike, a program runs as with the fair server. -/
theorem run_serve_eq_fair (p : Program Api.interface ρ) {w : World} (hw : w.faults = []) :
    (p.run serve).run w = (p.run (fair fun _ => "")).run w := by
  induction p generalizing w with
  | done a => rfl
  | ask r next ih =>
    have hfair := fair_blank hw r
    show ((next ((serve r).run w).1).run serve).run ((serve r).run w).2 =
      ((next ((fair (fun _ => "") r).run w).1).run (fair fun _ => "")).run ((fair (fun _ => "") r).run w).2
    rw [hfair]
    exact ih _ (faults_serve r hw)

/-- Whatever strikes, a careful program leaves a world as it was or as the fair server leaves it. -/
theorem content_run_serve {stops : ρ → Prop} {p : Program Api.interface ρ} (hp : Api.Careful stops p)
    {w w₁ : World} {b : ρ} (hends : Ends (fair fun _ => "") p w b w₁) :
    ((p.run serve).run w).2.content = w.content ∨ ((p.run serve).run w).2.content = w₁.content := by
  obtain ⟨w', hfaulty, hcontent⟩ := faulty_of_serve p (v := w) rfl
  rw [← hcontent]
  exact hp.content_of_faulty hfaulty hends

end Rollout.World
