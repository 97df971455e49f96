/-
Programs whose requests can fail. A server answers out of a state and changes it; in a faulty run any
request may be answered by a failure instead, be it before or after it had its effect (`Faulty`). A
program that stops at a failure and after its one write leaves such a run with the state it began with
or the one that it would have left without faults (`Faulty.of_cautious`). Main statement: `repaired`,
where all that a program has done is to put fixed values into cells, doing it again after a faulty run
gives what doing it once would have given.
-/
import Rollout.Proofs.Program

namespace Rollout.Program

variable {I J : Interface} {α β σ τ X V : Type}

/-! ## Runs -/

theorem run_bind {m : Type → Type} [Monad m] [LawfulMonad m] (answer : (r : I.Request) → m (I.Reply r))
    (p : Program I α) (f : α → Program I β) : (p.bind f).run answer = p.run answer >>= fun a => (f a).run answer := by
  induction p with
  | done a => simp [run]
  | ask r next ih => simp [run, ih]

/-- A program that is carried out by another runs as the other does. -/
theorem run_run {m : Type → Type} [Monad m] [LawfulMonad m] (handler : (r : I.Request) → Program J (I.Reply r))
    (answer : (r : J.Request) → m (J.Reply r)) (p : Program I α) :
    (p.run handler).run answer = p.run fun r => (handler r).run answer := by
  induction p with
  | done a => rfl
  | ask r next ih =>
    show ((handler r).bind fun reply => (next reply).run handler).run answer = _
    rw [run_bind]
    simp only [ih, run]

theorem run_bind_done {serve : (r : I.Request) → StateM σ (I.Reply r)} {p : Program I α} {f : α → β} {s : σ} :
    ((p.bind fun a => done (f a)).run serve).run s = (f ((p.run serve).run s).1, ((p.run serve).run s).2) := by
  rw [run_bind]
  rfl

/-- Work with a state goes on where its first part ends. -/
theorem bind_apply {x : StateM σ α} {f : α → StateM σ β} {s s' : σ} {a : α} (h : x s = (a, s')) :
    (x >>= f) s = f a s' := by
  show (match x s with | (a, s') => f a s') = f a s'
  rw [h]

section Runs

variable (serve : (r : I.Request) → StateM σ (I.Reply r))

/-- The program, served from the first state, ends with the result and leaves the second. -/
def Ends (p : Program I α) (s : σ) (a : α) (s' : σ) : Prop := (p.run serve).run s = (a, s')

variable {serve}

theorem ends_run (p : Program I α) (s : σ) : Ends serve p s ((p.run serve).run s).1 ((p.run serve).run s).2 := rfl

@[simp] theorem ends_done_iff {a b : α} {s s' : σ} : Ends serve (done a) s b s' ↔ b = a ∧ s' = s := by
  unfold Ends
  show (a, s) = (b, s') ↔ _
  rw [Prod.mk.injEq, eq_comm, @eq_comm _ s]

/-- A program ends in one way. -/
theorem Ends.unique {p : Program I α} {s s₁ s₂ : σ} {a b : α} (h₁ : Ends serve p s a s₁) (h₂ : Ends serve p s b s₂) :
    a = b ∧ s₁ = s₂ := Prod.mk.inj (h₁.symm.trans h₂)

theorem ends_ask_iff {r : I.Request} {next : I.Reply r → Program I α} {s s' : σ} {a : α} :
    Ends serve (ask r next) s a s' ↔
      ∃ reply s₁, (serve r).run s = (reply, s₁) ∧ Ends serve (next reply) s₁ a s' := by
  unfold Ends
  show ((next ((serve r).run s).1).run serve).run ((serve r).run s).2 = _ ↔ _
  constructor
  · intro h; exact ⟨_, _, rfl, h⟩
  · rintro ⟨reply, s₁, hserve, h⟩; rw [hserve]; exact h

theorem ends_bind_iff {p : Program I α} {f : α → Program I β} {s s' : σ} {b : β} :
    Ends serve (p.bind f) s b s' ↔ ∃ a s₁, Ends serve p s a s₁ ∧ Ends serve (f a) s₁ b s' := by
  induction p generalizing s with
  | done a => simp
  | ask r next ih =>
    simp only [ask_bind, ends_ask_iff, ih]
    constructor
    · rintro ⟨reply, s₁, hserve, a, s₂, h₁, h₂⟩; exact ⟨a, s₂, ⟨reply, s₁, hserve, h₁⟩, h₂⟩
    · rintro ⟨a, s₂, ⟨reply, s₁, hserve, h₁⟩, h₂⟩; exact ⟨reply, s₁, hserve, a, s₂, h₁, h₂⟩

theorem Ends.exists_trace {p : Program I α} {s s' : σ} {a : α} (h : Ends serve p s a s') : ∃ log, Trace p log a := by
  induction p generalizing s with
  | done b =>
    obtain ⟨rfl, -⟩ := ends_done_iff.1 h
    exact ⟨[], trace_done_iff.2 ⟨rfl, rfl⟩⟩
  | ask r next ih =>
    obtain ⟨reply, s₁, -, hnext⟩ := ends_ask_iff.1 h
    obtain ⟨log, htrace⟩ := ih reply hnext
    exact ⟨_, trace_ask_iff.2 ⟨reply, log, rfl, htrace⟩⟩

/-! ### Work that may fail -/

section Except

variable {ε : Type}

/-- How a run that succeeds ends, and what can be computed of its result. -/
theorem exists_ends_ok (check : α → Bool) {p : Program I (Except ε α)} {s : σ}
    (h : ((p.run serve).run s).1.toOption.any check = true) :
    ∃ a, check a = true ∧ ∃ s', Ends serve p s (.ok a) s' := by
  unfold Ends
  cases hrun : (p.run serve).run s with
  | mk result s' =>
    rw [hrun] at h
    cases result with
    | error e => cases h
    | ok a => exact ⟨a, h, s', rfl⟩

theorem run_lift_bind (p : Program I α) (f : α → ExceptT ε (Program I) β) :
    (ExceptT.lift p >>= f).run = p.bind fun a => (f a).run := by
  show (p.bind fun a => done (Except.ok a)).bind _ = _
  rw [bind_assoc]; rfl

theorem ends_lift_bind_iff {p : Program I α} {f : α → ExceptT ε (Program I) β} {s s' : σ} {b : Except ε β} :
    Ends serve (ExceptT.lift p >>= f).run s b s' ↔
      ∃ a s₁, Ends serve p s a s₁ ∧ Ends serve (f a).run s₁ b s' := by
  rw [run_lift_bind, ends_bind_iff]

/-- Work succeeds when all its parts do. -/
theorem ends_bind_ok_iff {x : ExceptT ε (Program I) α} {f : α → ExceptT ε (Program I) β} {s s' : σ} {b : β} :
    Ends serve (x >>= f).run s (Except.ok b) s' ↔
      ∃ a s₁, Ends serve x.run s (Except.ok a) s₁ ∧ Ends serve (f a).run s₁ (Except.ok b) s' := by
  show Ends serve (x.run.bind _) s (Except.ok b) s' ↔ _
  rw [ends_bind_iff]
  constructor
  · rintro ⟨e | a, s₁, h₁, h₂⟩
    · cases (ends_done_iff.1 h₂).1
    · exact ⟨a, s₁, h₁, h₂⟩
  · rintro ⟨a, s₁, h₁, h₂⟩; exact ⟨.ok a, s₁, h₁, h₂⟩

end Except

end Runs

/-! ## Faults -/

/-- A run in which any request may fail: it is answered by a failure and has no effect, or has its
effect and the answer is lost. -/
inductive Faulty (serve : (r : I.Request) → StateM σ (I.Reply r)) (failed : (r : I.Request) → I.Reply r → Prop) :
    Program I α → σ → α → σ → Prop
  | done (a : α) (s : σ) : Faulty serve failed (done a) s a s
  | served {r : I.Request} {next : I.Reply r → Program I α} {s s₁ s₂ : σ} {reply : I.Reply r} {a : α} :
      (serve r).run s = (reply, s₁) → Faulty serve failed (next reply) s₁ a s₂ → Faulty serve failed (ask r next) s a s₂
  | refused {r : I.Request} {next : I.Reply r → Program I α} {s s₂ : σ} {reply : I.Reply r} {a : α} :
      failed r reply → Faulty serve failed (next reply) s a s₂ → Faulty serve failed (ask r next) s a s₂
  | lost {r : I.Request} {next : I.Reply r → Program I α} {s s₁ s₂ : σ} {reply answer : I.Reply r} {a : α} :
      failed r reply → (serve r).run s = (answer, s₁) → Faulty serve failed (next reply) s₁ a s₂ →
      Faulty serve failed (ask r next) s a s₂

/-- Stops at a failure and after a write, with a result as it may stop with. -/
inductive Cautious (writes : I.Request → Prop) (failed : (r : I.Request) → I.Reply r → Prop) (stops : α → Prop) :
    Program I α → Prop
  | done (a : α) : Cautious writes failed stops (done a)
  | ask {r : I.Request} {next : I.Reply r → Program I α} :
      (∀ reply, writes r ∨ failed r reply → ∃ a, next reply = .done a ∧ stops a) →
      (∀ reply, Cautious writes failed stops (next reply)) → Cautious writes failed stops (ask r next)

section Faults

variable {serve : (r : I.Request) → StateM σ (I.Reply r)} {writes : I.Request → Prop}
  {failed : (r : I.Request) → I.Reply r → Prop} {stops : α → Prop} {stops' : β → Prop}

theorem Cautious.bind {p : Program I α} {f : α → Program I β} (hp : p.Cautious writes failed stops)
    (hstop : ∀ a, stops a → ∃ b, f a = Program.done b ∧ stops' b) (hf : ∀ a, (f a).Cautious writes failed stops') :
    (p.bind f).Cautious writes failed stops' := by
  induction hp with
  | done a => exact hf a
  | @ask r next hends _ ih =>
    refine .ask (fun reply h => ?_) ih
    obtain ⟨a, ha, hstops⟩ := hends reply h
    obtain ⟨b, hb, hstops'⟩ := hstop a hstops
    refine ⟨b, ?_, hstops'⟩
    rw [ha, done_bind, hb]

/-- Work that stops by failing can be gone on with. -/
theorem Cautious.bind_except {ε : Type} {x : ExceptT ε (Program I) α} {f : α → ExceptT ε (Program I) β}
    {stops : Except ε β → Prop} (hx : x.run.Cautious writes failed fun r => ∃ e, r = .error e)
    (hstops : ∀ e, stops (.error e)) (hf : ∀ a, (f a).run.Cautious writes failed stops) :
    (x >>= f).run.Cautious writes failed stops := by
  refine Cautious.bind hx ?_ fun r => ?_
  · rintro _ ⟨e, rfl⟩; exact ⟨.error e, rfl, hstops e⟩
  · cases r with
    | error e => exact .done _
    | ok a => exact hf a

theorem faulty_bind {p : Program I α} {f : α → Program I β} {s s' : σ} {b : β}
    (h : Faulty serve failed (p.bind f) s b s') :
    ∃ a s₁, Faulty serve failed p s a s₁ ∧ Faulty serve failed (f a) s₁ b s' := by
  induction p generalizing s with
  | done a => exact ⟨a, s, .done a s, h⟩
  | ask r next ih =>
    cases h with
    | served hserve h => obtain ⟨a, s₁, h₁, h₂⟩ := ih _ h; exact ⟨a, s₁, .served hserve h₁, h₂⟩
    | refused hfailed h => obtain ⟨a, s₁, h₁, h₂⟩ := ih _ h; exact ⟨a, s₁, .refused hfailed h₁, h₂⟩
    | lost hfailed hserve h => obtain ⟨a, s₁, h₁, h₂⟩ := ih _ h; exact ⟨a, s₁, .lost hfailed hserve h₁, h₂⟩

/-- A faulty run of a cautious program has had no effect or the whole. -/
theorem Faulty.of_cautious {view : σ → τ} (hreads : ∀ r, ¬ writes r → ∀ s, view ((serve r).run s).2 = view s)
    {p : Program I α} {s s₁ s' : σ} {a b : α} (hp : p.Cautious writes failed stops) (h : Faulty serve failed p s a s')
    (hends : Ends serve p s b s₁) : view s' = view s ∨ view s' = view s₁ := by
  induction h with
  | done a s => exact .inl rfl
  | @served r next s s₂ s' reply a hserve hrest ih =>
    obtain ⟨reply', s₂', hserve', hends⟩ := ends_ask_iff.1 hends
    rw [hserve] at hserve'
    cases hserve'
    cases hp with
    | ask hstops hnext =>
      by_cases hw : writes r
      · obtain ⟨c, hdone, -⟩ := hstops reply (.inl hw)
        rw [hdone] at hrest hends
        cases hrest
        rw [(ends_done_iff.1 hends).2]
        exact .inr rfl
      · have hread := hreads r hw s
        rw [hserve] at hread
        rw [← hread]
        exact ih (hnext reply) hends
  | @refused r next s s' reply a hfailed hrest ih =>
    cases hp with
    | ask hstops _ =>
      obtain ⟨c, hdone, -⟩ := hstops reply (.inr hfailed)
      rw [hdone] at hrest
      cases hrest
      exact .inl rfl
  | @lost r next s s₂ s' reply answer a hfailed hserve hrest ih =>
    cases hp with
    | ask hstops _ =>
      obtain ⟨c, hdone, -⟩ := hstops reply (.inr hfailed)
      rw [hdone] at hrest
      cases hrest
      obtain ⟨reply', s₂', hserve', hends⟩ := ends_ask_iff.1 hends
      rw [hserve] at hserve'
      cases hserve'
      by_cases hw : writes r
      · obtain ⟨d, hdone', -⟩ := hstops answer (.inl hw)
        rw [hdone'] at hends
        rw [(ends_done_iff.1 hends).2]
        exact .inr rfl
      · have hread := hreads r hw s
        rw [hserve] at hread
        exact .inl hread

end Faults

/-! ## Cells -/

/-- The value of a cell once values have been put in turn. -/
def settled (puts : List (X → Option V)) (x : X) (v : V) : V := puts.foldl (fun v put => (put x).getD v) v

theorem settled_of_none {puts : List (X → Option V)} {x : X} (h : ∀ put ∈ puts, put x = none) (v : V) :
    settled puts x v = v := by
  induction puts generalizing v with
  | nil => rfl
  | cons put rest ih =>
    show settled rest x ((put x).getD v) = v
    rw [h put (List.mem_cons_self ..)]
    exact ih (fun put hput => h put (List.mem_cons_of_mem _ hput)) v

/-- Nothing is put into a cell, or what it held does not matter. -/
theorem settled_cases (puts : List (X → Option V)) (x : X) :
    (∀ put ∈ puts, put x = none) ∨ ∃ u, ∀ v, settled puts x v = u := by
  induction puts with
  | nil => exact .inl (by simp)
  | cons put rest ih =>
    rcases ih with hnone | ⟨u, hu⟩
    · cases hput : put x with
      | none => exact .inl (List.forall_mem_cons.2 ⟨hput, hnone⟩)
      | some u =>
        refine .inr ⟨u, fun v => ?_⟩
        show settled rest x ((put x).getD v) = u
        rw [hput]
        exact settled_of_none hnone u
    · exact .inr ⟨u, fun v => hu _⟩

/-- What has been put before does not show once all is put. -/
theorem settled_settled {puts before : List (X → Option V)} (h : ∀ put ∈ before, put ∈ puts) (x : X) (v : V) :
    settled puts x (settled before x v) = settled puts x v := by
  rcases settled_cases puts x with hnone | ⟨u, hu⟩
  · rw [settled_of_none fun put hput => hnone put (h put hput)]
  · rw [hu, hu]

/-! ## Doing it again -/

section Again

variable (serve : (r : J.Request) → StateM σ (J.Reply r)) (failed : (r : J.Request) → J.Reply r → Prop)
  (good : σ → Prop) (cell : σ → X → V)

/-- In a good state the program ends with the reply and has put values into some cells; in a faulty run
it has or has not. The state stays good. -/
structure Puts (p : Program J α) (reply : α) (put : X → Option V) : Prop where
  ends : ∀ {s}, good s → ∃ s', Ends serve p s reply s' ∧ good s' ∧ ∀ x, cell s' x = (put x).getD (cell s x)
  faulty : ∀ {s s' b}, good s → Faulty serve failed p s b s' →
    good s' ∧ ((∀ x, cell s' x = cell s x) ∨ ∀ x, cell s' x = (put x).getD (cell s x))

variable {serve failed good cell} {handler : (r : I.Request) → Program J (I.Reply r)}
  {puts : Exchange I → X → Option V}

/-- Without faults the cells are settled by all that is asked. -/
theorem Trace.ends_settled {q : Program I α} {log : List (Exchange I)} {a : α} (ht : Trace q log a)
    (hputs : ∀ e ∈ log, Puts serve failed good cell (handler e.request) e.reply (puts e)) {s : σ} (hs : good s) :
    ∃ s', Ends serve (q.run handler) s a s' ∧ ∀ x, cell s' x = settled (log.map puts) x (cell s x) := by
  induction q generalizing log s with
  | done b =>
    obtain ⟨rfl, rfl⟩ := trace_done_iff.1 ht
    exact ⟨s, ends_done_iff.2 ⟨rfl, rfl⟩, fun x => rfl⟩
  | ask r next ih =>
    obtain ⟨reply, rest, rfl, hrest⟩ := trace_ask_iff.1 ht
    obtain ⟨hfirst, hall⟩ := List.forall_mem_cons.1 hputs
    obtain ⟨s₁, hends, hs₁, hcell⟩ := hfirst.ends hs
    obtain ⟨s₂, hends', hcell'⟩ := ih reply hrest hall hs₁
    refine ⟨s₂, ends_bind_iff.2 ⟨reply, s₁, hends, hends'⟩, fun x => ?_⟩
    rw [hcell' x, hcell x]; rfl

/-- In a faulty run the cells are settled by some of what may be asked. -/
theorem Faulty.settled {q : Program I α} {log : List (Exchange I)} {a : α}
    (hasks : q.Asks fun r => ∃ e ∈ log, e.request = r)
    (hputs : ∀ e ∈ log, Puts serve failed good cell (handler e.request) e.reply (puts e)) {s s' : σ} (hs : good s)
    (h : Faulty serve failed (q.run handler) s a s') :
    good s' ∧ ∃ made : List (Exchange I), (∀ e ∈ made, e ∈ log) ∧
      ∀ x, cell s' x = Program.settled (made.map puts) x (cell s x) := by
  induction q generalizing s with
  | done b => cases h; exact ⟨hs, [], by simp, fun x => rfl⟩
  | ask r next ih =>
    obtain ⟨⟨e, he, rfl⟩, hnext⟩ := hasks
    obtain ⟨reply, s₁, hfirst, hrest⟩ := faulty_bind
      (show Faulty serve failed ((handler e.request).bind fun reply => (next reply).run handler) s a s' from h)
    obtain ⟨hs₁, hcell⟩ := (hputs e he).faulty hs hfirst
    obtain ⟨hs', made, hmade, hcell'⟩ := ih reply (hnext reply) hs₁ hrest
    refine ⟨hs', ?_⟩
    rcases hcell with hcell | hcell
    · exact ⟨made, hmade, fun x => by rw [hcell' x, hcell x]⟩
    · exact ⟨e :: made, List.forall_mem_cons.2 ⟨he, hmade⟩, fun x => by rw [hcell' x, hcell x]; rfl⟩

/-- Doing it again after a faulty run ends as doing it once would have, and leaves the same in every
cell. -/
theorem repaired {q : Program I α} {log : List (Exchange I)} {a b : α} (ht : Trace q log a)
    (hasks : q.Asks fun r => ∃ e ∈ log, e.request = r)
    (hputs : ∀ e ∈ log, Puts serve failed good cell (handler e.request) e.reply (puts e)) {s s₁ : σ} (hs : good s)
    (h : Faulty serve failed (q.run handler) s b s₁) :
    ∃ once twice, Ends serve (q.run handler) s a once ∧ Ends serve (q.run handler) s₁ a twice ∧
      ∀ x, cell twice x = cell once x := by
  obtain ⟨hs₁, made, hmade, hcell⟩ := h.settled hasks hputs hs
  obtain ⟨once, honce, hcell₁⟩ := ht.ends_settled hputs hs
  obtain ⟨twice, htwice, hcell₂⟩ := ht.ends_settled hputs hs₁
  refine ⟨once, twice, honce, htwice, fun x => ?_⟩
  rw [hcell₂, hcell₁, hcell]
  refine settled_settled (fun put hput => ?_) x _
  obtain ⟨e, he, rfl⟩ := List.mem_map.1 hput
  exact List.mem_map_of_mem (hmade e he)

end Again

end Rollout.Program
