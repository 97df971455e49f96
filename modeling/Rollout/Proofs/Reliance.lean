/-
Programs that rely on what they are answered. Such a program asks only what is allowed as long as every answer can be
trusted (`Relies`, and `Yields` for work that may fail). What holds of the state of a server, and outlasts every
request that is allowed, then outlasts a faulty run (`Faulty.of_relies`), also of a program that others carry out
(`Faulty.of_traces`).
-/
import Rollout.Proofs.Faults

namespace Rollout.Program

variable {I J : Interface} {α β σ : Type}

/-! ## Programs that rely on their answers -/

section Relies

variable {trusted : (r : I.Request) → I.Reply r → Prop} {allowed : I.Request → Prop} {post : α → Prop}
  {post' : β → Prop}

/-- As long as it is answered as can be trusted, the program asks only what is allowed, and what it ends with is as it
should be. -/
inductive Relies (trusted : (r : I.Request) → I.Reply r → Prop) (allowed : I.Request → Prop) (post : α → Prop) :
    Program I α → Prop
  | done {a : α} : post a → Relies trusted allowed post (done a)
  | ask {r : I.Request} {next : I.Reply r → Program I α} : allowed r →
      (∀ reply, trusted r reply → Relies trusted allowed post (next reply)) → Relies trusted allowed post (ask r next)

theorem Relies.bind {p : Program I α} {f : α → Program I β} (hp : p.Relies trusted allowed post)
    (hf : ∀ a, post a → (f a).Relies trusted allowed post') : (p.bind f).Relies trusted allowed post' := by
  induction hp with
  | done ha => exact hf _ ha
  | ask hr _ ih => exact .ask hr ih

theorem Relies.mono {post₁ : α → Prop} {p : Program I α} (hp : p.Relies trusted allowed post)
    (hpost : ∀ a, post a → post₁ a) : p.Relies trusted allowed post₁ := by
  induction hp with
  | done ha => exact .done (hpost _ ha)
  | ask hr _ ih => exact .ask hr ih

end Relies

/-! ## Work that may fail and relies on its answers -/

section Yields

variable {ε : Type} {trusted : (r : I.Request) → I.Reply r → Prop} {allowed : I.Request → Prop}
  {good : α → Prop} {good' : β → Prop}

/-- The work asks only what is allowed, as long as it is answered as can be trusted, and what it succeeds with is as it
should be. -/
def Yields (trusted : (r : I.Request) → I.Reply r → Prop) (allowed : I.Request → Prop) (good : α → Prop)
    (x : ExceptT ε (Program I) α) : Prop :=
  x.run.Relies trusted allowed fun r => ∀ a, r = .ok a → good a

theorem yields_pure {a : α} (h : good a) : Yields trusted allowed good (pure a : ExceptT ε (Program I) α) :=
  .done fun _ heq => by cases heq; exact h

theorem yields_throw (e : ε) : Yields trusted allowed good (throw e : ExceptT ε (Program I) α) :=
  .done fun _ heq => by cases heq

theorem Yields.bind {x : ExceptT ε (Program I) α} {f : α → ExceptT ε (Program I) β} (hx : Yields trusted allowed good x)
    (hf : ∀ a, good a → Yields trusted allowed good' (f a)) : Yields trusted allowed good' (x >>= f) := by
  show (x.run.bind _).Relies _ _ _
  refine Relies.bind hx ?_
  rintro (e | a) h
  · exact .done fun _ heq => by cases heq
  · exact hf a (h a rfl)

theorem Yields.mono {good₁ : α → Prop} {x : ExceptT ε (Program I) α} (hx : Yields trusted allowed good x)
    (h : ∀ a, good a → good₁ a) : Yields trusted allowed good₁ x :=
  Relies.mono hx fun _ hr a ha => h a (hr a ha)

theorem yields_lift {p : Program I α} (hp : p.Relies trusted allowed good) :
    Yields trusted allowed good (ExceptT.lift p : ExceptT ε (Program I) α) :=
  Relies.bind (f := fun a => done (Except.ok a)) hp fun _ h => .done fun _ heq => by cases heq; exact h

end Yields

/-! ## Faulty runs -/

section Faults

variable {trusted : (r : I.Request) → I.Reply r → Prop} {allowed : I.Request → Prop} {good : σ → Prop}

/-- What holds of a state and outlasts every request that is allowed outlasts a faulty run, if failures can be trusted
as well. -/
theorem Faulty.of_relies {serve : (r : I.Request) → StateM σ (I.Reply r)} {failed : (r : I.Request) → I.Reply r → Prop}
    {post : α → Prop} (hfailed : ∀ r reply, failed r reply → trusted r reply)
    (hserve : ∀ r s, allowed r → good s → trusted r ((serve r).run s).1 ∧ good ((serve r).run s).2)
    {p : Program I α} (hp : p.Relies trusted allowed post) {s s' : σ} {a : α} (h : Faulty serve failed p s a s')
    (hs : good s) : good s' ∧ post a := by
  induction h with
  | done a s =>
    cases hp with
    | done ha => exact ⟨hs, ha⟩
  | @served r next s s₁ s₂ reply a hserved _ ih =>
    cases hp with
    | ask hr hnext =>
      obtain ⟨htrusted, hgood⟩ := hserve r s hr hs
      rw [hserved] at htrusted hgood
      exact ih (hnext reply htrusted) hgood
  | @refused r next s s₂ reply a hfail _ ih =>
    cases hp with
    | ask _ hnext => exact ih (hnext reply (hfailed r reply hfail)) hs
  | @lost r next s s₁ s₂ reply answer a hfail hserved _ ih =>
    cases hp with
    | ask hr hnext =>
      obtain ⟨-, hgood⟩ := hserve r s hr hs
      rw [hserved] at hgood
      exact ih (hnext reply (hfailed r reply hfail)) hgood

/-- A faulty run of a program that is carried out by others follows one of its traces. -/
theorem Faulty.exists_trace {serve : (r : J.Request) → StateM σ (J.Reply r)}
    {failed : (r : J.Request) → J.Reply r → Prop} {handler : (r : I.Request) → Program J (I.Reply r)}
    {p : Program I α} {s s' : σ} {a : α} (h : Faulty serve failed (p.run handler) s a s') : ∃ log, Trace p log a := by
  induction p generalizing s with
  | done b =>
    cases h
    exact ⟨[], trace_done_iff.2 ⟨rfl, rfl⟩⟩
  | ask r next ih =>
    obtain ⟨reply, s₁, -, hrest⟩ := faulty_bind
      (show Faulty serve failed ((handler r).bind fun reply => (next reply).run handler) s a s' from h)
    obtain ⟨log, htrace⟩ := ih reply hrest
    exact ⟨_, trace_ask_iff.2 ⟨reply, log, rfl, htrace⟩⟩

/-- The same where others carry out what is asked: it has to be allowed on the way to the end that the run comes to, as
long as what was answered before can be trusted. -/
theorem Faulty.of_traces {serve : (r : J.Request) → StateM σ (J.Reply r)} {failed : (r : J.Request) → J.Reply r → Prop}
    {handler : (r : I.Request) → Program J (I.Reply r)}
    (hhandler : ∀ r s s' reply, allowed r → good s → Faulty serve failed (handler r) s reply s' →
      good s' ∧ trusted r reply)
    {p : Program I α} {s s' : σ} {a : α} (h : Faulty serve failed (p.run handler) s a s') (hs : good s)
    (hallowed : ∀ before e after, Trace p (before ++ e :: after) a → (∀ x ∈ before, trusted x.request x.reply) →
      allowed e.request) : good s' := by
  induction p generalizing s with
  | done b =>
    cases h
    exact hs
  | ask r next ih =>
    obtain ⟨reply, s₁, hfirst, hrest⟩ := faulty_bind
      (show Faulty serve failed ((handler r).bind fun reply => (next reply).run handler) s a s' from h)
    have hnext : ∀ {log}, Trace (next reply) log a → Trace (ask r next) (⟨r, reply⟩ :: log) a := fun htrace =>
      trace_ask_iff.2 ⟨reply, _, rfl, htrace⟩
    obtain ⟨log, htrace⟩ := hrest.exists_trace
    obtain ⟨hs₁, htrusted⟩ := hhandler r s s₁ reply (hallowed [] ⟨r, reply⟩ log (hnext htrace) (by simp)) hs hfirst
    exact ih reply hrest hs₁ fun before e after htrace hbefore =>
      hallowed (⟨r, reply⟩ :: before) e after (hnext htrace) (List.forall_mem_cons.2 ⟨htrusted, hbefore⟩)

end Faults

end Rollout.Program
