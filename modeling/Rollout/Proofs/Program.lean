/-
What programs do, whatever answers them: `After` says as which program another goes on once it
has been answered as a log says, `Trace` that it comes to its end so, `Carried` that each of its
requests is carried out by a program below. A log is split where programs are put one behind the
other (`trace_bind_iff`), and a trace of a carried program is one of the program below
(`trace_run_iff`). `answered` is the result where every request has one fixed answer.
-/
import Rollout.Program
import Mathlib.Tactic

namespace Rollout

/-- A request and what it was answered with. -/
structure Exchange (I : Interface) where
  request : I.Request
  reply : I.Reply request

namespace Program

variable {I J : Interface} {α β σ : Type}

/-! ## Fixed answers -/

/-- The result of a program each of whose requests has one answer. -/
def answered (answer : (r : I.Request) → I.Reply r) (p : Program I α) : α := p.run (m := Id) answer

section Answered

variable (answer : (r : I.Request) → I.Reply r)

@[simp] theorem answered_done (a : α) : (done a : Program I α).answered answer = a := rfl

@[simp] theorem answered_ask (r : I.Request) (next : I.Reply r → Program I α) :
    (ask r next).answered answer = (next (answer r)).answered answer := rfl

@[simp] theorem answered_bind (p : Program I α) (f : α → Program I β) :
    (p.bind f).answered answer = (f (p.answered answer)).answered answer := by
  induction p with
  | done a => rfl
  | ask r next ih => exact ih (answer r)

@[simp] theorem answered_request (r : I.Request) : (request r).answered answer = answer r := rfl

end Answered

/-! ## Answers one by one -/

/-- Answered as the log says, the first program goes on as the second. -/
inductive After : Program I α → List (Exchange I) → Program I α → Prop
  | nil (p : Program I α) : After p [] p
  | cons {r : I.Request} {next : I.Reply r → Program I α} {log : List (Exchange I)} {q : Program I α}
      (reply : I.Reply r) : After (next reply) log q → After (ask r next) (⟨r, reply⟩ :: log) q

/-- Answered as the log says, the program ends with the result. -/
def Trace (p : Program I α) (log : List (Exchange I)) (a : α) : Prop := After p log (done a)

theorem after_done_iff {a : α} {log : List (Exchange I)} {q : Program I α} :
    After (done a) log q ↔ log = [] ∧ q = done a := by
  constructor
  · intro h; cases h; exact ⟨rfl, rfl⟩
  · rintro ⟨rfl, rfl⟩; exact .nil _

theorem after_nil_iff {p q : Program I α} : After p [] q ↔ q = p := by
  constructor
  · intro h; cases h; rfl
  · rintro rfl; exact .nil _

theorem after_ask_iff {r : I.Request} {next : I.Reply r → Program I α} {log : List (Exchange I)}
    {q : Program I α} :
    After (ask r next) log q ↔ log = [] ∧ q = ask r next ∨
      ∃ reply rest, log = ⟨r, reply⟩ :: rest ∧ After (next reply) rest q := by
  constructor
  · intro h
    cases h with
    | nil => exact .inl ⟨rfl, rfl⟩
    | cons reply h => exact .inr ⟨reply, _, rfl, h⟩
  · rintro (⟨rfl, rfl⟩ | ⟨reply, rest, rfl, h⟩)
    · exact .nil _
    · exact .cons reply h

@[simp] theorem trace_done_iff {a b : α} {log : List (Exchange I)} :
    Trace (done a) log b ↔ log = [] ∧ b = a := by
  unfold Trace; rw [after_done_iff]; simp

@[simp] theorem trace_ask_iff {r : I.Request} {next : I.Reply r → Program I α}
    {log : List (Exchange I)} {a : α} :
    Trace (ask r next) log a ↔ ∃ reply rest, log = ⟨r, reply⟩ :: rest ∧ Trace (next reply) rest a := by
  unfold Trace; rw [after_ask_iff]; simp

@[simp] theorem trace_request_iff {r : I.Request} {log : List (Exchange I)} {reply : I.Reply r} :
    Trace (request r) log reply ↔ log = [⟨r, reply⟩] := by
  unfold request; simp

/-- A program that has been answered goes on from where it is. -/
theorem After.trans {p q s : Program I α} {l₁ l₂ : List (Exchange I)} (h₁ : After p l₁ q)
    (h₂ : After q l₂ s) : After p (l₁ ++ l₂) s := by
  induction h₁ with
  | nil => exact h₂
  | cons reply _ ih => exact .cons reply (ih h₂)

/-- One more answer to a program that asks. -/
theorem After.snoc {p : Program I α} {log : List (Exchange I)} {r : I.Request}
    {next : I.Reply r → Program I α} (h : After p log (ask r next)) (reply : I.Reply r) :
    After p (log ++ [⟨r, reply⟩]) (next reply) :=
  h.trans (.cons reply (.nil _))

/-- What is answered in two parts leads first to a program that is left, and then on from there. -/
theorem after_append_iff {p q : Program I α} {l₁ l₂ : List (Exchange I)} :
    After p (l₁ ++ l₂) q ↔ ∃ left, After p l₁ left ∧ After left l₂ q := by
  refine ⟨fun h => ?_, fun ⟨_, h₁, h₂⟩ => h₁.trans h₂⟩
  induction l₁ generalizing p with
  | nil => exact ⟨p, .nil p, h⟩
  | cons e rest ih =>
    cases h with
    | cons reply h =>
      obtain ⟨left, h₁, h₂⟩ := ih h
      exact ⟨left, .cons reply h₁, h₂⟩

/-- A program that comes to its end is answered nothing more. -/
theorem Trace.eq_of_prefix {p : Program I α} {l₁ l₂ log : List (Exchange I)} {a₁ a₂ : α} (h₁ : Trace p l₁ a₁)
    (h₂ : Trace p l₂ a₂) (hl₁ : l₁ <+: log) (hl₂ : l₂ <+: log) : l₁ = l₂ ∧ a₁ = a₂ := by
  induction p generalizing l₁ l₂ log with
  | done a =>
    obtain ⟨rfl, rfl⟩ := trace_done_iff.1 h₁
    obtain ⟨rfl, rfl⟩ := trace_done_iff.1 h₂
    exact ⟨rfl, rfl⟩
  | ask r next ih =>
    obtain ⟨reply₁, rest₁, rfl, hnext₁⟩ := trace_ask_iff.1 h₁
    obtain ⟨reply₂, rest₂, rfl, hnext₂⟩ := trace_ask_iff.1 h₂
    obtain ⟨log, rfl, hrest₁⟩ := List.cons_prefix_iff.1 hl₁
    obtain ⟨heq, hrest₂⟩ := List.cons_prefix_cons.1 hl₂
    cases heq
    obtain ⟨rfl, rfl⟩ := ih _ hnext₁ hnext₂ hrest₁ hrest₂
    exact ⟨rfl, rfl⟩

/-- A program comes to an end where whatever it asks can be answered. -/
theorem exists_trace (hreplies : ∀ r : I.Request, Nonempty (I.Reply r)) (p : Program I α) : ∃ log a, Trace p log a := by
  induction p with
  | done a => exact ⟨[], a, trace_done_iff.2 ⟨rfl, rfl⟩⟩
  | ask r next ih =>
    obtain ⟨reply⟩ := hreplies r
    obtain ⟨log, a, h⟩ := ih reply
    exact ⟨_, a, trace_ask_iff.2 ⟨reply, log, rfl, h⟩⟩

/-- A log of programs one behind the other is cut where the first has ended. -/
theorem trace_bind_iff {p : Program I α} {f : α → Program I β} {log : List (Exchange I)} {b : β} :
    Trace (p.bind f) log b ↔ ∃ l₁ l₂ a, log = l₁ ++ l₂ ∧ Trace p l₁ a ∧ Trace (f a) l₂ b := by
  induction p generalizing log with
  | done a => simp
  | ask r next ih =>
    simp only [ask_bind, trace_ask_iff, ih]
    constructor
    · rintro ⟨reply, rest, rfl, l₁, l₂, a, rfl, h₁, h₂⟩
      exact ⟨⟨r, reply⟩ :: l₁, l₂, a, rfl, ⟨reply, l₁, rfl, h₁⟩, h₂⟩
    · rintro ⟨_, l₂, a, rfl, ⟨reply, l₁, rfl, h₁⟩, h₂⟩
      exact ⟨reply, l₁ ++ l₂, rfl, l₁, l₂, a, rfl, h₁, h₂⟩

/-- Programs one behind the other have been answered a part of the first, or all of it and then a part of the
second. -/
theorem after_bind_iff {p : Program I α} {f : α → Program I β} {log : List (Exchange I)} {q : Program I β} :
    After (p.bind f) log q ↔ (∃ left, After p log left ∧ q = left.bind f) ∨
      ∃ l₁ l₂ a, log = l₁ ++ l₂ ∧ Trace p l₁ a ∧ After (f a) l₂ q := by
  induction p generalizing log with
  | done a =>
    constructor
    · exact fun h => .inr ⟨[], log, a, rfl, .nil _, h⟩
    · rintro (⟨left, hleft, rfl⟩ | ⟨l₁, l₂, a', rfl, hdone, h⟩)
      · obtain ⟨rfl, rfl⟩ := after_done_iff.1 hleft
        exact .nil _
      · obtain ⟨rfl, rfl⟩ := trace_done_iff.1 hdone
        exact h
  | ask r next ih =>
    simp only [ask_bind, after_ask_iff, trace_ask_iff, ih]
    constructor
    · rintro (⟨rfl, rfl⟩ | ⟨reply, rest, rfl, ⟨left, hleft, rfl⟩ | ⟨l₁, l₂, a, rfl, hend, h⟩⟩)
      · exact .inl ⟨_, .inl ⟨rfl, rfl⟩, rfl⟩
      · exact .inl ⟨left, .inr ⟨reply, rest, rfl, hleft⟩, rfl⟩
      · exact .inr ⟨_, l₂, a, rfl, ⟨reply, l₁, rfl, hend⟩, h⟩
    · rintro (⟨_, ⟨rfl, rfl⟩ | ⟨reply, rest, rfl, hleft⟩, rfl⟩ | ⟨_, l₂, a, rfl, ⟨reply, l₁, rfl, hend⟩, h⟩)
      · exact .inl ⟨rfl, rfl⟩
      · exact .inr ⟨reply, rest, rfl, .inl ⟨_, hleft, rfl⟩⟩
      · exact .inr ⟨reply, _, rfl, .inr ⟨l₁, l₂, a, rfl, hend, h⟩⟩

/-! ## What a program may ask -/

/-- Every request that the program can come to make, whatever it is answered, is one of these. -/
def Asks (allowed : I.Request → Prop) : Program I α → Prop
  | .done _ => True
  | .ask r next => allowed r ∧ ∀ reply, (next reply).Asks allowed

theorem Asks.bind {allowed : I.Request → Prop} {p : Program I α} {f : α → Program I β}
    (hp : p.Asks allowed) (hf : ∀ a, (f a).Asks allowed) : (p.bind f).Asks allowed := by
  induction p with
  | done a => exact hf a
  | ask r next ih => exact ⟨hp.1, fun reply => ih reply (hp.2 reply)⟩

theorem Asks.request {allowed : I.Request → Prop} {r : I.Request} (h : allowed r) :
    (request r).Asks allowed := ⟨h, fun _ => trivial⟩

theorem Asks.of_mem {allowed : I.Request → Prop} {p q : Program I α} {log : List (Exchange I)}
    (h : p.Asks allowed) (ha : After p log q) : ∀ e ∈ log, allowed e.request := by
  induction ha with
  | nil => simp
  | cons reply _ ih =>
    intro e he
    rcases List.mem_cons.1 he with rfl | he
    · exact h.1
    · exact ih (h.2 reply) e he

theorem Asks.after {allowed : I.Request → Prop} {p q : Program I α} {log : List (Exchange I)} (h : p.Asks allowed)
    (ha : After p log q) : q.Asks allowed := by
  induction ha with
  | nil => exact h
  | cons reply _ ih => exact ih (h.2 reply)

/-- A request that the first of two programs never makes is made by the second. -/
theorem After.of_bind {allowed : I.Request → Prop} {p : Program I α} {f : α → Program I β} {log : List (Exchange I)}
    {r : I.Request} {next : I.Reply r → Program I β} (h : After (p.bind f) log (ask r next)) (hp : p.Asks allowed)
    (hr : ¬ allowed r) : ∃ l₁ l₂ a, log = l₁ ++ l₂ ∧ Trace p l₁ a ∧ After (f a) l₂ (ask r next) := by
  rcases after_bind_iff.1 h with ⟨left, hleft, hask⟩ | hsecond
  · cases left with
    | done a => exact ⟨log, [], a, (List.append_nil log).symm, hleft, hask ▸ .nil _⟩
    | ask r' next' =>
      cases hask
      exact absurd (hp.after hleft).1 hr
  · exact hsecond

theorem Asks.mono {allowed allowed' : I.Request → Prop} {p : Program I α} (h : p.Asks allowed)
    (hallowed : ∀ r, allowed r → allowed' r) : p.Asks allowed' := by
  induction p with
  | done a => trivial
  | ask r next ih => exact ⟨hallowed r h.1, fun reply => ih reply (h.2 reply)⟩

/-- Whatever it is answered, the program asks only what is allowed, and what it ends with is as it
should be. -/
def Within (allowed : I.Request → Prop) (post : α → Prop) : Program I α → Prop
  | .done a => post a
  | .ask r next => allowed r ∧ ∀ reply, (next reply).Within allowed post

theorem Within.bind {allowed : I.Request → Prop} {post : α → Prop} {post' : β → Prop} {p : Program I α}
    {f : α → Program I β} (hp : p.Within allowed post) (hf : ∀ a, post a → (f a).Within allowed post') :
    (p.bind f).Within allowed post' := by
  induction p with
  | done a => exact hf a hp
  | ask r next ih => exact ⟨hp.1, fun reply => ih reply (hp.2 reply)⟩

theorem Within.mono {allowed allowed' : I.Request → Prop} {post post' : α → Prop} {p : Program I α}
    (hp : p.Within allowed post) (hallowed : ∀ r, allowed r → allowed' r) (hpost : ∀ a, post a → post' a) :
    p.Within allowed' post' := by
  induction p with
  | done a => exact hpost a hp
  | ask r next ih => exact ⟨hallowed r hp.1, fun reply => ih reply (hp.2 reply)⟩

theorem Asks.within {allowed : I.Request → Prop} {p : Program I α} (h : p.Asks allowed) :
    p.Within allowed fun _ => True := by
  induction p with
  | done a => trivial
  | ask r next ih => exact ⟨h.1, fun reply => ih reply (h.2 reply)⟩

theorem Within.asks {allowed : I.Request → Prop} {post : α → Prop} {p : Program I α} (h : p.Within allowed post) :
    p.Asks allowed := by
  induction p with
  | done a => trivial
  | ask r next ih => exact ⟨h.1, fun reply => ih reply (h.2 reply)⟩

theorem Within.of_trace {allowed : I.Request → Prop} {post : α → Prop} {p : Program I α} {log : List (Exchange I)}
    {a : α} (h : p.Within allowed post) (ht : Trace p log a) : (∀ e ∈ log, allowed e.request) ∧ post a := by
  induction p generalizing log with
  | done b =>
    obtain ⟨rfl, rfl⟩ := trace_done_iff.1 ht
    exact ⟨by simp, h⟩
  | ask r next ih =>
    obtain ⟨reply, rest, rfl, hrest⟩ := trace_ask_iff.1 ht
    obtain ⟨hlog, ha⟩ := ih reply (h.2 reply) hrest
    exact ⟨List.forall_mem_cons.2 ⟨h.1, hlog⟩, ha⟩

/-! ## Programs carried out by others -/

/-- A program from a state: `upper` is what it asks, `lower` what the handler asks to answer
that, and the last two are its result and the state it leaves. -/
inductive Carried (handler : (r : I.Request) → StateT σ (Program J) (I.Reply r)) :
    Program I α → σ → List (Exchange I) → List (Exchange J) → α → σ → Prop
  | done (a : α) (s : σ) : Carried handler (done a) s [] [] a s
  | ask {r : I.Request} {next : I.Reply r → Program I α} {s s₁ s₂ : σ} {upper : List (Exchange I)}
      {lower₁ lower₂ : List (Exchange J)} {reply : I.Reply r} {a : α} :
      Trace ((handler r).run s) lower₁ (reply, s₁) → Carried handler (next reply) s₁ upper lower₂ a s₂ →
      Carried handler (ask r next) s (⟨r, reply⟩ :: upper) (lower₁ ++ lower₂) a s₂

section Carried

variable {handler : (r : I.Request) → StateT σ (Program J) (I.Reply r)}

@[simp] theorem carried_done_iff {a b : α} {s s' : σ} {upper : List (Exchange I)}
    {lower : List (Exchange J)} :
    Carried handler (done a) s upper lower b s' ↔ upper = [] ∧ lower = [] ∧ b = a ∧ s' = s := by
  constructor
  · intro h; cases h; exact ⟨rfl, rfl, rfl, rfl⟩
  · rintro ⟨rfl, rfl, rfl, rfl⟩; exact .done _ _

theorem carried_ask_iff {r : I.Request} {next : I.Reply r → Program I α} {s s' : σ} {a : α}
    {upper : List (Exchange I)} {lower : List (Exchange J)} :
    Carried handler (ask r next) s upper lower a s' ↔
      ∃ reply s₁ upper' l₁ l₂, upper = ⟨r, reply⟩ :: upper' ∧ lower = l₁ ++ l₂ ∧
        Trace ((handler r).run s) l₁ (reply, s₁) ∧ Carried handler (next reply) s₁ upper' l₂ a s' := by
  constructor
  · intro h
    cases h with
    | ask ht hc => exact ⟨_, _, _, _, _, rfl, rfl, ht, hc⟩
  · rintro ⟨reply, s₁, upper', l₁, l₂, rfl, rfl, ht, hc⟩; exact .ask ht hc

/-- The logs of a carried program are cut like those of any. -/
theorem carried_bind_iff {p : Program I α} {f : α → Program I β} {s s' : σ} {b : β}
    {upper : List (Exchange I)} {lower : List (Exchange J)} :
    Carried handler (p.bind f) s upper lower b s' ↔
      ∃ u₁ u₂ l₁ l₂ a s₁, upper = u₁ ++ u₂ ∧ lower = l₁ ++ l₂ ∧
        Carried handler p s u₁ l₁ a s₁ ∧ Carried handler (f a) s₁ u₂ l₂ b s' := by
  induction p generalizing s upper lower with
  | done a => simp
  | ask r next ih =>
    simp only [ask_bind, carried_ask_iff, ih]
    constructor
    · rintro ⟨reply, s₁, _, l₁, _, rfl, rfl, ht, u₁, u₂, l₂, l₃, a, s₂, rfl, rfl, h₁, h₂⟩
      exact ⟨⟨r, reply⟩ :: u₁, u₂, l₁ ++ l₂, l₃, a, s₂, rfl, by simp,
        ⟨reply, s₁, u₁, l₁, l₂, rfl, rfl, ht, h₁⟩, h₂⟩
    · rintro ⟨_, u₂, _, l₃, a, s₂, rfl, rfl, ⟨reply, s₁, u₁, l₁, l₂, rfl, rfl, ht, h₁⟩, h₂⟩
      exact ⟨reply, s₁, u₁ ++ u₂, l₁, l₂ ++ l₃, rfl, by simp, ht, u₁, u₂, l₂, l₃, a, s₂, rfl, rfl, h₁, h₂⟩

/-- The traces of a program over its handler are those of the program that the handler makes of
it. -/
theorem trace_run_iff {p : Program I α} {s s' : σ} {log : List (Exchange J)} {a : α} :
    Trace ((p.run handler).run s) log (a, s') ↔ ∃ upper, Carried handler p s upper log a s' := by
  induction p generalizing s log with
  | done b => simp [run]
  | ask r next ih =>
    -- first the handler's program for the request, then the run of what is left
    show Trace (((handler r).run s).bind fun x => ((next x.1).run handler).run x.2) log (a, s') ↔ _
    rw [trace_bind_iff]
    constructor
    · rintro ⟨l₁, l₂, ⟨reply, s₁⟩, rfl, h₁, h₂⟩
      obtain ⟨upper, h⟩ := (ih reply).1 h₂
      exact ⟨_, .ask h₁ h⟩
    · rintro ⟨upper, h⟩
      obtain ⟨reply, s₁, upper', l₁, l₂, rfl, rfl, ht, hc⟩ := carried_ask_iff.1 h
      exact ⟨l₁, l₂, (reply, s₁), rfl, ht, (ih reply).2 ⟨upper', hc⟩⟩

end Carried

end Program

end Rollout
