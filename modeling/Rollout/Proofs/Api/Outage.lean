/-
What an outage of the server does to a program. `Program.Relays` says that after an answer that is hit by an outage
the program ends as it should for that, whatever it is answered next; `Program.Accounts` lets it also pass over the
outage, if it can still come to every good end that it could come to. Main statement: `Api.carry_relays`, what a
controller asks of workloads and the store ends with an error after an outage, and another try can help unless the
server was asked which kinds it knows.
-/
import Rollout.Proofs.Faults
import Rollout.Api.Client

namespace Rollout

namespace Program

variable {I J : Interface} {α β ε κ : Type}

/-! ## Ends -/

/-- Whatever it is answered, what the program ends with is as it should be. -/
abbrev Always (post : α → Prop) (p : Program I α) : Prop := p.Within (fun _ => True) post

theorem always_true (p : Program I α) : p.Always fun _ => True := by
  induction p with
  | done a => trivial
  | ask r next ih => exact ⟨trivial, ih⟩

/-- How a program always ends does not depend on how it is carried out. -/
theorem always_run {handler : (r : I.Request) → Program J (I.Reply r)} {post : α → Prop} {p : Program I α}
    (h : p.Always post) : (p.run handler : Program J α).Always post := by
  induction p with
  | done a => exact h
  | ask r next ih => exact Within.bind (always_true _) fun reply _ => ih reply (h.2 reply)

/-- The program can end with the result. -/
def CanEnd (p : Program I α) (a : α) : Prop := ∃ log, Trace p log a

theorem canEnd_done_iff {a b : α} : CanEnd (done a : Program I α) b ↔ b = a := by
  unfold CanEnd
  simp

theorem canEnd_bind_iff {p : Program I α} {f : α → Program I β} {b : β} :
    CanEnd (p.bind f) b ↔ ∃ a, CanEnd p a ∧ CanEnd (f a) b := by
  unfold CanEnd
  simp only [trace_bind_iff]
  constructor
  · rintro ⟨_, l₁, l₂, a, -, h₁, h₂⟩
    exact ⟨a, ⟨l₁, h₁⟩, l₂, h₂⟩
  · rintro ⟨a, ⟨l₁, h₁⟩, l₂, h₂⟩
    exact ⟨_, l₁, l₂, a, rfl, h₁, h₂⟩

theorem Within.of_canEnd {post : α → Prop} {p : Program I α} (h : p.Always post) {a : α} (ha : CanEnd p a) :
    post a := by
  obtain ⟨log, ht⟩ := ha
  exact (h.of_trace ht).2

/-! ## Relaying -/

section Relays

variable {hit : κ → (r : I.Request) → I.Reply r → Prop} {post : κ → α → Prop} {post' : κ → β → Prop}

/-- A program that is answered by a hit ends as it should for that. -/
inductive Relays (hit : κ → (r : I.Request) → I.Reply r → Prop) (post : κ → α → Prop) : Program I α → Prop
  | done (a : α) : Relays hit post (done a)
  | ask {r : I.Request} {next : I.Reply r → Program I α} :
      (∀ reply x, hit x r reply → (next reply).Always (post x)) → (∀ reply, Relays hit post (next reply)) →
      Relays hit post (ask r next)

theorem Relays.bind {p : Program I α} {f : α → Program I β} (hp : p.Relays hit post)
    (hpass : ∀ x a, post x a → (f a).Always (post' x)) (hf : ∀ a, (f a).Relays hit post') :
    (p.bind f).Relays hit post' := by
  induction hp with
  | done a => exact hf a
  | ask hhit _ ih => exact .ask (fun reply x hx => Within.bind (hhit reply x hx) fun a => hpass x a) ih

/-- A program whose requests are relayed relays what hits these. -/
theorem Relays.run {hit' : κ → (r : J.Request) → J.Reply r → Prop}
    {handler : (r : I.Request) → Program J (I.Reply r)} (hhandler : ∀ r, (handler r).Relays hit' (hit · r))
    {p : Program I α} (hp : p.Relays hit post) : (p.run handler : Program J α).Relays hit' post := by
  induction hp with
  | done a => exact .done a
  | ask hhit _ ih => exact Relays.bind (hhandler _) (fun x reply hx => always_run (hhit reply x hx)) ih

theorem Relays.of_after {p : Program I α} (hp : p.Relays hit post) {log : List (Exchange I)} {r : I.Request}
    {next : I.Reply r → Program I α} (ha : After p log (Program.ask r next)) {x : κ} {reply : I.Reply r}
    (hx : hit x r reply) :
    (next reply).Always (post x) := by
  generalize hq : Program.ask r next = q at ha
  induction ha with
  | nil =>
    subst hq
    cases hp with
    | ask hhit _ => exact hhit reply x hx
  | cons reply' _ ih =>
    cases hp with
    | ask _ hnext => exact ih (hnext reply') hq

/-- Where every end is as it should be for a hit, all is relayed. -/
theorem relays_any (hany : ∀ x a, post x a) (p : Program I α) : p.Relays hit post := by
  induction p with
  | done a => exact .done a
  | ask r next ih =>
    exact .ask (fun reply x _ => Within.mono (always_true _) (fun _ h => h) fun a _ => hany x a) ih

/-! ## Passing over -/

/-- A program that is answered by a hit ends as it should for that, or can still come to every good end that it could
come to before. -/
inductive Accounts (hit : κ → (r : I.Request) → I.Reply r → Prop) (good : α → Prop) (post : κ → α → Prop) :
    Program I α → Prop
  | done (a : α) : Accounts hit good post (done a)
  | ask {r : I.Request} {next : I.Reply r → Program I α} :
      (∀ reply x, hit x r reply → (next reply).Always (post x) ∨
        ∀ a, good a → CanEnd (ask r next) a → CanEnd (next reply) a) →
      (∀ reply, Accounts hit good post (next reply)) → Accounts hit good post (ask r next)

variable {good : α → Prop} {good' : β → Prop}

theorem Relays.accounts {p : Program I α} (hp : p.Relays hit post) : p.Accounts hit good post := by
  induction hp with
  | done a => exact .done a
  | ask hhit _ ih => exact .ask (fun reply x hx => .inl (hhit reply x hx)) ih

/-- Where there is no good end to come to, none is lost. -/
theorem accounts_of_never {p : Program I α} (h : p.Always fun a => ¬ good a) : p.Accounts hit good post := by
  induction p with
  | done a => exact .done a
  | ask r next ih =>
    refine .ask (fun reply x _ => .inr fun a hgood hcan => ?_) fun reply => ih reply (h.2 reply)
    exact absurd hgood (h.of_canEnd hcan)

theorem Accounts.bind {p : Program I α} {f : α → Program I β} (hp : p.Accounts hit good post)
    (hbad : ∀ a, ¬ good a → (f a).Always fun b => ¬ good' b) (hpass : ∀ x a, post x a → (f a).Always (post' x))
    (hf : ∀ a, (f a).Accounts hit good' post') : (p.bind f).Accounts hit good' post' := by
  induction hp with
  | done a => exact hf a
  | ask hhit _ ih =>
    refine .ask (fun reply x hx => ?_) ih
    rcases hhit reply x hx with hends | hspared
    · exact .inl (Within.bind hends fun a => hpass x a)
    · refine .inr fun b hgood hcan => ?_
      obtain ⟨a, ha, hb⟩ := canEnd_bind_iff.1 (show CanEnd ((Program.ask _ _).bind f) b from hcan)
      have hgood : good a := by
        by_contra hnot
        exact (hbad a hnot).of_canEnd hb hgood
      exact canEnd_bind_iff.2 ⟨a, hspared a hgood ha, hb⟩

theorem Accounts.of_after {p : Program I α} (hp : p.Accounts hit good post) {log : List (Exchange I)} {r : I.Request}
    {next : I.Reply r → Program I α} (ha : After p log (Program.ask r next)) {x : κ} {reply : I.Reply r}
    (hx : hit x r reply) :
    (next reply).Always (post x) ∨ ∀ a, good a → CanEnd (Program.ask r next) a → CanEnd (next reply) a := by
  generalize hq : Program.ask r next = q at ha
  induction ha with
  | nil =>
    subst hq
    cases hp with
    | ask hhit _ => exact hhit reply x hx
  | cons reply' _ ih =>
    cases hp with
    | ask _ hnext => exact ih (hnext reply') hq

end Relays

/-! ### Work that may fail -/

/-- The work has failed, with an error that is as it should be. -/
def Errs (cause : κ → ε → Prop) (x : κ) (result : Except ε α) : Prop := ∃ e, result = .error e ∧ cause x e

section Except

variable {hit : κ → (r : I.Request) → I.Reply r → Prop} {cause : κ → ε → Prop}

theorem Relays.bind_except {x : ExceptT ε (Program I) α} {f : α → ExceptT ε (Program I) β}
    (hx : x.run.Relays hit (Errs cause)) (hf : ∀ a, (f a).run.Relays hit (Errs cause)) :
    (x >>= f).run.Relays hit (Errs cause) := by
  refine Relays.bind hx ?_ fun result => ?_
  · rintro y _ ⟨e, rfl, he⟩
    exact ⟨e, rfl, he⟩
  · cases result with
    | error e => exact .done _
    | ok a => exact hf a

end Except

end Program

open Program

/-! ## Outages -/

/-- The server answers that it is not able to. -/
def ApiFailure.Outage : ApiFailure → Prop
  | .status code _ => 500 ≤ code ∧ code < 600
  | .unreadable => False

namespace Api

/-- The server is asked which kinds it knows. -/
def Request.isDiscovery : Request → Bool
  | .kinds _ => true
  | _ => false

/-- The answer to a request is that the server is not able to. -/
def Request.Refused : (r : Request) → Reply r → Prop
  | .kinds _, reply => ∃ failure, reply = .error failure ∧ failure.Outage
  | .get _, reply => ∃ failure, reply = .error failure ∧ failure.Outage
  | .revisions _ _, reply => ∃ failure, reply = .error failure ∧ failure.Outage
  | .patch _ _, reply => ∃ failure, reply = .error failure ∧ failure.Outage
  | _, _ => False

/-- An outage, when kinds are asked for or else. -/
def Hit (discovery : Bool) (r : Request) (reply : Reply r) : Prop := r.isDiscovery = discovery ∧ r.Refused reply

end Api

/-- What is left of an outage in a failure. -/
def ApiFailure.Reflects (asked discovery : Bool) (f : ApiFailure) : Prop := asked = discovery ∧ f.Outage

/-- An error of access after an outage: another try can help unless kinds were asked for, and the workload is not
taken for missing. -/
def AccessError.Reflects (discovery : Bool) (e : AccessError) : Prop :=
  e.isNotFound = false ∧ e.isRetriable = !discovery

theorem ApiFailure.Outage.reflects {failure : ApiFailure} (h : failure.Outage) :
    AccessError.Reflects false (.api failure) := by
  cases failure with
  | unreadable => exact h.elim
  | status code reason =>
    have hcode : code ≠ 404 := by
      rintro rfl
      exact absurd h.1 (by decide)
    exact ⟨by simpa [AccessError.isNotFound] using hcode, by simpa [AccessError.isRetriable] using hcode⟩

/-- An error of the store after an outage: the server's own. -/
def StoreError.Reflects (discovery : Bool) (e : StoreError) : Prop := discovery = false ∧ ∃ failure, e = .api failure

/-- The baseline that the canary refers to could not be read. -/
def ControllerError.NamesSource (e : ControllerError) : Prop :=
  ∃ source err, e = .sourceNotFound (.unreadable source err)

/-- An error of a controller after an outage: another try can help unless kinds were asked for, or it was the
baseline that the canary refers to. -/
def ControllerError.Reflects (discovery : Bool) (e : ControllerError) : Prop :=
  e.isRetriable = true ↔ discovery = false ∧ ¬ e.NamesSource

/-- The error of a controller behind an error of routing. -/
def RouterError.source? : RouterError → Option ControllerError
  | .scale _ _ _ _ source => some source
  | .controller error => some error
  | _ => none

/-- An error of routing after an outage: as that of the controller behind it, and else another try can help. -/
def RouterError.Reflects (discovery : Bool) (e : RouterError) : Prop :=
  match e.source? with
  | some source => source.Reflects discovery
  | none => discovery = false

/-- The answer of a request to the cluster is due to an outage. An answer about routes may be, whatever it is. -/
def Cluster.Hit (discovery : Bool) : (r : Cluster.Request) → Cluster.Reply r → Prop
  | .workload _, reply => Errs AccessError.Reflects discovery reply
  | .revisions _ _, reply => Errs AccessError.Reflects discovery reply
  | .change _ _, reply => Errs AccessError.Reflects discovery reply
  | .scale _ _, reply => Errs AccessError.Reflects discovery reply
  | .canary _ _, reply => Errs StoreError.Reflects discovery reply
  | .writeStatus _ _, reply => Errs StoreError.Reflects discovery reply
  | .reconcileRoutes _, _ => True
  | .setRoutes _ _, _ => True
  | .getRoutes _, _ => True
  | .finalizeRoutes _, _ => True
  | _, _ => False

namespace Api

variable {α : Type}

/-! ## Requests -/

theorem kinds_relays (apiVersion : String) : (kinds apiVersion).Relays Hit (Errs (ApiFailure.Reflects true)) := by
  unfold kinds
  cases kindsTarget? apiVersion with
  | none => exact .done _
  | some sent =>
    refine .ask ?_ fun _ => .done _
    rintro reply discovery ⟨hasked, failure, hreply, hout⟩
    exact ⟨failure, hreply, hasked, hout⟩

theorem get_relays (decode : Json → Option α) (a : Address) :
    (get decode a).Relays Hit (Errs (ApiFailure.Reflects false)) := by
  unfold get
  cases objectTarget? a .whole with
  | none => exact .done _
  | some sent =>
    refine .ask ?_ fun reply => ?_
    · rintro _ discovery ⟨hasked, failure, rfl, hout⟩
      exact ⟨failure, rfl, hasked, hout⟩
    · cases reply <;> exact .done _

theorem patch_relays (decode : Json → Option α) (a : Address) (part : Part) (body : Json) :
    (patch decode a part body).Relays Hit (Errs (ApiFailure.Reflects false)) := by
  unfold patch
  cases objectTarget? a part with
  | none => exact .done _
  | some sent =>
    cases body.resent? with
    | none => exact .done _
    | some body =>
      refine .ask ?_ fun reply => ?_
      · rintro _ discovery ⟨hasked, failure, rfl, hout⟩
        exact ⟨failure, rfl, hasked, hout⟩
      · cases reply <;> exact .done _

/-! ### Workloads -/

theorem resolve_relays (ref : WorkloadRef) : (resolve ref).run.Relays Hit (Errs AccessError.Reflects) := by
  unfold resolve
  rw [run_lift_bind]
  refine (kinds_relays ref.apiVersion).bind ?_ fun found => ?_
  · rintro discovery _ ⟨failure, rfl, rfl, -⟩
    show Errs AccessError.Reflects true (Except.error (AccessError.unknownKind ref.apiVersion ref.kind failure.message))
    exact ⟨_, rfl, rfl, rfl⟩
  · cases found with
    | error failure => exact .done _
    | ok known => dsimp only; split <;> exact .done _

theorem live_relays (a : Address) : (live a).run.Relays Hit (Errs AccessError.Reflects) := by
  unfold live
  rw [run_lift_bind]
  refine (get_relays Manifest.ofJson? a).bind ?_ fun found => ?_
  · rintro discovery _ ⟨failure, rfl, rfl, hout⟩
    split
    · rename_i h; cases h
    · rename_i h; cases h; exact absurd hout.1 (by decide)
    · rename_i h; cases h; exact ⟨_, rfl, hout.reflects⟩
  · split <;> exact .done _

theorem accessResult_relays (found : Except ApiFailure α) :
    (accessResult found).run.Relays Hit (Errs AccessError.Reflects) := by
  cases found <;> exact .done _

/-- The result of a request that may be refused, as one of access. -/
theorem refused_relays {p : Program interface (Except ApiFailure α)}
    (hp : p.Relays Hit (Errs (ApiFailure.Reflects false))) :
    (ExceptT.lift p >>= accessResult).run.Relays Hit (Errs AccessError.Reflects) := by
  rw [run_lift_bind]
  refine hp.bind ?_ accessResult_relays
  rintro discovery _ ⟨failure, rfl, rfl, hout⟩
  exact ⟨_, rfl, hout.reflects⟩

theorem workload_relays (ref : WorkloadRef) : (workload ref).run.Relays Hit (Errs AccessError.Reflects) :=
  Relays.bind_except (resolve_relays ref) live_relays

theorem revisions_relays (ns component : String) :
    (revisions ns component).run.Relays Hit (Errs AccessError.Reflects) := by
  unfold revisions
  cases Sent.ofTarget? (collectionPath revisionResource ns) with
  | none => exact .done _
  | some sent =>
    have hlist : ∀ component, (Program.request (I := interface) (.revisions sent.path component)).Relays Hit
        (Errs (ApiFailure.Reflects false)) := by
      refine fun component => .ask ?_ fun _ => .done _
      rintro reply discovery ⟨hasked, failure, hreply, hout⟩
      exact ⟨failure, hreply, hasked, hout⟩
    show (ExceptT.lift _ >>= fun found => accessResult found >>= _).run.Relays Hit _
    rw [← LawfulMonad.bind_assoc]
    exact Relays.bind_except (refused_relays (hlist _)) fun items => accessResult_relays _

theorem change_relays (ref : WorkloadRef) (change : WorkloadChange) :
    (Api.change ref change).run.Relays Hit (Errs AccessError.Reflects) := by
  unfold Api.change
  refine Relays.bind_except (resolve_relays ref) fun a => ?_
  refine Relays.bind_except (live_relays a) fun object => ?_
  dsimp only
  split
  · exact .done _
  · rw [← LawfulMonad.bind_assoc]
    exact Relays.bind_except (refused_relays (patch_relays ..)) fun _ => .done _

theorem scale_relays (ref : WorkloadRef) (replicas : Int32) :
    (Api.scale ref replicas).run.Relays Hit (Errs AccessError.Reflects) := by
  unfold Api.scale
  refine Relays.bind_except (resolve_relays ref) fun a => ?_
  dsimp only
  rw [← LawfulMonad.bind_assoc]
  exact Relays.bind_except (refused_relays (patch_relays ..)) fun _ => .done _

/-! ### Stored canaries -/

theorem canary_relays (ns name : String) : (Api.canary ns name).Relays Hit (Errs StoreError.Reflects) := by
  unfold Api.canary
  refine (get_relays Canary.ofJson? (canaryAt ns name)).bind ?_ fun found => ?_
  · rintro discovery _ ⟨failure, rfl, rfl, hout⟩
    split
    · rename_i h; cases h
    · rename_i h; cases h; exact absurd hout.1 (by decide)
    · exact ⟨_, rfl, rfl, _, rfl⟩
  · split <;> exact .done _

theorem writeStatus_relays (c : Canary) (status : CanaryStatus) :
    (Api.writeStatus c status).Relays Hit (Errs StoreError.Reflects) := by
  unfold Api.writeStatus
  refine (patch_relays Canary.ofJson? (canaryAt c.ns c.name) .status (c.statusPatch status)).bind ?_ fun found => ?_
  · rintro discovery _ ⟨failure, rfl, rfl, hout⟩
    split
    · rename_i h; cases h
    · rename_i h; cases h; exact absurd hout.1 (by decide)
    · exact ⟨_, rfl, rfl, _, rfl⟩
  · split <;> exact .done _

/-! ### What controllers ask -/

/-- What is asked of the cluster relays an outage. -/
theorem carry_relays (r : Cluster.Request) : (carry r).Relays Hit (Cluster.Hit · r) := by
  -- the server has no part in some questions
  have haside : ∀ (q : Api.Request) {post : Bool → Api.Reply q → Prop}, (∀ reply, ¬ q.Refused reply) →
      (Program.request (I := interface) q).Relays Hit post := fun q _ hnot =>
    .ask (fun reply _ hhit => absurd hhit.2 (hnot reply)) fun _ => .done _
  cases r with
  | workload ref => exact workload_relays ref
  | revisions ns component => exact revisions_relays ns component
  | change ref change => exact change_relays ref change
  | scale ref replicas => exact scale_relays ref replicas
  | canary ns name => exact canary_relays ns name
  | writeStatus c status => exact writeStatus_relays c status
  | configRefs c => exact haside (.configRefs c) fun _ h => h
  | configChanged c => exact haside (.configChanged c) fun _ h => h
  | now => exact haside .now fun _ h => h
  | pause milliseconds => exact haside (.pause milliseconds) fun _ h => h
  | reconcileRoutes c => exact relays_any (fun _ _ => trivial) _
  | setRoutes c weights => exact relays_any (fun _ _ => trivial) _
  | getRoutes c => exact relays_any (fun _ _ => trivial) _
  | finalizeRoutes c => exact .done _

end Api

end Rollout
