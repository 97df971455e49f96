/-
The order in which the coordinator writes, whoever answers it and whatever fails. For a split there
is a list of writes (`Coordinated.writesFor`), which a promoted or failed canary fixes by itself. A
run takes a course through that list: every write it issues is granted up to one that is refused,
and there it ends (`Coordinated.trace_setRoutes_iff`). Main statement: `setRoutes_in_order`.
-/
import Rollout.Proofs.Routing.Served

namespace Rollout

open Program

namespace Coordinated

/-! ## Writes -/

/-- What the coordinator writes: a split of the traffic, or the size of the workload in a role. -/
inductive Write where
  | routes (weights : RouteWeights)
  | scale (role : Role) (replicas : Int32)
deriving DecidableEq, Repr

/-- A write as it is asked for. -/
def Write.request : Write → Coordination.Request
  | .routes weights => .setRoutes weights
  | .scale role replicas => .scale role replicas

/-- A write that is carried out. -/
def Write.granted : Write → Exchange Coordination.interface
  | .routes weights => ⟨.setRoutes weights, .ok ()⟩
  | .scale role replicas => ⟨.scale role replicas, .ok ()⟩

/-- Issues a write. -/
def issue (c : Canary) : Write → Coordinated Unit
  | .routes weights => routes weights
  | .scale role replicas => scale c role replicas

/-- Issues writes in turn. -/
def issueAll (c : Canary) : List Write → Coordinated Unit
  | [] => pure ()
  | x :: rest => do
    issue c x
    issueAll c rest

/-- The writes for a split. -/
def writesFor (c : Canary) (weights : RouteWeights) : List Write :=
  .routes (plan c weights).1 :: (plan c weights).2.map fun step => .scale step.1 step.2

theorem issueAll_scales (c : Canary) : ∀ steps : List (Role × Int32),
    issueAll c (steps.map fun step => .scale step.1 step.2) = scaleAll c steps
  | [] => rfl
  | (role, replicas) :: rest => by
    rw [List.map_cons, issueAll, scaleAll, issueAll_scales c rest]; rfl

theorem setRoutes_eq_issueAll (c : Canary) (weights : RouteWeights) :
    setRoutes c weights = issueAll c (writesFor c weights) := by
  rw [setRoutes_eq, writesFor, issueAll, issueAll_scales]; rfl

/-! ## What is written for a split -/

section Planned

variable {c : Canary} (w : RouteWeights)

theorem writesFor_promoted (h : c.isPromoted = true) :
    writesFor c w = [.routes ⟨0, 100, w.mirrored⟩, .scale .canary c.maxReplicas] := by
  unfold writesFor plan; rw [if_pos h]; rfl

theorem writesFor_failed (hp : ¬ c.isPromoted = true) (hf : c.isFailed = true) :
    writesFor c w =
      [.routes ⟨100, 0, w.mirrored⟩, .scale .primary c.maxReplicas, .scale .canary 0] := by
  unfold writesFor plan; rw [if_neg hp, if_pos hf]; rfl

/-- The counts by which the two workloads share the full size at a weight. -/
def splitFor (c : Canary) (w : RouteWeights) : ReplicaSplit :=
  .ofWeight w.canary c.maxReplicas c.spec.analysis.canaryReplicas

theorem writesFor_underway (hp : ¬ c.isPromoted = true) (hf : ¬ c.isFailed = true) :
    writesFor c w =
      [.routes w, .scale .canary (splitFor c w).canary, .scale .primary (splitFor c w).primary] := by
  unfold writesFor plan; rw [if_neg hp, if_neg hf]; rfl

end Planned

/-! ## Courses -/

/-- The error of a scaling that failed. It names the workload, so far as that can be found. -/
def scaleError (c : Canary) (role : Role) (replicas : Int32) (source : ControllerError) :
    Except ControllerError WorkloadRef → RouterError
  | .ok ref => .scale role ref.name ref.ns replicas source
  | .error _ => .scale role (presumedName c role) (c.targetNamespace?.getD "") replicas source

/-- A write is refused: what is asked, and the error it ends with. A scaling that fails is followed
by the question which workload it was for. -/
inductive Refused (c : Canary) : Write → List (Exchange Coordination.interface) → RouterError → Prop
  | routes (weights : RouteWeights) (error : RouterError) :
      Refused c (.routes weights) [⟨.setRoutes weights, .error error⟩] error
  | scale (role : Role) (replicas : Int32) (source : ControllerError) (located : Except ControllerError WorkloadRef) :
      Refused c (.scale role replicas) [⟨.scale role replicas, .error source⟩, ⟨.locate role, located⟩]
        (scaleError c role replicas source located)

/-- A course through a list of writes: they are granted in turn, and the first that is refused is
the last. -/
inductive Course (c : Canary) :
    List Write → List (Exchange Coordination.interface) → Except RouterError Unit → Prop
  | done : Course c [] [] (.ok ())
  | granted {rest : List Write} {log : List (Exchange Coordination.interface)} {result : Except RouterError Unit}
      (x : Write) : Course c rest log result → Course c (x :: rest) (x.granted :: log) result
  | refused {x : Write} {log : List (Exchange Coordination.interface)} {error : RouterError} (rest : List Write) :
      Refused c x log error → Course c (x :: rest) log (.error error)

variable {c : Canary} {log : List (Exchange Coordination.interface)} {result : Except RouterError Unit}

theorem trace_routes_iff {weights : RouteWeights} : Trace (routes weights).run log result ↔
    log = [⟨.setRoutes weights, result⟩] := by
  show Trace (Program.ask (I := Coordination.interface) (.setRoutes weights) done) log result ↔ _
  rw [trace_ask_iff]
  constructor
  · rintro ⟨reply, rest, rfl, hdone⟩
    obtain ⟨rfl, rfl⟩ := trace_done_iff.1 hdone; rfl
  · rintro rfl
    exact ⟨result, [], rfl, trace_done_iff.2 ⟨rfl, rfl⟩⟩

/-- A scaling that fails is reported once the workload has been looked up, found or not. -/
theorem trace_scale_iff {role : Role} {replicas : Int32} : Trace (scale c role replicas).run log result ↔
    log = [⟨.scale role replicas, .ok ()⟩] ∧ result = .ok () ∨
      ∃ source located, log = [⟨.scale role replicas, .error source⟩, ⟨.locate role, located⟩] ∧
        result = .error (scaleError c role replicas source located) := by
  show Trace (Program.ask (I := Coordination.interface) (.scale role replicas) _) log result ↔ _
  rw [trace_ask_iff]
  constructor
  · rintro ⟨source | u, rest, rfl, hrest⟩
    · obtain ⟨located, rest, rfl, hthrow⟩ := trace_ask_iff.1
        (show Trace (Program.ask (I := Coordination.interface) (.locate role) _) rest result from hrest)
      refine .inr ⟨source, located, ?_⟩
      cases located with
      | error e => obtain ⟨rfl, rfl⟩ := trace_done_iff.1 hthrow; exact ⟨rfl, rfl⟩
      | ok ref => obtain ⟨rfl, rfl⟩ := trace_done_iff.1 hthrow; exact ⟨rfl, rfl⟩
    · obtain ⟨rfl, rfl⟩ := trace_done_iff.1 hrest
      exact .inl ⟨rfl, rfl⟩
  · rintro (⟨rfl, rfl⟩ | ⟨source, located, rfl, rfl⟩)
    · exact ⟨.ok (), [], rfl, trace_done_iff.2 ⟨rfl, rfl⟩⟩
    · refine ⟨.error source, _, rfl, ?_⟩
      show Trace (Program.ask (I := Coordination.interface) (.locate role) _) [⟨.locate role, located⟩] _
      refine trace_ask_iff.2 ⟨located, [], rfl, ?_⟩
      cases located with
      | error e => exact trace_done_iff.2 ⟨rfl, rfl⟩
      | ok ref => exact trace_done_iff.2 ⟨rfl, rfl⟩

/-- One write is granted or refused. -/
theorem trace_issue_iff {x : Write} : Trace (issue c x).run log result ↔
    log = [x.granted] ∧ result = .ok () ∨ ∃ error, Refused c x log error ∧ result = .error error := by
  cases x with
  | routes weights =>
    show Trace (Coordinated.routes weights).run log result ↔ _
    rw [trace_routes_iff]
    constructor
    · rintro rfl
      cases result with
      | ok u => exact .inl ⟨rfl, rfl⟩
      | error e => exact .inr ⟨e, .routes weights e, rfl⟩
    · rintro (⟨rfl, rfl⟩ | ⟨error, hrefused, rfl⟩)
      · rfl
      · cases hrefused; rfl
  | scale role replicas =>
    show Trace (Coordinated.scale c role replicas).run log result ↔ _
    rw [trace_scale_iff]
    constructor
    · rintro (h | ⟨source, located, rfl, rfl⟩)
      · exact .inl h
      · exact .inr ⟨_, .scale role replicas source located, rfl⟩
    · rintro (h | ⟨error, hrefused, rfl⟩)
      · exact .inl h
      · cases hrefused with
        | scale _ _ source located => exact .inr ⟨source, located, rfl, rfl⟩

/-- The runs through a list of writes are its courses. -/
theorem trace_issueAll_iff : ∀ {xs : List Write} {log : List (Exchange Coordination.interface)},
    Trace (issueAll c xs).run log result ↔ Course c xs log result
  | [], log => by
    show Trace (done (Except.ok ())) log result ↔ _
    rw [trace_done_iff]
    constructor
    · rintro ⟨rfl, rfl⟩; exact .done
    · intro h; cases h; exact ⟨rfl, rfl⟩
  | x :: rest, log => by
    show Trace ((issue c x).run.bind _) log result ↔ _
    rw [trace_bind_iff]
    constructor
    · rintro ⟨l₁, l₂, first, rfl, hfirst, hrest⟩
      rcases trace_issue_iff.1 hfirst with ⟨rfl, rfl⟩ | ⟨error, hrefused, rfl⟩
      · exact .granted x (trace_issueAll_iff.1 hrest)
      · obtain ⟨rfl, rfl⟩ := trace_done_iff.1 hrest
        rw [List.append_nil]; exact .refused rest hrefused
    · intro h
      cases h with
      | granted _ hrest =>
        exact ⟨[x.granted], _, .ok (), rfl, trace_issue_iff.2 (.inl ⟨rfl, rfl⟩), trace_issueAll_iff.2 hrest⟩
      | @refused _ _ error _ hrefused =>
        exact ⟨log, [], .error error, (List.append_nil log).symm, trace_issue_iff.2 (.inr ⟨error, hrefused, rfl⟩),
          trace_done_iff.2 ⟨rfl, rfl⟩⟩

theorem trace_setRoutes_iff {w : RouteWeights} :
    Trace (setRoutes c w).run log result ↔ Course c (writesFor c w) log result := by
  rw [setRoutes_eq_issueAll]; exact trace_issueAll_iff

/-! ## What a course has written -/

/-- The writes among what was asked. -/
def writes (log : List (Exchange Coordination.interface)) : List (Exchange Coordination.interface) :=
  log.filter fun e => match e.request with
    | .setRoutes _ | .scale _ _ => true
    | _ => false

/-- The answer to a write is this error. A scaling that failed is reported with its role, its count
and its cause, and can be tried again when its cause can. -/
def Fails (e : Exchange Coordination.interface) (error : RouterError) : Prop :=
  match e with
  | ⟨.setRoutes _, .error cause⟩ => error = cause
  | ⟨.scale role replicas, .error source⟩ =>
    (∃ name ns, error = .scale role name ns replicas source) ∧ error.isRetriable = source.isRetriable
  | _ => False

@[simp] theorem writes_granted (x : Write) (log : List (Exchange Coordination.interface)) :
    writes (x.granted :: log) = x.granted :: writes log := by
  cases x <;> rfl

theorem request_granted (x : Write) : x.granted.request = x.request := by cases x <;> rfl

theorem Write.request_injective {x y : Write} (h : x.request = y.request) : x = y := by
  cases x <;> cases y <;> cases h <;> rfl

/-- What is refused is one write, and its answer is the error. -/
theorem Refused.writes {x : Write} {error : RouterError} (h : Refused c x log error) :
    ∃ e, writes log = [e] ∧ e ∈ log ∧ e.request = x.request ∧ Fails e error := by
  cases h with
  | routes weights => exact ⟨_, rfl, List.mem_cons_self .., rfl, rfl⟩
  | scale role replicas source located =>
    refine ⟨_, rfl, List.mem_cons_self .., rfl, ?_⟩
    cases located with
    | error e => exact ⟨⟨_, _, rfl⟩, rfl⟩
    | ok ref => exact ⟨⟨_, _, rfl⟩, rfl⟩

/-- A course has made all its writes, or those before the first that failed and that one. -/
theorem Course.writes {xs : List Write} (h : Course c xs log result) :
    Coordinated.writes log = xs.map (·.granted) ∧ result = .ok () ∨
      ∃ before x after e error, xs = before ++ x :: after ∧ Coordinated.writes log = before.map (·.granted) ++ [e] ∧
        e.request = x.request ∧ Fails e error ∧ result = .error error := by
  induction h with
  | done => exact .inl ⟨rfl, rfl⟩
  | granted x _ ih =>
    rcases ih with ⟨hall, hok⟩ | ⟨before, x', after, e, error, rfl, hsome, hrest⟩
    · exact .inl ⟨by rw [writes_granted, hall]; rfl, hok⟩
    · exact .inr ⟨x :: before, x', after, e, error, rfl, by rw [writes_granted, hsome]; rfl, hrest⟩
  | @refused x _ error rest hrefused =>
    obtain ⟨e, hwrites, -, hrequest, hfails⟩ := hrefused.writes
    exact .inr ⟨[], x, rest, e, error, rfl, hwrites, hrequest, hfails, rfl⟩

/-- A write that is not granted is what the course ends with. -/
theorem Course.fails {xs : List Write} (h : Course c xs log result) {e : Exchange Coordination.interface}
    {y : Write} (he : e ∈ log) (hy : e.request = y.request) (hne : ∀ x : Write, e ≠ x.granted) :
    ∃ error, result = .error error ∧ Fails e error := by
  induction h with
  | done => cases he
  | granted x _ ih => exact ih ((List.mem_cons.1 he).resolve_left (hne x))
  | @refused _ log error _ hrefused =>
    obtain ⟨e', hwrites, -, -, hfails⟩ := hrefused.writes
    -- there is one write among what was asked, and this is one
    have hmem : e ∈ Coordinated.writes log := List.mem_filter.2 ⟨he, by rw [hy]; cases y <;> rfl⟩
    rw [hwrites, List.mem_singleton] at hmem
    rw [hmem]; exact ⟨error, rfl, hfails⟩

/-- What a course has asked before a write are the writes before it, granted. -/
theorem Course.before {xs : List Write} (h : Course c xs log result)
    {before after : List (Exchange Coordination.interface)} {e : Exchange Coordination.interface} {y : Write}
    (hlog : log = before ++ e :: after) (he : e.request = y.request) :
    ∃ first x rest, xs = first ++ x :: rest ∧ before = first.map (·.granted) ∧ x = y := by
  induction h generalizing before with
  | done => cases before <;> cases hlog
  | @granted rest _ _ x _ ih =>
    cases before with
    | nil =>
      cases hlog
      exact ⟨[], x, rest, rfl, rfl, Write.request_injective (by rw [← request_granted]; exact he)⟩
    | cons _ before =>
      obtain ⟨rfl, htail⟩ := List.cons.inj hlog
      obtain ⟨first, x', rest', rfl, rfl, hx⟩ := ih htail
      exact ⟨x :: first, x', rest', rfl, rfl, hx⟩
  | @refused x log error rest hrefused =>
    obtain ⟨e', hwrites, -, hrequest, -⟩ := hrefused.writes
    have hmem : e ∈ Coordinated.writes log :=
      List.mem_filter.2 ⟨by rw [hlog]; simp, by rw [he]; cases y <;> rfl⟩
    rw [hwrites, List.mem_singleton] at hmem
    subst hmem
    -- the one write stands first, so nothing was asked before it
    cases before with
    | nil => exact ⟨[], x, rest, rfl, rfl, Write.request_injective (by rw [← hrequest, he])⟩
    | cons e'' before =>
      cases hrefused with
      | routes => cases before <;> cases hlog
      | scale role replicas source located =>
        cases before with
        | nil => cases hlog; cases y <;> cases he
        | cons _ before => cases before <;> cases hlog

/-! ## The order of writes -/

/-- For any canary, split, answers and failures, the writes are those for the split up to the first
that fails, whose error is the outcome. A promoted or failed canary fixes them, so that the whole
work does not depend on the weights; a rollback takes the target down only once traffic and size are
back at the baseline; and a scaling that fails is reported with its role, its count and its cause. -/
theorem setRoutes_in_order (c : Canary) (w : RouteWeights) {log : List (Exchange Coordination.interface)}
    {result : Except RouterError Unit} (h : Trace (setRoutes c w).run log result) :
    (writes log = (writesFor c w).map (·.granted) ∧ result = .ok () ∨
      ∃ before x after e error, writesFor c w = before ++ x :: after ∧
        writes log = before.map (·.granted) ++ [e] ∧ e.request = x.request ∧ Fails e error ∧ result = .error error) ∧
    (c.isPromoted = true → writesFor c w = [.routes ⟨0, 100, w.mirrored⟩, .scale .canary c.maxReplicas]) ∧
    (¬ c.isPromoted = true → c.isFailed = true →
      writesFor c w = [.routes ⟨100, 0, w.mirrored⟩, .scale .primary c.maxReplicas, .scale .canary 0] ∧
      ∀ before e after, log = before ++ e :: after → e.request = .scale .canary 0 →
        before = [⟨.setRoutes ⟨100, 0, w.mirrored⟩, .ok ()⟩, ⟨.scale .primary c.maxReplicas, .ok ()⟩]) ∧
    (¬ c.isPromoted = true → ¬ c.isFailed = true →
      writesFor c w =
        [.routes w, .scale .canary (splitFor c w).canary, .scale .primary (splitFor c w).primary]) ∧
    (c.isPromoted = true ∨ c.isFailed = true → ∀ w' : RouteWeights, w'.mirrored = w.mirrored →
      setRoutes c w' = setRoutes c w) ∧
    (∀ role replicas source, ⟨.scale role replicas, .error source⟩ ∈ log →
      ∃ name ns, result = .error (.scale role name ns replicas source) ∧
        (RouterError.scale role name ns replicas source).isRetriable = source.isRetriable) := by
  have hcourse := trace_setRoutes_iff.1 h
  refine ⟨hcourse.writes, writesFor_promoted w, fun hp hf => ⟨writesFor_failed w hp hf, ?_⟩,
    writesFor_underway w, fun hdecided w' hmirrored => ?_, ?_⟩
  · intro before e after hlog he
    rw [writesFor_failed w hp hf] at hcourse
    obtain ⟨first, x, rest, hxs, rfl, rfl⟩ := hcourse.before (y := .scale .canary 0) hlog he
    -- the other two writes of a rollback are for the router and for the baseline
    match first, hxs with
    | [_, _], hxs => cases hxs; rfl
    | _ :: _ :: _ :: _, hxs => simp at hxs
  · rw [setRoutes_eq_issueAll, setRoutes_eq_issueAll]
    by_cases hp : c.isPromoted = true
    · rw [writesFor_promoted w hp, writesFor_promoted w' hp, hmirrored]
    · have hf : c.isFailed = true := hdecided.resolve_left hp
      rw [writesFor_failed w hp hf, writesFor_failed w' hp hf, hmirrored]
  · intro role replicas source hmem
    obtain ⟨error, rfl, ⟨name, ns, rfl⟩, hretriable⟩ := hcourse.fails hmem (y := .scale role replicas) rfl
      fun x hx => by cases x <;> cases hx
    exact ⟨name, ns, rfl, hretriable⟩

/-- What a scaling ends with whose answer cannot be read. -/
def refusal : ControllerError := .access (.api .unreadable)

/-- A rollback whose baseline cannot be brought back to its full size leaves the target alone. -/
theorem setRoutes_in_order_halted : ∃ log result,
    Trace (setRoutes (sizedCanary .failed 4) ⟨50, 50, false⟩).run log result ∧
    writes log = [⟨.setRoutes ⟨100, 0, false⟩, .ok ()⟩, ⟨.scale .primary 4, .error refusal⟩] ∧
    (∃ name ns, result = .error (.scale .primary name ns 4 refusal)) ∧
    ∀ e ∈ log, e.request ≠ .scale .canary 0 := by
  have hcourse : Course (sizedCanary .failed 4) (writesFor (sizedCanary .failed 4) ⟨50, 50, false⟩)
      [⟨.setRoutes ⟨100, 0, false⟩, .ok ()⟩, ⟨.scale .primary 4, .error refusal⟩,
        ⟨.locate .primary, .error refusal⟩]
      (.error (scaleError (sizedCanary .failed 4) .primary 4 refusal (.error refusal))) := by
    rw [writesFor_failed _ (by decide) (by decide)]
    exact .granted (.routes ⟨100, 0, false⟩) (.refused _ (.scale .primary 4 refusal (.error refusal)))
  have hrun := trace_setRoutes_iff.2 hcourse
  obtain ⟨-, -, hrollback, -, -, hscale⟩ := setRoutes_in_order _ _ hrun
  refine ⟨_, _, hrun, rfl, ?_, fun e he hrequest => ?_⟩
  · obtain ⟨name, ns, hresult, -⟩ := hscale .primary 4 refusal (by simp)
    exact ⟨name, ns, hresult⟩
  · -- before the target is taken down the baseline would have been restored
    obtain ⟨before, after, hlog⟩ := List.append_of_mem he
    have hbefore := (hrollback (by decide) (by decide)).2 before e after hlog hrequest
    rw [hbefore] at hlog
    cases hlog

end Coordinated

end Rollout
