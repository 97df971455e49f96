/-
The walk back through the history for a baseline, on a cluster at rest: each request has one
answer. A revision leads to a workload, fails or leads nowhere (`Revision.LeadsTo`,
`Revision.FailsWith`, `Revision.LeadsNowhere`). Main statements: `resolveSource_newest` (the walk
ends at the first revision that does not lead nowhere, whatever the order of the listing) and
`resolveSource_target_iff` (when the baseline that is found is the target itself).
-/
import Rollout.Proofs.Baseline.History
import Rollout.Proofs.Program

namespace Rollout

open Program

section Walk

variable (answer : (r : Cluster.Request) → Cluster.Reply r)

/-! ## Where a revision leads -/

/-- The workload is not there. -/
def Gone (ref : WorkloadRef) : Prop := ∃ e, answer (.workload ref) = .error e ∧ e.isNotFound = true

namespace Revision

/-- The workload of the revision's name is live or, where it is gone, the one that it declares. -/
def LeadsTo (target : WorkloadRef) (r : Revision) (object : Manifest) : Prop :=
  ∃ name, r.metadata.name = some name ∧
    (answer (.workload (target.withName name)) = .ok object ∨
      Gone answer (target.withName name) ∧
        ∃ ref, r.declared? target = some ref ∧ answer (.workload ref) = .ok object)

/-- A workload that the revision may lead to cannot be read, and not because it is gone. -/
def FailsWith (target : WorkloadRef) (r : Revision) (e : AccessError) : Prop :=
  e.isNotFound = false ∧ ∃ name, r.metadata.name = some name ∧
    (answer (.workload (target.withName name)) = .error e ∨
      Gone answer (target.withName name) ∧
        ∃ ref, r.declared? target = some ref ∧ answer (.workload ref) = .error e)

/-- The workload of the revision's name is gone, and so is the one that it declares, if any. -/
def LeadsNowhere (target : WorkloadRef) (r : Revision) : Prop :=
  ∃ name, r.metadata.name = some name ∧ Gone answer (target.withName name) ∧
    ∀ ref, r.declared? target = some ref → Gone answer ref

end Revision

/-! ## The first that is live -/

/-- The outcome of a search. -/
def found (refs : List WorkloadRef) : Except ControllerError (Option Manifest) := (firstLive refs).run.answered answer

@[simp] theorem found_nil : found answer [] = .ok none := rfl

theorem found_cons (ref : WorkloadRef) (rest : List WorkloadRef) :
    found answer (ref :: rest) =
      match answer (.workload ref) with
      | .ok object => .ok (some object)
      | .error e => if e.isNotFound then found answer rest else .error (.access e) := by
  show Program.answered answer (Program.ask (I := Cluster.interface) (.workload ref) _) = _
  rw [answered_ask]
  cases answer (.workload ref) with
  | ok object => rfl
  | error e =>
    show Program.answered answer (ite _ _ _ : Task (Option Manifest)).run = _
    simp only
    split <;> rfl

variable {answer}

theorem found_of_gone {ref : WorkloadRef} (h : Gone answer ref) (rest : List WorkloadRef) :
    found answer (ref :: rest) = found answer rest := by
  obtain ⟨e, he, hn⟩ := h
  rw [found_cons, he]; simp [hn]

theorem found_of_live {ref : WorkloadRef} {object : Manifest} (h : answer (.workload ref) = .ok object)
    (rest : List WorkloadRef) : found answer (ref :: rest) = .ok (some object) := by
  rw [found_cons, h]

theorem found_of_fails {ref : WorkloadRef} {e : AccessError} (h : answer (.workload ref) = .error e)
    (he : e.isNotFound = false) (rest : List WorkloadRef) : found answer (ref :: rest) = .error (.access e) := by
  rw [found_cons, h]; simp [he]

/-- Only the reads of workloads matter. -/
theorem found_congr {answer' : (r : Cluster.Request) → Cluster.Reply r}
    (h : ∀ ref, answer' (.workload ref) = answer (.workload ref)) :
    ∀ refs : List WorkloadRef, found answer' refs = found answer refs
  | [] => rfl
  | ref :: rest => by rw [found_cons, found_cons, h ref, found_congr h rest]

/-- A workload is live, gone, or cannot be read for another reason. -/
theorem live_or_gone (answer : (r : Cluster.Request) → Cluster.Reply r) (ref : WorkloadRef) :
    (∃ object, answer (.workload ref) = .ok object) ∨ Gone answer ref ∨
      ∃ e, answer (.workload ref) = .error e ∧ e.isNotFound = false := by
  cases h : answer (.workload ref) with
  | ok object => exact .inl ⟨object, rfl⟩
  | error e =>
    cases hn : e.isNotFound with
    | true => exact .inr (.inl ⟨e, h, hn⟩)
    | false => exact .inr (.inr ⟨e, rfl, hn⟩)

/-! ## One revision -/

/-- The workloads that one revision adds to the search. -/
def Revision.tried (target : WorkloadRef) (r : Revision) : List WorkloadRef :=
  match r.metadata.name with
  | none => []
  | some name => r.candidates target name

section Revision

variable {target : WorkloadRef} {r : Revision} {rest : List WorkloadRef}

theorem Revision.tried_eq {name : String} (h : r.metadata.name = some name) :
    r.tried target = target.withName name :: (r.declared? target).toList := by
  unfold tried candidates; rw [h]

theorem found_of_leadsTo {object : Manifest} (h : r.LeadsTo answer target object) :
    found answer (r.tried target ++ rest) = .ok (some object) := by
  obtain ⟨name, hname, h | ⟨hgone, ref, href, h⟩⟩ := h
  · rw [Revision.tried_eq hname, List.cons_append, found_of_live h]
  · rw [Revision.tried_eq hname, List.cons_append, found_of_gone hgone, href]
    exact found_of_live h rest

theorem found_of_failsWith {e : AccessError} (h : r.FailsWith answer target e) :
    found answer (r.tried target ++ rest) = .error (.access e) := by
  obtain ⟨he, name, hname, h | ⟨hgone, ref, href, h⟩⟩ := h
  · rw [Revision.tried_eq hname, List.cons_append, found_of_fails h he]
  · rw [Revision.tried_eq hname, List.cons_append, found_of_gone hgone, href]
    exact found_of_fails h he rest

theorem found_of_leadsNowhere (h : r.LeadsNowhere answer target) :
    found answer (r.tried target ++ rest) = found answer rest := by
  obtain ⟨name, hname, hgone, hdeclared⟩ := h
  rw [Revision.tried_eq hname, List.cons_append, found_of_gone hgone]
  cases href : r.declared? target with
  | none => rfl
  | some ref => exact found_of_gone (hdeclared ref href) rest

/-- A revision with a name leads to a workload, fails or leads nowhere. -/
theorem Revision.leads (answer : (r : Cluster.Request) → Cluster.Reply r) (target : WorkloadRef) {name : String}
    (hname : r.metadata.name = some name) :
    (∃ object, r.LeadsTo answer target object) ∨ (∃ e, r.FailsWith answer target e) ∨ r.LeadsNowhere answer target := by
  rcases live_or_gone answer (target.withName name) with ⟨object, h⟩ | hgone | ⟨e, h, he⟩
  · exact .inl ⟨object, name, hname, .inl h⟩
  · cases href : r.declared? target with
    | none => exact .inr (.inr ⟨name, hname, hgone, fun ref h => by rw [href] at h; cases h⟩)
    | some ref =>
      rcases live_or_gone answer ref with ⟨object, h⟩ | hgone' | ⟨e, h, he⟩
      · exact .inl ⟨object, name, hname, .inr ⟨hgone, ref, href, h⟩⟩
      · exact .inr (.inr ⟨name, hname, hgone, fun ref' h => by rw [href] at h; cases h; exact hgone'⟩)
      · exact .inr (.inl ⟨e, he, name, hname, .inr ⟨hgone, ref, href, h⟩⟩)
  · exact .inr (.inl ⟨e, he, name, hname, .inl h⟩)

end Revision

/-! ## The whole history -/

section History

variable {target : WorkloadRef} {history : List Revision}

theorem found_append_leadsNowhere {newer : List Revision} (h : ∀ r ∈ newer, r.LeadsNowhere answer target)
    (rest : List WorkloadRef) :
    found answer (newer.flatMap (Revision.tried target) ++ rest) = found answer rest := by
  induction newer with
  | nil => rfl
  | cons r newer ih =>
    rw [List.flatMap_cons, List.append_assoc, found_of_leadsNowhere (h r (List.mem_cons_self ..))]
    exact ih fun r hr => h r (List.mem_cons_of_mem _ hr)

/-- A walk finds the first revision that does not lead nowhere, or none. -/
theorem walk_cases (answer : (r : Cluster.Request) → Cluster.Reply r) (target : WorkloadRef)
    (hnamed : ∀ r ∈ history, ∃ name, r.metadata.name = some name) :
    (∀ r ∈ history, r.LeadsNowhere answer target) ∨
      ∃ newer r older, history = newer ++ r :: older ∧ (∀ n ∈ newer, n.LeadsNowhere answer target) ∧
        ((∃ object, r.LeadsTo answer target object) ∨ ∃ e, r.FailsWith answer target e) := by
  induction history with
  | nil => exact .inl (by simp)
  | cons r rest ih =>
    obtain ⟨name, hname⟩ := hnamed r (List.mem_cons_self ..)
    rcases Revision.leads answer target hname with h | h | h
    · exact .inr ⟨[], r, rest, rfl, by simp, .inl h⟩
    · exact .inr ⟨[], r, rest, rfl, by simp, .inr h⟩
    · rcases ih fun r hr => hnamed r (List.mem_cons_of_mem _ hr) with hrest | ⟨newer, r', older, rfl, hnewer, h'⟩
      · exact .inl (List.forall_mem_cons.2 ⟨h, hrest⟩)
      · exact .inr ⟨r :: newer, r', older, rfl, List.forall_mem_cons.2 ⟨h, hnewer⟩, h'⟩

/-- Past revisions that lead nowhere, the search goes on with the next. -/
theorem found_split {newer older : List Revision} {r : Revision}
    (h : ∀ n ∈ newer, n.LeadsNowhere answer target) :
    found answer ((newer ++ r :: older).flatMap (Revision.tried target)) =
      found answer (r.tried target ++ older.flatMap (Revision.tried target)) := by
  rw [List.flatMap_append, found_append_leadsNowhere h, List.flatMap_cons]

theorem found_none {history : List Revision} (h : ∀ r ∈ history, r.LeadsNowhere answer target) :
    found answer (history.flatMap (Revision.tried target)) = .ok none := by
  have heq := found_append_leadsNowhere h []
  rwa [List.append_nil, found_nil] at heq

section Named

variable (hnamed : ∀ r ∈ history, ∃ name, r.metadata.name = some name)
include hnamed

theorem found_eq_some_iff {object : Manifest} :
    found answer (history.flatMap (Revision.tried target)) = .ok (some object) ↔
      ∃ newer r older, history = newer ++ r :: older ∧ (∀ n ∈ newer, n.LeadsNowhere answer target) ∧
        r.LeadsTo answer target object := by
  constructor
  · intro h
    -- each way for the walk to end has an outcome of its own
    rcases walk_cases answer target hnamed with hall | ⟨newer, r, older, rfl, hnewer, ⟨object', hr⟩ | ⟨e, hr⟩⟩
    · rw [found_none hall] at h; cases h
    · rw [found_split hnewer, found_of_leadsTo hr] at h
      cases h
      exact ⟨newer, r, older, rfl, hnewer, hr⟩
    · rw [found_split hnewer, found_of_failsWith hr] at h; cases h
  · rintro ⟨newer, r, older, rfl, hnewer, hr⟩
    rw [found_split hnewer, found_of_leadsTo hr]

theorem found_eq_error_iff {e : ControllerError} :
    found answer (history.flatMap (Revision.tried target)) = .error e ↔
      ∃ newer r older e', history = newer ++ r :: older ∧ (∀ n ∈ newer, n.LeadsNowhere answer target) ∧
        r.FailsWith answer target e' ∧ e = .access e' := by
  constructor
  · intro h
    rcases walk_cases answer target hnamed with hall | ⟨newer, r, older, rfl, hnewer, ⟨object, hr⟩ | ⟨e', hr⟩⟩
    · rw [found_none hall] at h; cases h
    · rw [found_split hnewer, found_of_leadsTo hr] at h; cases h
    · rw [found_split hnewer, found_of_failsWith hr] at h
      cases h
      exact ⟨newer, r, older, e', rfl, hnewer, hr, rfl⟩
  · rintro ⟨newer, r, older, e', rfl, hnewer, hr, rfl⟩
    rw [found_split hnewer, found_of_failsWith hr]

theorem found_eq_none_iff :
    found answer (history.flatMap (Revision.tried target)) = .ok none ↔
      ∀ r ∈ history, r.LeadsNowhere answer target := by
  constructor
  · intro h
    rcases walk_cases answer target hnamed with hall | ⟨newer, r, older, rfl, hnewer, ⟨object, hr⟩ | ⟨e, hr⟩⟩
    · exact hall
    · rw [found_split hnewer, found_of_leadsTo hr] at h; cases h
    · rw [found_split hnewer, found_of_failsWith hr] at h; cases h
  · exact found_none

end Named

end History

/-! ## Clusters at rest -/

/-- The accessor gives for a reference the live object of just that identity. -/
def Faithful (answer : (r : Cluster.Request) → Cluster.Reply r) : Prop :=
  ∀ ref object, answer (.workload ref) = .ok object → WorkloadRef.of? object = some ref

/-- The live object of a workload among some. -/
def liveAmong (objects : List Manifest) (ref : WorkloadRef) : Except AccessError Manifest :=
  match objects.find? fun object => WorkloadRef.of? object = some ref with
  | some object => .ok object
  | none => .error (.missing ref)

/-- A cluster at rest in which some workloads are live and some revisions are listed, and which has
nothing else. -/
def restingCluster (objects : List Manifest) (listed : List Revision) : (r : Cluster.Request) → Cluster.Reply r
  | .workload ref => liveAmong objects ref
  | .revisions _ _ => .ok listed
  | .change ref _ => .error (.missing ref)
  | .scale ref _ => .error (.missing ref)
  | .canary ns name => .error (.notFound ns name)
  | .writeStatus c _ => .error (.notFound c.ns c.name)
  | .configRefs _ => .ok []
  | .configChanged _ => .ok false
  | .reconcileRoutes _ => .ok ()
  | .setRoutes _ _ => .ok ()
  | .getRoutes _ => .ok .primaryOnly
  | .finalizeRoutes _ => .ok ()
  | .now => default
  | .pause _ => ()

theorem restingCluster_faithful (objects : List Manifest) (listed : List Revision) :
    Faithful (restingCluster objects listed) := by
  intro ref object h
  change liveAmong objects ref = .ok object at h
  unfold liveAmong at h
  split at h
  · rename_i found hfound
    cases h
    simpa using List.find?_some hfound
  · cases h

/-- A deployment of the component `podinfo`. -/
def podinfoDeployment (name : String) : Manifest where
  types := some ⟨"apps/v1", "Deployment"⟩
  metadata := { name := some name, ns := some "prod", labels := some (.ofList [(componentLabel, "podinfo")]) }
  body := .null

/-- A revision that may declare a workload by its name. -/
def podinfoRevision (name : String) (number : Int64) (declared : Option String) : Revision where
  metadata := { name := some name }
  number := number
  data := declared.map fun name => .obj [("metadata", .obj [("name", .str name)])]

/-- A canary whose target is the deployment `podinfo-v3`. -/
def podinfoCanary : Canary :=
  { metadata := { name := some "podinfo", ns := some "prod" }
    spec := { targetRef := ⟨"apps/v1", "Deployment", "podinfo-v3", none⟩ } }

def podinfoTarget : WorkloadRef := ⟨"apps/v1", "Deployment", "podinfo-v3", "prod"⟩

/-! ## The baseline -/

theorem baselineCandidates_eq (target : WorkloadRef) (listed : List Revision) :
    baselineCandidates target listed =
      ((Revision.sort listed).filter (Revision.isCandidate target)).flatMap (Revision.tried target) := by
  unfold baselineCandidates
  induction Revision.sort listed with
  | nil => rfl
  | cons r rest ih =>
    rw [List.flatMap_cons, ih, List.filter_cons]
    unfold Revision.isCandidate
    cases hname : r.metadata.name with
    | none => rfl
    | some name =>
      by_cases h : name = target.name
      · simp [h]
      · simp only [h, if_false, ne_eq, not_false_eq_true, decide_true, if_true, List.flatMap_cons]
        rw [Revision.tried_eq hname]; rfl

/-- The revisions that the walk looks at, in the order it does. -/
def Revision.walked (target : WorkloadRef) (listed : List Revision) : List Revision :=
  (sort listed).filter (isCandidate target)

theorem named_of_walked {target : WorkloadRef} {listed : List Revision} :
    ∀ r ∈ Revision.walked target listed, ∃ name, r.metadata.name = some name := by
  intro r hr
  obtain ⟨name, hname, -⟩ := Revision.isCandidate_iff.1 (List.mem_filter.1 hr).2
  exact ⟨name, hname⟩

section Resolve

variable {c : Canary} {target : WorkloadRef}

/-- What is left once target and revisions have been read. -/
def baselineOf (component : String) : Except ControllerError (Option Manifest) → Except ControllerError Manifest
  | .ok (some object) => .ok object
  | .ok none => .error (.sourceNotFound (.noLiveRevision component))
  | .error e => .error e

theorem baselineOf_eq_ok_iff {component : String} {outcome : Except ControllerError (Option Manifest)}
    {baseline : Manifest} : baselineOf component outcome = .ok baseline ↔ outcome = .ok (some baseline) := by
  rcases outcome with e | _ | object <;> simp [baselineOf]

theorem baselineOf_eq_error_iff {component : String} {outcome : Except ControllerError (Option Manifest)}
    {e : ControllerError} : baselineOf component outcome = .error e ↔
      outcome = .error e ∨ outcome = .ok none ∧ e = .sourceNotFound (.noLiveRevision component) := by
  rcases outcome with e' | _ | object <;> simp [baselineOf, eq_comm]

/-- Finding the baseline by the history, request by request. -/
theorem answered_resolveSource (answer : (r : Cluster.Request) → Cluster.Reply r) (hsource : c.spec.sourceRef = none)
    (htarget : c.target? = some target) :
    c.resolveSource.run.answered answer =
      match answer (.workload target) with
      | .error e => .error (.access e)
      | .ok object =>
        match object.metadata.label? componentLabel with
        | none => .error (.configuration (.noComponent target componentLabel))
        | some component =>
          match answer (.revisions target.ns component) with
          | .error e => .error (.access e)
          | .ok listed => baselineOf component
              (found answer ((Revision.walked target listed).flatMap (Revision.tried target))) := by
  unfold Canary.resolveSource
  rw [htarget, hsource]
  show Program.answered answer (Program.ask (I := Cluster.interface) (.workload target) _) = _
  rw [answered_ask]
  cases answer (.workload target) with
  | error e => rfl
  | ok object =>
    dsimp only
    show Program.answered answer (match object.metadata.label? componentLabel with
      | none => _
      | some component => _ : Task Manifest).run = _
    cases object.metadata.label? componentLabel with
    | none => rfl
    | some component =>
      dsimp only
      show Program.answered answer (Program.ask (I := Cluster.interface) (.revisions target.ns component) _) = _
      rw [answered_ask]
      cases answer (.revisions target.ns component) with
      | error e => rfl
      | ok listed =>
        simp only
        rw [Revision.walked, ← baselineCandidates_eq]
        show Program.answered answer ((firstLive (baselineCandidates target listed)).run.bind _) = _
        rw [answered_bind]
        generalize hfound : found answer (baselineCandidates target listed) = outcome
        unfold found at hfound
        rw [hfound]
        rcases outcome with e | _ | baseline
        · rfl
        · rfl
        · rfl

variable {object baseline : Manifest} {component : String} {listed history : List Revision}

theorem answered_of_listed (hsource : c.spec.sourceRef = none) (htarget : c.target? = some target)
    (hlive : answer (.workload target) = .ok object) (hlabel : object.metadata.label? componentLabel = some component)
    (hlisted : answer (.revisions target.ns component) = .ok listed) :
    c.resolveSource.run.answered answer =
      baselineOf component (found answer ((Revision.walked target listed).flatMap (Revision.tried target))) := by
  rw [answered_resolveSource answer hsource htarget, hlive]
  simp only [hlabel, hlisted]

/-- A baseline found by the history comes from a search among the revisions listed for the target. -/
theorem listed_of_answered (hsource : c.spec.sourceRef = none) (htarget : c.target? = some target)
    (hresult : c.resolveSource.run.answered answer = .ok baseline) :
    ∃ object component listed, answer (.workload target) = .ok object ∧
      object.metadata.label? componentLabel = some component ∧
      answer (.revisions target.ns component) = .ok listed ∧
      found answer ((Revision.walked target listed).flatMap (Revision.tried target)) = .ok (some baseline) := by
  rw [answered_resolveSource answer hsource htarget] at hresult
  cases hlive : answer (.workload target) with
  | error e => rw [hlive] at hresult; cases hresult
  | ok object =>
    simp only [hlive] at hresult
    cases hlabel : object.metadata.label? componentLabel with
    | none => rw [hlabel] at hresult; cases hresult
    | some component =>
      simp only [hlabel] at hresult
      cases hlisted : answer (.revisions target.ns component) with
      | error e => rw [hlisted] at hresult; cases hresult
      | ok listed =>
        simp only [hlisted] at hresult
        exact ⟨object, component, listed, rfl, hlabel, hlisted, baselineOf_eq_ok_iff.1 hresult⟩

theorem Revision.History.walked_eq (h : Revision.History target listed history)
    (hnames : (listed.filterMap (·.metadata.name)).Nodup) : Revision.walked target listed = history :=
  (Revision.history_sorted hnames target).unique h (List.Perm.refl _)

theorem Revision.History.named (h : Revision.History target listed history) :
    ∀ r ∈ history, ∃ name, r.metadata.name = some name := by
  intro r hr
  obtain ⟨name, hname, -⟩ := Revision.isCandidate_iff.1 (List.mem_filter.1 (h.perm.mem_iff.1 hr)).2
  exact ⟨name, hname⟩

/-- The baseline is what the newest revision leads to that leads anywhere. Reads that find nothing
never end the walk, the first that fails otherwise does, and only where all of the history leads
nowhere there is no baseline. The order in which the revisions are listed does not matter. -/
theorem resolveSource_newest (hsource : c.spec.sourceRef = none) (htarget : c.target? = some target)
    (hlive : answer (.workload target) = .ok object) (hlabel : object.metadata.label? componentLabel = some component)
    (hlisted : answer (.revisions target.ns component) = .ok listed)
    (hnames : (listed.filterMap (·.metadata.name)).Nodup) (hhistory : Revision.History target listed history) :
    (∀ baseline, c.resolveSource.run.answered answer = .ok baseline ↔
      ∃ newer r older, history = newer ++ r :: older ∧ (∀ n ∈ newer, n.LeadsNowhere answer target) ∧
        r.LeadsTo answer target baseline) ∧
    (∀ e, c.resolveSource.run.answered answer = .error (.access e) ↔
      ∃ newer r older, history = newer ++ r :: older ∧ (∀ n ∈ newer, n.LeadsNowhere answer target) ∧
        r.FailsWith answer target e) ∧
    (∀ problem, c.resolveSource.run.answered answer = .error (.sourceNotFound problem) ↔
      problem = .noLiveRevision component ∧ ∀ r ∈ history, r.LeadsNowhere answer target) ∧
    (∀ (answer' : (r : Cluster.Request) → Cluster.Reply r) (listed' : List Revision),
      (∀ ref, answer' (.workload ref) = answer (.workload ref)) →
      answer' (.revisions target.ns component) = .ok listed' → listed'.Perm listed →
        c.resolveSource.run.answered answer' = c.resolveSource.run.answered answer) := by
  have hnamed := hhistory.named
  have hresult := answered_of_listed hsource htarget hlive hlabel hlisted
  rw [hhistory.walked_eq hnames] at hresult
  refine ⟨fun baseline => ?_, fun e => ?_, fun problem => ?_, fun answer' listed' hsame hlisted' hperm => ?_⟩
  · rw [hresult, baselineOf_eq_ok_iff, found_eq_some_iff hnamed]
  · rw [hresult, baselineOf_eq_error_iff, found_eq_error_iff hnamed]
    constructor
    · rintro (⟨newer, r, older, e', rfl, hnewer, hr, he⟩ | ⟨-, he⟩)
      · cases he; exact ⟨newer, r, older, rfl, hnewer, hr⟩
      · cases he
    · rintro ⟨newer, r, older, rfl, hnewer, hr⟩
      exact .inl ⟨newer, r, older, e, rfl, hnewer, hr, rfl⟩
  · rw [hresult, baselineOf_eq_error_iff, found_eq_error_iff hnamed, found_eq_none_iff hnamed]
    constructor
    · rintro (⟨newer, r, older, e', -, -, -, he⟩ | ⟨hall, he⟩)
      · cases he
      · cases he; exact ⟨rfl, hall⟩
    · rintro ⟨rfl, hall⟩; exact .inr ⟨hall, rfl⟩
  · -- the other listing has the same history
    have hnames' : (listed'.filterMap (·.metadata.name)).Nodup := (hperm.filterMap _).nodup_iff.2 hnames
    have hhistory' : Revision.History target listed' history :=
      ⟨hhistory.perm.trans (hperm.filter _).symm, hhistory.newer⟩
    have hlive' : answer' (.workload target) = .ok object := by rw [hsame]; exact hlive
    rw [answered_of_listed hsource htarget hlive' hlabel hlisted', hhistory'.walked_eq hnames', hresult,
      found_congr hsame]

/-- The newest revision bears the target's name, the next leads nowhere, and the oldest is live. -/
theorem resolveSource_newest_oldest :
    let r₁ := podinfoRevision "podinfo-v1" 1 none
    let r₂ := podinfoRevision "podinfo-v2" 2 (some "podinfo-gone")
    let r₃ := podinfoRevision "podinfo-v3" 3 none
    podinfoCanary.resolveSource.run.answered
        (restingCluster [podinfoDeployment "podinfo-v3", podinfoDeployment "podinfo-v1"] [r₁, r₃, r₂]) =
      .ok (podinfoDeployment "podinfo-v1") := by
  intro r₁ r₂ r₃
  have hhistory : Revision.History podinfoTarget [r₁, r₃, r₂] [r₂, r₁] := by
    refine ⟨List.Perm.swap r₁ r₂ [], ?_⟩
    refine List.Pairwise.cons ?_ (List.pairwise_singleton _ _)
    intro r hr
    obtain rfl := List.mem_singleton.1 hr
    exact .inl (by decide)
  have htarget : podinfoCanary.target? = some podinfoTarget := rfl
  have hlive : restingCluster [podinfoDeployment "podinfo-v3", podinfoDeployment "podinfo-v1"] [r₁, r₃, r₂]
      (.workload podinfoTarget) = .ok (podinfoDeployment "podinfo-v3") := rfl
  have hlabel : (podinfoDeployment "podinfo-v3").metadata.label? componentLabel = some "podinfo" := rfl
  refine ((resolveSource_newest rfl htarget hlive hlabel rfl (by decide) hhistory).1 _).2
    ⟨[r₂], r₁, [], rfl, ?_, "podinfo-v1", rfl, .inl rfl⟩
  intro r hr
  obtain rfl := List.mem_singleton.1 hr
  refine ⟨"podinfo-v2", rfl, ⟨_, rfl, rfl⟩, ?_⟩
  intro ref href
  cases href
  exact ⟨_, rfl, rfl⟩

/-- With an accessor that gives what it is asked for, the baseline found is the target itself just
where the walk ends at a revision that declares the target, its own workload being gone: only a
revision's name is held against the target's, not what the revision declares. -/
theorem resolveSource_target_iff (hsource : c.spec.sourceRef = none) (htarget : c.target? = some target)
    (hfaithful : Faithful answer) (hresult : c.resolveSource.run.answered answer = .ok baseline) :
    WorkloadRef.of? baseline = some target ↔
      ∃ object component listed newer r older, answer (.workload target) = .ok object ∧
        object.metadata.label? componentLabel = some component ∧
        answer (.revisions target.ns component) = .ok listed ∧
        Revision.walked target listed = newer ++ r :: older ∧ (∀ n ∈ newer, n.LeadsNowhere answer target) ∧
        (∃ name, r.metadata.name = some name ∧ Gone answer (target.withName name)) ∧
        r.declared? target = some target := by
  constructor
  · intro hself
    obtain ⟨object, component, listed, hlive, hlabel, hlisted, hfound⟩ := listed_of_answered hsource htarget hresult
    obtain ⟨newer, r, older, hwalked, hnewer, name, hname, h⟩ := (found_eq_some_iff named_of_walked).1 hfound
    refine ⟨object, component, listed, newer, r, older, hlive, hlabel, hlisted, hwalked, hnewer, ?_⟩
    rcases h with hown | ⟨hgone, ref, href, hdeclared⟩
    · -- the workload of the revision's name bears that name, which is not the target's
      have hidentity := hfaithful _ _ hown
      rw [hself] at hidentity
      have hr : r ∈ Revision.walked target listed := by rw [hwalked]; simp
      obtain ⟨name', hname', hne⟩ := Revision.isCandidate_iff.1 (List.mem_filter.1 hr).2
      rw [hname] at hname'
      cases hname'
      exact absurd (congrArg WorkloadRef.name (Option.some.inj hidentity)).symm hne
    · have hidentity := hfaithful _ _ hdeclared
      rw [hself] at hidentity
      cases hidentity
      exact ⟨⟨name, hname, hgone⟩, href⟩
  · rintro ⟨object, component, listed, newer, r, older, hlive, hlabel, hlisted, hwalked, hnewer,
      ⟨name, hname, hgone⟩, hdeclared⟩
    rw [answered_of_listed hsource htarget hlive hlabel hlisted, baselineOf_eq_ok_iff, hwalked, found_split hnewer,
      found_of_leadsTo ⟨name, hname, .inr ⟨hgone, target, hdeclared, hlive⟩⟩] at hresult
    cases hresult
    exact hfaithful _ _ hlive

/-- What the walk finds for the sample canary. -/
theorem answered_podinfo {objects : List Manifest} {listed : List Revision}
    (hlive : liveAmong objects podinfoTarget = .ok (podinfoDeployment "podinfo-v3")) :
    podinfoCanary.resolveSource.run.answered (restingCluster objects listed) =
      baselineOf "podinfo" (found (restingCluster objects listed)
        ((Revision.walked podinfoTarget listed).flatMap (Revision.tried podinfoTarget))) :=
  answered_of_listed rfl rfl hlive rfl rfl

/-- A revision that leads to its own workload, which is not the target. -/
theorem resolveSource_target_iff_own :
    let answer := restingCluster [podinfoDeployment "podinfo-v3", podinfoDeployment "podinfo-v1"]
      [podinfoRevision "podinfo-v1" 1 (some "podinfo-v3")]
    Faithful answer ∧
    podinfoCanary.resolveSource.run.answered answer = .ok (podinfoDeployment "podinfo-v1") ∧
    ¬ ∃ object component listed newer r older, answer (.workload podinfoTarget) = .ok object ∧
        object.metadata.label? componentLabel = some component ∧
        answer (.revisions podinfoTarget.ns component) = .ok listed ∧
        Revision.walked podinfoTarget listed = newer ++ r :: older ∧
        (∀ n ∈ newer, n.LeadsNowhere answer podinfoTarget) ∧
        (∃ name, r.metadata.name = some name ∧ Gone answer (podinfoTarget.withName name)) ∧
        r.declared? podinfoTarget = some podinfoTarget := by
  intro answer
  have hresult : podinfoCanary.resolveSource.run.answered answer = .ok (podinfoDeployment "podinfo-v1") := by
    rw [answered_podinfo rfl, Revision.walked, Revision.sort, List.mergeSort_singleton]; rfl
  refine ⟨restingCluster_faithful _ _, hresult, fun h => ?_⟩
  have htarget : podinfoCanary.target? = some podinfoTarget := rfl
  have hself := (resolveSource_target_iff rfl htarget (restingCluster_faithful _ _) hresult).2 h
  exact absurd hself (by decide)

/-- A revision with a name of its own that declares the target: the target is its own baseline. -/
theorem resolveSource_finds_target :
    let answer := restingCluster [podinfoDeployment "podinfo-v3"] [podinfoRevision "podinfo-r3" 3 (some "podinfo-v3")]
    Faithful answer ∧ podinfoCanary.spec.sourceRef = none ∧ podinfoCanary.target? = some podinfoTarget ∧
    ∃ baseline, podinfoCanary.resolveSource.run.answered answer = .ok baseline ∧
      WorkloadRef.of? baseline = some podinfoTarget := by
  intro answer
  refine ⟨restingCluster_faithful _ _, rfl, rfl, podinfoDeployment "podinfo-v3", ?_, rfl⟩
  rw [answered_podinfo rfl, Revision.walked, Revision.sort, List.mergeSort_singleton]; rfl

end Resolve

end Walk

end Rollout
