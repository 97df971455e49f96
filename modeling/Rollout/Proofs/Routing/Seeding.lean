/-
A route that is seeded while others write it. Seeding looks at the route, and where it routes to neither backend, puts
all traffic on the baseline as any other split is written: the route is read once more, and patched under the guard of
the version that was read then. Main statement: `Contended.reconcileRoutes_seeds`, what is written over routes to a
backend only where another writer has put the route between the two reads; `Contended.reconcileRoutes_resets` is such
a run.
-/
import Rollout.Proofs.Routing.Contention
import Rollout.Proofs.Routing.Reading

namespace Rollout

open Program Json Api Store

/-! ## Looking at a route -/

/-- The first rule of a route lists the baseline's or the canary's service. -/
def HttpRoute.Listed (c : Canary) (route : Json) : Prop :=
  ∃ rule rest backends backend name, route.path? ["spec", "rules"] = some (.arr (rule :: rest)) ∧
    rule.get? "backendRefs" = some (.arr backends) ∧ backend ∈ backends ∧ backend.get? "name" = some (.str name) ∧
    (name = c.primaryService ∨ name = c.canaryService)

/-- A route that lists a service is seen to, as it is read. -/
theorem HttpRoute.isRouted_of_listed {c : Canary} {route r : Json} {m : Manifest} (hr : route.ReadAs r)
    (hm : Manifest.ofJson? r = some m) (h : Listed c route) : isRouted c m.body = true := by
  obtain ⟨rule, rest, items, item, name, hrules, hitems, hmem, hname, hservice⟩ := h
  have hnamed : isNamed name item = true := by
    unfold isNamed
    rw [hname]
    exact beq_self_eq_true _
  have hfound : (weightOf? rule name).isSome = true := by
    rw [isSome_weightOf?, hitems]
    exact List.any_eq_true.2 ⟨item, hmem, hnamed⟩
  rw [isRouted_body hr hm, carries, pointer?_first_rule hrules, Option.any_some, Bool.or_eq_true]
  rcases hservice with rfl | rfl
  · exact .inl hfound
  · exact .inr hfound

/-- What is done once the route has been looked at. -/
def afterLook (c : Canary) : Except ApiFailure Manifest → Program Api.interface (Except RouterError Unit)
  | .ok route => if HttpRoute.isRouted c route.body then done (.ok ()) else (Api.setRoutes c .primaryOnly).run
  | .error (.status _ "NotFound") => done (.ok ())
  | .error failure => done (.error (.api failure))

theorem run_reconcileRoutes_eq {c : Canary} {ns : String} (h : c.targetNamespace? = some ns) :
    (Api.reconcileRoutes c).run = (Api.get Manifest.ofJson? (routeAt c ns)).bind (afterLook c) := by
  unfold Api.reconcileRoutes routeAddress
  rw [h]
  show ExceptT.run (Api.route (routeAt c ns) >>= _) = _
  unfold Api.route
  rw [LawfulMonad.bind_assoc, run_lift_bind]
  refine congrArg (Program.bind _) (funext fun found => ?_)
  split
  · rename_i route
    rw [afterLook]
    show ExceptT.run (if HttpRoute.isRouted c route.body = true then _ else _) = _
    split <;> rfl
  · rfl
  · rename_i failure hother
    exact (afterLook.eq_3 c failure hother).symm

/-- What is made of the route when its split is read. -/
def Api.afterWeights (c : Canary) : Except ApiFailure Manifest → Program Api.interface (Except RouterError RouteWeights)
  | .ok route => done (.ok (HttpRoute.weights route.body c.primaryService c.canaryService))
  | .error (.status _ "NotFound") => done (.ok .primaryOnly)
  | .error failure => done (.error (.api failure))

theorem Api.run_getRoutes_eq {c : Canary} {ns : String} (h : c.targetNamespace? = some ns) :
    (Api.getRoutes c).run = (Api.get Manifest.ofJson? (routeAt c ns)).bind (afterWeights c) := by
  unfold Api.getRoutes routeAddress
  rw [h]
  show ExceptT.run (Api.route (routeAt c ns) >>= _) = _
  unfold Api.route
  rw [LawfulMonad.bind_assoc, run_lift_bind]
  refine congrArg (Program.bind _) (funext fun found => ?_)
  split
  · rfl
  · rfl
  · rename_i failure hother
    exact (afterWeights.eq_3 c failure hother).symm

/-- Seeding ends at once where no route can be asked for. Else it reads the route, and then ends, or writes the split
as any other, after it has found a route that lists no service. -/
theorem run_reconcileRoutes_cases (c : Canary) :
    (∃ result, (Api.reconcileRoutes c).run = done result) ∨
    ∃ path next, routePath? c = some path ∧ (Api.reconcileRoutes c).run = ask (I := Api.interface) (.get path) next ∧
      ∀ reply, (∃ result, next reply = done result) ∨
        next reply = (Api.setRoutes c .primaryOnly).run ∧ ∃ route, reply = .ok route ∧ ¬ HttpRoute.Listed c route := by
  cases hns : c.targetNamespace? with
  | none =>
    refine .inl ⟨.error (.route c.routeName "" 0 0 "canary has no namespace"), ?_⟩
    unfold Api.reconcileRoutes routeAddress
    rw [hns]
    rfl
  | some ns =>
    rw [run_reconcileRoutes_eq hns, routePath?_eq hns]
    unfold Api.get
    cases objectTarget? (routeAt c ns) .whole with
    | none => exact .inl ⟨_, rfl⟩
    | some sent =>
      refine .inr ⟨sent.path, _, rfl, rfl, fun reply => ?_⟩
      cases reply with
      | error failure =>
        refine .inl ?_
        show ∃ result, afterLook c (.error failure) = done result
        unfold afterLook
        split
        · rename_i h; cases h
        · exact ⟨_, rfl⟩
        · exact ⟨_, rfl⟩
      | ok route =>
        show (∃ result, afterLook c (readable Manifest.ofJson? route) = done result) ∨
          afterLook c (readable Manifest.ofJson? route) = (Api.setRoutes c .primaryOnly).run ∧ _
        cases hread : readable Manifest.ofJson? route with
        | error failure =>
          obtain rfl := eq_unreadable_of_readable hread
          exact .inl ⟨_, rfl⟩
        | ok m =>
          obtain ⟨r, hr, hm⟩ := readable_eq_ok_iff.1 hread
          rw [afterLook]
          split
          · exact .inl ⟨_, rfl⟩
          · rename_i hunrouted
            exact .inr ⟨rfl, route, rfl, fun hlisted => hunrouted (HttpRoute.isRouted_of_listed hr hm hlisted)⟩

/-- A route that can be read and routes to neither backend is split as any other. -/
theorem exists_run_reconcileRoutes {c : Canary} (ns : String) (sent : Sent) {route : Json} {m : Manifest}
    (hns : c.targetNamespace? = some ns) (ht : objectTarget? (routeAt c ns) .whole = some sent)
    (hread : readable Manifest.ofJson? route = .ok m) (hunrouted : HttpRoute.isRouted c m.body = false) :
    ∃ next, (Api.reconcileRoutes c).run = ask (I := Api.interface) (.get sent.path) next ∧
      next (.ok route) = (Api.setRoutes c .primaryOnly).run := by
  rw [run_reconcileRoutes_eq hns, Api.get, ht]
  refine ⟨_, rfl, ?_⟩
  show afterLook c (readable Manifest.ofJson? route) = _
  rw [hread, afterLook, hunrouted]
  rfl

namespace Contended

/-! ## Between the turns -/

/-- The turn has read a route. -/
structure Reads (turn : Turn) (path : String) (route : Json) : Prop where
  exchange : turn.exchange = ⟨.get path, .ok route⟩
  stored : turn.before.stored path = some route
  kept : turn.after = turn.before

/-- What others leave of a store: versions are kept, what was seen counts as seen, and what they have not put was
there before. -/
structure Overtaken (log : List RouteEvent) (before after : RouteStore) : Prop where
  versioned : before.Versioned → after.Versioned
  seen : ∀ {path : String} {route : Json}, before.Seen path route → after.Seen path route
  unput : ∀ {path : String} {route : Json}, .put path ∉ log → after.stored path = some route →
    before.stored path = some route

section Turns

variable {s t start now : Contended} {log : List RouteEvent} {e : RouteEvent} {turn : Turn}
  {result : Except RouterError Unit}

theorem Run.of_snoc (h : Run start (log ++ [e]) now) : ∃ s, Run start log s ∧ Step s e now := by
  generalize hall : log ++ [e] = all at h
  cases h with
  | nil => simp at hall
  | snoc hrun hstep =>
    obtain ⟨rfl, hlast⟩ := List.append_inj' hall rfl
    cases hlast
    exact ⟨_, hrun, hstep⟩

/-- A run can be cut anywhere. -/
theorem Run.of_append {log' : List RouteEvent} (h : Run start (log ++ log') now) :
    ∃ s, Run start log s ∧ Run s log' now := by
  induction log' using List.reverseRecOn generalizing now with
  | nil => exact ⟨now, by simpa using h, .nil now⟩
  | append_singleton log' e ih =>
    rw [← List.append_assoc] at h
    obtain ⟨t, hrun, hstep⟩ := h.of_snoc
    obtain ⟨s, hfirst, hrest⟩ := ih hrun
    exact ⟨s, hfirst, hrest.snoc hstep⟩

/-- A client that has ended takes no further turns. -/
theorem Run.turns_of_done (h : Run start log now) (hdone : start.running = done result) :
    turns log = [] ∧ now.running = done result := by
  induction h with
  | nil => exact ⟨rfl, hdone⟩
  | snoc _ hstep ih =>
    obtain ⟨hturns, hrunning⟩ := ih
    cases hstep with
    | put => exact ⟨by rw [turns_snoc, hturns]; rfl, hrunning⟩
    | removed => exact ⟨by rw [turns_snoc, hturns]; rfl, hrunning⟩
    | asked hasked =>
      rw [hrunning] at hasked
      cases hasked

/-- While the client takes no turn, its program is as it is, and the store is left to the others. -/
theorem Run.overtaken (h : Run start log now) (hquiet : turns log = []) :
    now.running = start.running ∧ Overtaken log start.store now.store := by
  induction h with
  | nil => exact ⟨rfl, id, id, fun _ hstored => hstored⟩
  | snoc _ hstep ih =>
    rw [turns_snoc, List.append_eq_nil_iff] at hquiet
    obtain ⟨hrunning, hversioned, hseen, hunput⟩ := ih hquiet.1
    cases hstep with
    | asked => cases hquiet.2
    | put path hnew ho hversion =>
      refine ⟨hrunning, fun h => (hversioned h).putAt ho hversion, fun h => (hseen h).putAt hnew hversion,
        fun {path' route'} hnot hstored => hunput (fun hmem => hnot (List.mem_append_left _ hmem)) ?_⟩
      have hne : path' ≠ path := by
        rintro rfl
        exact hnot (List.mem_append_right _ (List.mem_singleton_self _))
      rwa [RouteStore.putAt_stored, if_neg hne] at hstored
    | removed path =>
      refine ⟨hrunning, fun h => (hversioned h).removed path, fun h => (hseen h).removed path,
        fun {path' route'} hnot hstored => hunput (fun hmem => hnot (List.mem_append_left _ hmem)) ?_⟩
      rw [RouteStore.put_stored] at hstored
      split at hstored
      · cases hstored
      · exact hstored

/-- A run with a turn is one without, the first turn, and a run with the others. -/
theorem Run.first_turn (h : Run start log now) (hturn : turn ∈ turns log) : ∃ quiet first rest s t,
    log = quiet ++ .asked first :: rest ∧ turns quiet = [] ∧ s.running = start.running ∧
      Overtaken quiet start.store s.store ∧ Step s (.asked first) t ∧ Run t rest now ∧
      (turn = first ∨ turn ∈ turns rest) := by
  obtain ⟨first, others, hturns⟩ := List.exists_cons_of_ne_nil (List.ne_nil_of_mem hturn)
  obtain ⟨quiet, e, rest, rfl, hquiet, he, hrest⟩ := List.filterMap_eq_cons_iff.1 hturns
  obtain rfl : e = .asked first := by
    cases e <;> simp_all
  rw [← List.singleton_append, ← List.append_assoc] at h
  obtain ⟨t, hfirst, hrun⟩ := h.of_append
  obtain ⟨s, hbefore, hstep⟩ := hfirst.of_snoc
  have hnone : turns quiet = [] := List.filterMap_eq_nil_iff.2 hquiet
  obtain ⟨hrunning, hovertaken⟩ := hbefore.overtaken hnone
  refine ⟨quiet, first, rest, s, t, rfl, hnone, hrunning, hovertaken, hstep, hrun, ?_⟩
  rw [hturns] at hturn
  rw [show turns rest = others from hrest]
  exact List.mem_cons.1 hturn

end Turns

/-! ## The turns of a client -/

section Client

variable {c : Canary} {w : RouteWeights} {path : String} {route : Json} {start now : Contended} {log : List RouteEvent}
  {turn : Turn}

/-- A client that is about to patch a route changes what is stored with its next turn, the last, and writes the split
for that route. -/
theorem Run.split_after_read (h : Run start log now) (hturn : turn ∈ turns log) (hchanged : turn.after ≠ turn.before)
    (hpatches : Patches c w path route start.running) (hseen : start.store.Seen path route) :
    ∃ quiet rest, log = quiet ++ .asked turn :: rest ∧ turns quiet = [] ∧ turns rest = [] ∧
      turn.before.Split c w path turn.after route := by
  obtain ⟨quiet, first, rest, s, t, hlog, hquiet, hrunning, hovertaken, hstep, hrun, hlater⟩ := h.first_turn hturn
  cases hstep with
  | asked hasked hanswers =>
    rw [← hrunning] at hpatches
    obtain ⟨result, hdone, hend⟩ := patch_answered hasked hanswers hpatches (hovertaken.seen hseen)
    have hrest := (hrun.turns_of_done hdone).1
    obtain rfl : turn = _ := hlater.resolve_right (by rw [hrest]; exact List.not_mem_nil)
    exact ⟨quiet, rest, hlog, hquiet, hrest, (hend.resolve_left fun hsame => hchanged hsame.1).1⟩

/-- A client that is about to write a split changes what is stored with its second turn, the last, and writes the
split for the route that its first has read. -/
theorem Run.split_after_start (h : Run start log now) (hturn : turn ∈ turns log) (hchanged : turn.after ≠ turn.before)
    (hrunning : start.running = (Api.setRoutes c w).run) (hversioned : start.store.Versioned) :
    ∃ path route read before between rest, routePath? c = some path ∧
      log = before ++ .asked read :: (between ++ .asked turn :: rest) ∧ turns before = [] ∧ turns between = [] ∧
      turns rest = [] ∧ Reads read path route ∧ Overtaken before start.store read.before ∧
      turn.before.Split c w path turn.after route := by
  obtain ⟨before, first, rest, s, t, hlog, hbefore, hkept, hovertaken, hstep, hrun, hlater⟩ := h.first_turn hturn
  cases hstep with
  | asked hasked hanswers =>
    obtain ⟨rfl, path, hpath, ⟨result, hdone, -⟩ | ⟨route, hread, hroute, -, hseen, hpatches⟩⟩ :=
      read_answered hasked hanswers (hkept.trans hrunning) (hovertaken.versioned hversioned)
    · rw [(hrun.turns_of_done hdone).1] at hlater
      obtain rfl := hlater.resolve_right List.not_mem_nil
      exact absurd rfl hchanged
    · have hmem : turn ∈ turns rest := hlater.resolve_left (by rintro rfl; exact hchanged rfl)
      obtain ⟨between, rest, rfl, hbetween, hrest, hsplit⟩ := hrun.split_after_read hmem hchanged hpatches hseen
      exact ⟨path, route, _, before, between, rest, hpath, hlog, hbefore, hbetween, hrest, ⟨hread, hroute, rfl⟩,
        hovertaken, hsplit⟩

/-- The first turn of seeding looks at the route. -/
theorem look_answered {s : Contended} {r : Api.Request}
    {next : Api.Reply r → Program Api.interface (Except RouterError Unit)} {reply : Api.Reply r} {store : RouteStore}
    (hasked : s.running = ask r next) (hanswers : s.store.Answers r reply store)
    (hrunning : s.running = (Api.reconcileRoutes c).run) :
    store = s.store ∧ ((∃ result, next reply = done result) ∨ next reply = (Api.setRoutes c .primaryOnly).run ∧
      ∃ path route, routePath? c = some path ∧ (⟨r, reply⟩ : Exchange Api.interface) = ⟨.get path, .ok route⟩ ∧
        s.store.stored path = some route ∧ ¬ HttpRoute.Listed c route) := by
  rw [hrunning] at hasked
  rcases run_reconcileRoutes_cases c with ⟨result, hdone⟩ | ⟨path, next', hpath, hrun, hnext⟩
  · rw [hdone] at hasked
    cases hasked
  · rw [hrun] at hasked
    cases hasked
    cases hanswers with
    | @found _ route hroute =>
      refine ⟨rfl, (hnext (.ok route)).imp_right fun ⟨hwrites, found, hfound, hunlisted⟩ => ?_⟩
      cases hfound
      exact ⟨hwrites, path, route, hpath, rfl, hroute, hunlisted⟩
    | unread failure hmissing =>
      refine ⟨rfl, (hnext (.error failure)).imp_right fun ⟨_, _, hfound, _⟩ => ?_⟩
      cases hfound
    | aside _ hget => exact absurd rfl (hget path)

/-- However others put and remove routes while a client seeds one, and whatever fails: what is stored is changed by at
most one turn of the client, its third and last, which writes all traffic to the baseline into the route that the
second has read and that is stored then. The first has read a route that lists neither service, and where the route
that is written over lists one, another writer has put it between the two reads. -/
theorem reconcileRoutes_seeds (h : Run start log now) (hrunning : start.running = (Api.reconcileRoutes c).run)
    (hversioned : start.store.Versioned) (hturn : .asked turn ∈ log) (hchanged : turn.after ≠ turn.before) :
    ∃ path found route look read before between last rest, routePath? c = some path ∧
      log = before ++ .asked look :: (between ++ .asked read :: (last ++ .asked turn :: rest)) ∧
      turns before = [] ∧ turns between = [] ∧ turns last = [] ∧ turns rest = [] ∧
      Reads look path found ∧ ¬ HttpRoute.Listed c found ∧ Reads read path route ∧
      turn.before.Split c .primaryOnly path turn.after route ∧
      (HttpRoute.Listed c route → .put path ∈ between) := by
  have hmem : turn ∈ turns log := List.mem_filterMap.2 ⟨_, hturn, rfl⟩
  obtain ⟨before, look, rest, s, t, hlog, hbefore, hkept, hovertaken, hstep, hrun, hlater⟩ := h.first_turn hmem
  cases hstep with
  | asked hasked hanswers =>
    obtain ⟨rfl, ⟨result, hdone⟩ | ⟨hwrites, path, found, hpath, hlook, hfound, hunlisted⟩⟩ :=
      look_answered hasked hanswers (hkept.trans hrunning)
    · rw [(hrun.turns_of_done hdone).1] at hlater
      obtain rfl := hlater.resolve_right List.not_mem_nil
      exact absurd rfl hchanged
    · have hmem : turn ∈ turns rest := hlater.resolve_left (by rintro rfl; exact hchanged rfl)
      obtain ⟨path', route, read, between, last, rest, hpath', rfl, hbetween, hlast, hrest, hread, hover, hsplit⟩ :=
        hrun.split_after_start hmem hchanged hwrites (hovertaken.versioned hversioned)
      obtain rfl : path' = path := Option.some.inj (hpath'.symm.trans hpath)
      refine ⟨path', found, route, _, read, before, between, last, rest, hpath, hlog, hbefore, hbetween, hlast, hrest,
        ⟨hlook, hfound, rfl⟩, hunlisted, hread, hsplit, fun hlisted => ?_⟩
      -- else the second read finds what the first has found
      by_contra hunput
      have hsame : some found = some route := hfound.symm.trans (hover.unput hunput hread.stored)
      exact hunlisted (Option.some.inj hsame ▸ hlisted)

end Client

/-! ### Seeding alone, and while another writer shifts traffic -/

/-- Seeding finds that `sharedRoute` lists neither service, and goes on to write the split. -/
theorem run_looked : ∃ look, Run ⟨holding HttpRoute.sharedRoute "42", (Api.reconcileRoutes HttpRoute.sharedCanary).run⟩
    [.asked look] ⟨holding HttpRoute.sharedRoute "42", (Api.setRoutes HttpRoute.sharedCanary .primaryOnly).run⟩ := by
  obtain ⟨m, hread, hunrouted⟩ : ∃ m, readable Manifest.ofJson? HttpRoute.sharedRoute = .ok m ∧
      HttpRoute.isRouted HttpRoute.sharedCanary m.body = false := ⟨_, rfl, by decide +kernel⟩
  have hroute : (holding HttpRoute.sharedRoute "42").stored sharedPath = some HttpRoute.sharedRoute := by simp [holding]
  obtain ⟨next, hrun, hnext⟩ := exists_run_reconcileRoutes "prod" ⟨sharedPath, true⟩
    (show HttpRoute.sharedCanary.targetNamespace? = some "prod" from rfl) (by decide +kernel) hread hunrouted
  have hlook := (Run.nil ⟨holding HttpRoute.sharedRoute "42", _⟩).snoc (.asked hrun (.found hroute))
  rw [hnext] at hlook
  exact ⟨_, hlook⟩

open HttpRoute in
/-- Nobody else writes, and a route that lists neither service is written over. -/
theorem reconcileRoutes_seeds_alone : ∃ start log now turn path route, Run start log now ∧
    start.running = (Api.reconcileRoutes sharedCanary).run ∧ start.store.Versioned ∧ .asked turn ∈ log ∧
    turn.after ≠ turn.before ∧ turn.before.stored path = some route ∧ ¬ Listed sharedCanary route := by
  obtain ⟨look, hlook⟩ := run_looked
  obtain ⟨m, body, hread, hbody, hcurrent⟩ : ∃ m body, readable Manifest.ofJson? sharedRoute = .ok m ∧
      (patch sharedCanary .primaryOnly m).resent? = some body ∧ World.isOutdated body sharedRoute = false :=
    ⟨_, _, rfl, rfl, rfl⟩
  have hnew : "43" ∉ (holding sharedRoute "42").issued := by simp [holding]
  obtain ⟨next, hrun⟩ := Run.patched "prod" "43" ⟨sharedPath, true⟩ hlook rfl (by decide +kernel)
    (by simp [holding]) hread hbody hcurrent hnew
  have hversioned : (holding sharedRoute "42").Versioned := versioned_holding ordered_sharedRoute rfl
  obtain ⟨path, found, route, look', read', before, between, last, rest, -, hlog, -, -, -, -, -, -, -, hsplit, hput⟩ :=
    reconcileRoutes_seeds hrun rfl hversioned (List.mem_append_right _ (List.mem_singleton_self _))
      (RouteStore.putAt_ne hnew)
  refine ⟨_, _, _, _, path, route, hrun, rfl, hversioned, List.mem_append_right _ (List.mem_singleton_self _),
    RouteStore.putAt_ne hnew, hsplit.stored, fun hlisted => ?_⟩
  have hevent := congrArg (RouteEvent.put path ∈ ·) hlog
  simp [hput hlisted] at hevent

/-- `sharedRoute` after another writer has moved some of its traffic to the canary. -/
def shiftedRoute : Json :=
  let rules := HttpRoute.splitRules HttpRoute.sharedCanary ⟨70, 30, false⟩ [HttpRoute.sharedRule, HttpRoute.otherRule]
  (HttpRoute.sharedRoute.update (·.set "rules" (.arr rules)) ["spec"]).atVersion "43"

theorem ordered_shiftedRoute : shiftedRoute.Ordered := by
  refine ordered_atVersion (Ordered.update (fun hj => hj.set "rules" ?_) ["spec"] HttpRoute.ordered_sharedRoute) "43"
  refine (orderedItems_iff _).2 (HttpRoute.ordered_splitRules ?_)
  exact HttpRoute.ordered_rules HttpRoute.ordered_sharedRoute

open HttpRoute in
/-- Another writer moves traffic to the canary between the two reads; the split is there when the patch gets through,
and gone after it. -/
theorem reconcileRoutes_resets : ∃ start log now turn before after, Run start log now ∧
    start.running = (Api.reconcileRoutes sharedCanary).run ∧ start.store.Versioned ∧ .asked turn ∈ log ∧
    turn.before.stored sharedPath = some before ∧ Listed sharedCanary before ∧
    weights before "podinfo-primary" "podinfo-canary" = ⟨70, 30, false⟩ ∧
    turn.after.stored sharedPath = some after ∧
    weights after "podinfo-primary" "podinfo-canary" = ⟨100, 0, false⟩ := by
  obtain ⟨look, hlook⟩ := run_looked
  have hput := hlook.snoc (.put sharedPath (by simp [holding]) ordered_shiftedRoute (versionOf?_atVersion "43" _))
  obtain ⟨m, body, hread, hbody, hcurrent, hafter⟩ : ∃ m body, readable Manifest.ofJson? shiftedRoute = .ok m ∧
      (patch sharedCanary .primaryOnly m).resent? = some body ∧ World.isOutdated body shiftedRoute = false ∧
      weights ((body.merge shiftedRoute).atVersion "44") "podinfo-primary" "podinfo-canary" = ⟨100, 0, false⟩ :=
    ⟨_, _, rfl, rfl, rfl, by decide +kernel⟩
  obtain ⟨next, hrun⟩ := Run.patched "prod" "44" ⟨sharedPath, true⟩ hput rfl (by decide +kernel)
    (by simp) hread hbody hcurrent (by simp [holding])
  exact ⟨_, _, _, _, shiftedRoute, _, hrun, rfl, versioned_holding ordered_sharedRoute rfl,
    List.mem_append_right _ (List.mem_singleton_self _), by simp,
    ⟨_, _, _, _, "podinfo-primary", rfl, rfl, List.mem_cons_self .., rfl, .inl rfl⟩, by decide +kernel, by simp, hafter⟩

end Contended

end Rollout
