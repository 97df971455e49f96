/-
A route with several writers. Writing a split reads the route and patches it under the guard of the version that was
read, while others put routes and remove them as they like; a run interleaves them in any order, and any request can
fail, before or after it has had its effect. Main statement: `Contended.setRoutes_guarded`, the split is written at
most once, and then the patch is the one made for the route that is stored immediately before; where nothing is
written, the route is missing or another try can help.
-/
import Rollout.Proofs.Routing.Repair
import Rollout.Proofs.Routing.RouteStore

namespace Rollout

open Program Json Api Store

/-! ## The client -/

/-- The path of the route that carries a canary's split, if it can be asked for. -/
def routePath? (c : Canary) : Option String :=
  (c.targetNamespace?.bind fun ns => objectTarget? (routeAt c ns) .whole).map (·.path)

theorem routePath?_eq {c : Canary} {ns : String} (h : c.targetNamespace? = some ns) :
    routePath? c = (objectTarget? (routeAt c ns) .whole).map (·.path) := by
  unfold routePath?
  rw [h]
  rfl

/-- The result is an error, and another try can help. -/
def Retries (result : Except RouterError Unit) : Prop := ∃ e, result = .error e ∧ e.isRetriable = true

/-- The program patches a route with the split, made for what is read of it, and ends. -/
def Patches (c : Canary) (w : RouteWeights) (path : String) (route : Json)
    (p : Program Api.interface (Except RouterError Unit)) : Prop :=
  ∃ r m body next, route.ReadAs r ∧ Manifest.ofJson? r = some m ∧ (HttpRoute.patch c w m).ReadAs body ∧
    p = ask (I := Api.interface) (.patch path body) next ∧ ∀ reply, ∃ result, next reply = done result ∧
      (Retries result ∨ result = .ok () ∧ ∀ failure, reply = .error failure → failure.saysMissing)

/-- How the work ends once the patch of a route is answered. -/
def afterPatch (a : Address) (w : RouteWeights) : Except ApiFailure Manifest → Except RouterError Unit
  | .ok _ => .ok ()
  | .error (.status 404 _) => .ok ()
  | .error failure => .error (.route a.name a.ns w.primary w.canary failure.message)

theorem afterPatch_cases (a : Address) (w : RouteWeights) (found : Except ApiFailure Manifest) :
    Retries (afterPatch a w found) ∨
      afterPatch a w found = .ok () ∧ ∀ failure, found = .error failure → failure.saysMissing := by
  unfold afterPatch
  split
  · exact .inr ⟨rfl, fun _ h => by cases h⟩
  · exact .inr ⟨rfl, fun _ h => by cases h; exact .inl rfl⟩
  · exact .inl ⟨_, rfl, rfl⟩

/-- What is done once the route has been read. -/
def afterRead (c : Canary) (w : RouteWeights) (a : Address) :
    Except ApiFailure Manifest → Program Api.interface (Except RouterError Unit)
  | .ok route => (Api.patch Manifest.ofJson? a .whole (HttpRoute.patch c w route)).bind fun found =>
      done (afterPatch a w found)
  | .error (.status _ "NotFound") => done (.ok ())
  | .error failure => done (.error (.api failure))

theorem run_setRoutes_eq {c : Canary} {ns : String} (h : c.targetNamespace? = some ns) (w : RouteWeights) :
    (Api.setRoutes c w).run = (Api.get Manifest.ofJson? (routeAt c ns)).bind (afterRead c w (routeAt c ns)) := by
  unfold Api.setRoutes routeAddress
  rw [h]
  show ExceptT.run (Api.route (routeAt c ns) >>= _) = _
  unfold Api.route
  rw [LawfulMonad.bind_assoc, run_lift_bind]
  refine congrArg (Program.bind _) (funext fun found => ?_)
  split
  · show ExceptT.run (ExceptT.lift _ >>= _) = _
    rw [run_lift_bind]
    refine congrArg (Program.bind _) (funext fun answer => ?_)
    split
    · rfl
    · rfl
    · rename_i failure hother
      exact congrArg done (afterPatch.eq_3 (routeAt c ns) w failure hother).symm
  · rfl
  · rename_i failure hother
    exact (afterRead.eq_3 c w (routeAt c ns) failure hother).symm

section Sent

variable {c : Canary} {w : RouteWeights} {a : Address} {m : Manifest}

theorem afterRead_of_unsent (h : (HttpRoute.patch c w m).resent? = none) :
    afterRead c w a (.ok m) = done (afterPatch a w (.error .unreadable)) := by
  rw [afterRead, Api.patch, h]
  cases objectTarget? a .whole <;> rfl

theorem afterRead_of_sent {sent : Sent} {body : Json} (ht : objectTarget? a .whole = some sent)
    (h : (HttpRoute.patch c w m).resent? = some body) :
    afterRead c w a (.ok m) = ask (I := Api.interface) (.patch sent.path body) fun reply =>
      done (afterPatch a w (reply.bind (readable Manifest.ofJson?))) := by
  rw [afterRead, Api.patch, ht, h]
  refine congrArg (ask (I := Api.interface) (.patch sent.path body)) (funext fun reply => ?_)
  cases reply <;> rfl

/-- A route that can be read is patched where it was read. -/
theorem exists_run_setRoutes {ns : String} {sent : Sent} {route body : Json} (hns : c.targetNamespace? = some ns)
    (ht : objectTarget? (routeAt c ns) .whole = some sent) (hread : readable Manifest.ofJson? route = .ok m)
    (hbody : (HttpRoute.patch c w m).resent? = some body) :
    ∃ next next', (Api.setRoutes c w).run = ask (I := Api.interface) (.get sent.path) next ∧
      next (.ok route) = ask (I := Api.interface) (.patch sent.path body) next' := by
  have hrun : (Api.setRoutes c w).run = ask (I := Api.interface) (.get sent.path) fun reply =>
      afterRead c w (routeAt c ns) (reply.bind (readable Manifest.ofJson?)) := by
    rw [run_setRoutes_eq hns, Api.get, ht]
    refine congrArg (ask (I := Api.interface) (.get sent.path)) (funext fun reply => ?_)
    cases reply <;> rfl
  have hnext : ∃ next', afterRead c w (routeAt c ns) (readable Manifest.ofJson? route) =
      ask (I := Api.interface) (.patch sent.path body) next' := by
    rw [hread]
    exact ⟨_, afterRead_of_sent ht hbody⟩
  obtain ⟨next', hnext⟩ := hnext
  exact ⟨_, next', hrun, hnext⟩

/-- Whatever a patch is answered, the work ends well where it was carried out or nothing is there. -/
theorem afterPatch_reply_cases (a : Address) (w : RouteWeights) (reply : Except ApiFailure Json) :
    Retries (afterPatch a w (reply.bind (readable Manifest.ofJson?))) ∨
      afterPatch a w (reply.bind (readable Manifest.ofJson?)) = .ok () ∧
        ∀ failure, reply = .error failure → failure.saysMissing := by
  refine (afterPatch_cases a w _).imp_right fun ⟨hok, hmissing⟩ => ⟨hok, fun failure hreply => ?_⟩
  subst hreply
  exact hmissing failure rfl

end Sent

/-- Writing a split fails at once where no route can be asked for, and else reads the route, and patches it where it
was read. -/
theorem run_setRoutes_cases (c : Canary) (w : RouteWeights) :
    (∃ result, (Api.setRoutes c w).run = done result ∧ Retries result) ∨
    ∃ path next, routePath? c = some path ∧ (Api.setRoutes c w).run = ask (I := Api.interface) (.get path) next ∧
      (∀ failure, ∃ result, next (.error failure) = done result ∧
        (Retries result ∨ result = .ok () ∧ failure.saysMissing)) ∧
      ∀ route, (∃ result, next (.ok route) = done result ∧ Retries result) ∨
        Patches c w path route (next (.ok route)) := by
  cases hns : c.targetNamespace? with
  | none =>
    refine .inl ⟨.error (.route c.routeName "" 0 0 "canary has no namespace"), ?_, _, rfl, rfl⟩
    unfold Api.setRoutes routeAddress
    rw [hns]
    rfl
  | some ns =>
    rw [run_setRoutes_eq hns, routePath?_eq hns]
    unfold Api.get
    cases ht : objectTarget? (routeAt c ns) .whole with
    | none => exact .inl ⟨.error (.api .unreadable), rfl, _, rfl, rfl⟩
    | some sent =>
      refine .inr ⟨sent.path, _, rfl, rfl, fun failure => ?_, fun route => ?_⟩
      · show ∃ result, afterRead c w (routeAt c ns) (.error failure) = done result ∧ _
        unfold afterRead
        split
        · rename_i h; cases h
        · rename_i h; cases h; exact ⟨_, rfl, .inr ⟨rfl, .inr rfl⟩⟩
        · exact ⟨_, rfl, .inl ⟨_, rfl, rfl⟩⟩
      · show (∃ result, afterRead c w (routeAt c ns) (readable Manifest.ofJson? route) = done result ∧ _) ∨
          Patches c w sent.path route (afterRead c w (routeAt c ns) (readable Manifest.ofJson? route))
        cases hread : readable Manifest.ofJson? route with
        | error failure =>
          obtain rfl := eq_unreadable_of_readable hread
          exact .inl ⟨_, rfl, _, rfl, rfl⟩
        | ok m =>
          obtain ⟨r, hr, hm⟩ := readable_eq_ok_iff.1 hread
          cases hbody : (HttpRoute.patch c w m).resent? with
          | none => exact .inl ⟨_, afterRead_of_unsent hbody, _, rfl, rfl⟩
          | some body =>
            exact .inr ⟨r, m, body, _, hr, hm, hbody, afterRead_of_sent ht hbody, fun reply =>
              ⟨_, rfl, afterPatch_reply_cases (routeAt c ns) w reply⟩⟩

/-! ## Runs -/

/-- A store, and the client that uses it as the program that is left of it. -/
structure Contended where
  store : RouteStore
  running : Program Api.interface (Except RouterError Unit)

/-- A request of the client and its answer, between the stores before and after. -/
structure Turn where
  exchange : Exchange Api.interface
  before : RouteStore
  after : RouteStore

/-- What happens in a step. -/
inductive RouteEvent where
  /-- The client makes a request and is answered. -/
  | asked (turn : Turn)
  /-- Another writer puts a route. -/
  | put (path : String)
  /-- Another writer removes a route. -/
  | removed (path : String)

namespace Contended

/-- One step of the client or of another writer. -/
inductive Step : Contended → RouteEvent → Contended → Prop
  | asked {s : Contended} {r : Api.Request} {next : Api.Reply r → Program Api.interface (Except RouterError Unit)}
      {reply : Api.Reply r} {store : RouteStore} :
      s.running = .ask r next → s.store.Answers r reply store →
      Step s (.asked ⟨⟨r, reply⟩, s.store, store⟩) ⟨store, next reply⟩
  | put {s : Contended} (path : String) {route : Json} {version : String} :
      version ∉ s.store.issued → route.Ordered → versionOf? route = some (.str version) →
      Step s (.put path) { s with store := s.store.putAt path route version }
  | removed {s : Contended} (path : String) : Step s (.removed path) { s with store := s.store.put path none }

/-- Any number of steps, as the log says. -/
inductive Run : Contended → List RouteEvent → Contended → Prop
  | nil (s : Contended) : Run s [] s
  | snoc {s t u : Contended} {log : List RouteEvent} {e : RouteEvent} :
      Run s log t → Step t e u → Run s (log ++ [e]) u

/-- The turns of the client. -/
def turns (log : List RouteEvent) : List Turn :=
  log.filterMap fun
    | .asked turn => some turn
    | _ => none

theorem turns_snoc (log : List RouteEvent) (e : RouteEvent) : turns (log ++ [e]) = turns log ++ turns [e] :=
  List.filterMap_append

/-- How the client ends after these turns: nothing has been changed, and another try can help or the route was
missing; or the last turn has written the split. -/
inductive Settled (c : Canary) (w : RouteWeights) (result : Except RouterError Unit) : List Turn → Prop
  | unchanged {done : List Turn} : (∀ turn ∈ done, turn.after = turn.before) →
      (Retries result ∨ result = .ok () ∧
        ∃ turn ∈ done, ∃ path, routePath? c = some path ∧ turn.before.stored path = none) →
      Settled c w result done
  | written {done : List Turn} {turn : Turn} {path : String} {route : Json} :
      (∀ turn ∈ done, turn.after = turn.before) → routePath? c = some path → route.Ordered →
      turn.before.Split c w path turn.after route → (Retries result ∨ result = .ok ()) →
      Settled c w result (done ++ [turn])

/-- Where the client stands after its turns. -/
inductive Standing (c : Canary) (w : RouteWeights) : List Turn → Contended → Prop
  /-- It has not begun. -/
  | reading {s : Contended} : s.running = (Api.setRoutes c w).run → s.store.Versioned → Standing c w [] s
  /-- It has read a route, and is about to patch it. -/
  | patching {s : Contended} {done : List Turn} {path : String} {route : Json} :
      (∀ turn ∈ done, turn.after = turn.before) → routePath? c = some path → route.Ordered →
      s.store.Seen path route → Patches c w path route s.running → Standing c w done s
  /-- It has ended. -/
  | settled {s : Contended} {done : List Turn} {result : Except RouterError Unit} :
      s.running = .done result → Settled c w result done → Standing c w done s

section Run

variable {c : Canary} {w : RouteWeights} {s t start now : Contended} {log : List RouteEvent} {e : RouteEvent}

section Asked

variable {r : Api.Request} {next : Api.Reply r → Program Api.interface (Except RouterError Unit)} {reply : Api.Reply r}
  {store : RouteStore} (hasked : s.running = .ask r next) (hanswers : s.store.Answers r reply store)

include hasked hanswers

/-- The first request reads the route: the work ends then, or the route is there and the work goes on with a patch
for it. -/
theorem read_answered (hrunning : s.running = (Api.setRoutes c w).run) (hversioned : s.store.Versioned) :
    store = s.store ∧ ∃ path, routePath? c = some path ∧
      ((∃ result, next reply = done result ∧ (Retries result ∨ result = .ok () ∧ s.store.stored path = none)) ∨
        ∃ route, (⟨r, reply⟩ : Exchange Api.interface) = ⟨.get path, .ok route⟩ ∧ s.store.stored path = some route ∧
          route.Ordered ∧ s.store.Seen path route ∧ Patches c w path route (next reply)) := by
  rw [hrunning] at hasked
  rcases run_setRoutes_cases c w with ⟨result, hdone, -⟩ | ⟨path, next', hpath, hrun, herror, hfound⟩
  · rw [hdone] at hasked
    cases hasked
  · rw [hrun] at hasked
    cases hasked
    cases hanswers with
    | @found _ route hroute =>
      refine ⟨rfl, path, hpath, ?_⟩
      rcases hfound route with ⟨result, hdone, hretries⟩ | hpatches
      · exact .inl ⟨result, hdone, .inl hretries⟩
      · exact .inr ⟨route, rfl, hroute, (hversioned path route hroute).1, hversioned.seen hroute, hpatches⟩
    | unread failure hmissing =>
      obtain ⟨result, hdone, hend⟩ := herror failure
      exact ⟨rfl, path, hpath, .inl ⟨result, hdone, hend.imp_right fun ⟨hok, hsaid⟩ => ⟨hok, hmissing hsaid⟩⟩⟩
    | aside _ hget => exact absurd rfl (hget path)

/-- A patch for a route that was seen ends the work: it has written the split for that route, or the store is as it
was. -/
theorem patch_answered {path : String} {route : Json} (hpatches : Patches c w path route s.running)
    (hseen : s.store.Seen path route) : ∃ result, next reply = done result ∧
      (store = s.store ∧ (Retries result ∨ result = .ok () ∧ s.store.stored path = none) ∨
        s.store.Split c w path store route ∧ (Retries result ∨ result = .ok ())) := by
  obtain ⟨read, m, body, next', hr, hm, hbody, hrunning, hend⟩ := hpatches
  rw [hrunning] at hasked
  cases hasked
  have hversion : versionOf? body = versionOf? route := by
    obtain ⟨v, -, hv, -⟩ := hseen
    rw [hv]
    exact HttpRoute.versionOf?_patch hr hm hbody hv
  have hsplit : ∀ {route' : Json} {version : String}, s.store.stored path = some route' →
      World.isOutdated body route' = false → version ∉ s.store.issued → s.store.Split c w path
        (s.store.putAt path ((body.merge route').atVersion version) version) route := by
    intro route' version hstored hcurrent hnew
    obtain rfl := hseen.eq_of_not_outdated hversion hstored hcurrent
    exact ⟨hstored, read, m, body, version, hr, hm, hbody, hnew, rfl⟩
  cases hanswers with
  | patched hstored hcurrent hnew =>
    obtain ⟨result, hresult, hends⟩ := hend (.ok _)
    exact ⟨result, hresult, .inr ⟨hsplit hstored hcurrent hnew, hends.imp_right And.left⟩⟩
  | unacknowledged failure hstored hcurrent hnew =>
    obtain ⟨result, hresult, hends⟩ := hend (.error failure)
    exact ⟨result, hresult, .inr ⟨hsplit hstored hcurrent hnew, hends.imp_right And.left⟩⟩
  | refused failure hmissing =>
    obtain ⟨result, hresult, hends⟩ := hend (.error failure)
    exact ⟨result, hresult, .inl ⟨rfl, hends.imp_right fun ⟨hok, hsaid⟩ => ⟨hok, hmissing (hsaid failure rfl)⟩⟩⟩
  | aside _ _ hpatch => exact absurd rfl (hpatch path body)

/-- The first request takes the client to the patch, or to its end. -/
theorem Standing.ofRead (hrunning : s.running = (Api.setRoutes c w).run) (hversioned : s.store.Versioned) :
    Standing c w [⟨⟨r, reply⟩, s.store, store⟩] ⟨store, next reply⟩ := by
  obtain ⟨rfl, path, hpath, ⟨result, hresult, hend⟩ | ⟨route, -, -, ho, hseen, hpatches⟩⟩ :=
    read_answered hasked hanswers hrunning hversioned
  · exact .settled hresult (.unchanged (by simp) (hend.imp_right fun ⟨hok, hmissing⟩ =>
      ⟨hok, _, List.mem_singleton_self _, path, hpath, hmissing⟩))
  · exact .patching (by simp) hpath ho hseen hpatches

/-- The second request takes it to its end. -/
theorem Standing.ofPatch {done : List Turn} {path : String} {route : Json}
    (hdone : ∀ turn ∈ done, turn.after = turn.before) (hpath : routePath? c = some path) (hroute : route.Ordered)
    (hseen : s.store.Seen path route) (hpatches : Patches c w path route s.running) :
    Standing c w (done ++ [⟨⟨r, reply⟩, s.store, store⟩]) ⟨store, next reply⟩ := by
  obtain ⟨result, hresult, ⟨rfl, hend⟩ | ⟨hsplit, hend⟩⟩ := patch_answered hasked hanswers hpatches hseen
  · refine .settled hresult (.unchanged (fun turn hturn => ?_) (hend.imp_right fun ⟨hok, hmissing⟩ =>
      ⟨hok, _, List.mem_append_right _ (List.mem_singleton_self _), path, hpath, hmissing⟩))
    rcases List.mem_append.1 hturn with hturn | hturn
    · exact hdone turn hturn
    · rw [List.mem_singleton.1 hturn]
  · exact .settled hresult (.written hdone hpath hroute hsplit hend)

end Asked

/-- One step takes the client from where it stands to where it stands then. -/
theorem Standing.step {done : List Turn} (h : Standing c w done s) (hstep : Step s e t) :
    Standing c w (done ++ turns [e]) t := by
  cases hstep with
  | put path hnew ho hversion =>
    rw [show turns [.put path] = [] from rfl, List.append_nil]
    cases h with
    | reading hrunning hversioned => exact .reading hrunning (hversioned.putAt ho hversion)
    | patching hdone hpath hroute hseen hpatches =>
      exact .patching hdone hpath hroute (hseen.putAt hnew hversion) hpatches
    | settled hrunning hsettled => exact .settled hrunning hsettled
  | removed path =>
    rw [show turns [.removed path] = [] from rfl, List.append_nil]
    cases h with
    | reading hrunning hversioned => exact .reading hrunning (hversioned.removed path)
    | patching hdone hpath hroute hseen hpatches =>
      exact .patching hdone hpath hroute (hseen.removed path) hpatches
    | settled hrunning hsettled => exact .settled hrunning hsettled
  | @asked r next reply store hasked hanswers =>
    rw [show turns [.asked ⟨⟨r, reply⟩, s.store, store⟩] = [⟨⟨r, reply⟩, s.store, store⟩] from rfl]
    cases h with
    | reading hrunning hversioned => exact .ofRead hasked hanswers hrunning hversioned
    | patching hdone hpath hroute hseen hpatches =>
      exact .ofPatch hasked hanswers hdone hpath hroute hseen hpatches
    | settled hrunning hsettled => rw [hrunning] at hasked; cases hasked

/-- A client that writes a split stands, after any run, where its turns have taken it. -/
theorem Run.standing (h : Run start log now) (hrunning : start.running = (Api.setRoutes c w).run)
    (hversioned : start.store.Versioned) : Standing c w (turns log) now := by
  induction h with
  | nil => exact .reading hrunning hversioned
  | snoc _ hstep ih =>
    rw [turns_snoc]
    exact ih.step hstep

/-- The turns of a client before the one that changes the store leave it alone, and none comes after. -/
theorem Standing.of_changed {before after : List Turn} {turn : Turn} (h : Standing c w (before ++ turn :: after) now)
    (hturn : turn.after ≠ turn.before) : (∀ t ∈ before, t.after = t.before) ∧ after = [] ∧
      ∃ path route, routePath? c = some path ∧ route.Ordered ∧ turn.before.Split c w path turn.after route := by
  have hmem : turn ∈ before ++ turn :: after := List.mem_append_right _ (List.mem_cons_self ..)
  generalize hall : before ++ turn :: after = all at h hmem
  cases h with
  | reading => cases hmem
  | patching hkept => exact absurd (hkept turn hmem) hturn
  | settled _ hsettled =>
    cases hsettled with
    | unchanged hkept => exact absurd (hkept turn hmem) hturn
    | @written done last path route hkept hpath hroute hsplit =>
      have hafter : after = [] := by
        by_contra hne
        -- the last turn is another one, and this is among those that keep the store
        obtain ⟨rest, _, rfl⟩ := (List.eq_nil_or_concat after).resolve_left hne
        rw [List.concat_eq_append, ← List.cons_append, ← List.append_assoc] at hall
        have hdone := (List.append_inj' hall rfl).1
        exact hturn (hkept turn (by rw [← hdone]; simp))
      subst hafter
      obtain ⟨rfl, hlast⟩ := List.append_inj' hall rfl
      cases hlast
      exact ⟨hkept, rfl, path, route, hpath, hroute, hsplit⟩

/-- A client that has ended without a change to the store can do better with another try, or found no route. -/
theorem Standing.of_done {done : List Turn} (h : Standing c w done now) {result : Except RouterError Unit}
    (hdone : now.running = .done result) : (Retries result ∨ result = .ok ()) ∧
      ((∀ turn ∈ done, turn.after = turn.before) → Retries result ∨ result = .ok () ∧
        ∃ turn ∈ done, ∃ path, routePath? c = some path ∧ turn.before.stored path = none) := by
  cases h with
  | reading hrunning =>
    rw [hdone] at hrunning
    rcases run_setRoutes_cases c w with ⟨_, hrun, hretries⟩ | ⟨_, _, -, hrun, -⟩
    · rw [hrun] at hrunning
      cases hrunning
      exact ⟨.inl hretries, fun _ => .inl hretries⟩
    · rw [hrun] at hrunning
      cases hrunning
  | patching _ _ _ _ hpatches =>
    obtain ⟨_, _, _, _, -, -, -, hrunning, -⟩ := hpatches
    rw [hdone] at hrunning
    cases hrunning
  | settled hrunning hsettled =>
    rw [hdone] at hrunning
    cases hrunning
    cases hsettled with
    | unchanged _ hend => exact ⟨hend.imp_right And.left, fun _ => hend⟩
    | written _ _ _ hsplit hend =>
      exact ⟨hend, fun hkept => absurd (hkept _ (List.mem_append_right _ (List.mem_singleton_self _))) hsplit.ne⟩

/-- However others put and remove routes while a client writes a split, and whatever fails: at most one turn of the
client changes what is stored, its last, and that turn writes the split made for the route that is stored then; where
none does, the client ends with an error after which another try can help, or the route was missing. Where the rules
come through as text unchanged, what is put is exactly the route with the split written into it, and the rules are
kept. -/
theorem setRoutes_guarded (h : Run start log now) (hrunning : start.running = (Api.setRoutes c w).run)
    (hversioned : start.store.Versioned) :
    (∀ before turn after, turns log = before ++ turn :: after → turn.after ≠ turn.before →
      (∀ t ∈ before, t.after = t.before) ∧ after = [] ∧
      ∃ path route, routePath? c = some path ∧ turn.before.Split c w path turn.after route ∧
        ((∀ rule ∈ HttpRoute.rules route, rule.Steady) →
          (∃ m version, Manifest.ofJson? route = some m ∧ version ∉ turn.before.issued ∧
            turn.after = turn.before.putAt path ((HttpRoute.written c w m route).atVersion version) version) ∧
          ∃ route', turn.after.stored path = some route' ∧ HttpRoute.RulesKept route route')) ∧
    ∀ result, now.running = .done result → (Retries result ∨ result = .ok ()) ∧
      ((∀ turn ∈ turns log, turn.after = turn.before) → Retries result ∨ result = .ok () ∧
        ∃ turn ∈ turns log, ∃ path, routePath? c = some path ∧ turn.before.stored path = none) := by
  have hstanding := h.standing hrunning hversioned
  refine ⟨fun before turn after hturns hchanged => ?_, fun result hdone => hstanding.of_done hdone⟩
  rw [hturns] at hstanding
  obtain ⟨hkept, hlast, path, route, hpath, ho, hsplit⟩ := hstanding.of_changed hchanged
  exact ⟨hkept, hlast, path, route, hpath, hsplit, fun hs => ⟨hsplit.exact ho hs, hsplit.rulesKept ho hs⟩⟩

end Run

/-! ### Undisturbed clients -/

/-- A client that reads a route and is then undisturbed patches it. -/
theorem Run.patched {c : Canary} {w : RouteWeights} {start : Contended} {log : List RouteEvent} {s : RouteStore}
    (ns version : String) (sent : Sent) {route body : Json} {m : Manifest}
    (h : Run start log ⟨s, (Api.setRoutes c w).run⟩) (hns : c.targetNamespace? = some ns)
    (ht : objectTarget? (routeAt c ns) .whole = some sent) (hroute : s.stored sent.path = some route)
    (hread : readable Manifest.ofJson? route = .ok m) (hbody : (HttpRoute.patch c w m).resent? = some body)
    (hcurrent : World.isOutdated body route = false) (hnew : version ∉ s.issued) :
    ∃ next, Run start (log ++ [.asked ⟨⟨.get sent.path, .ok route⟩, s, s⟩] ++
      [.asked ⟨⟨.patch sent.path body, .ok ((body.merge route).atVersion version)⟩, s,
        s.putAt sent.path ((body.merge route).atVersion version) version⟩])
      ⟨s.putAt sent.path ((body.merge route).atVersion version) version, next⟩ := by
  obtain ⟨next, next', hrun, hnext⟩ := exists_run_setRoutes hns ht hread hbody
  exact ⟨_, (h.snoc (.asked hrun (.found hroute))).snoc (.asked hnext (.patched hroute hcurrent hnew))⟩

/-- Where the route of `sharedCanary` is. -/
def sharedPath : String := "/apis/gateway.networking.k8s.io/v1/namespaces/prod/httproutes/podinfo"

/-- A store that holds one route, at a version. -/
def holding (route : Json) (version : String) : RouteStore :=
  RouteStore.putAt ⟨fun _ => none, ∅⟩ sharedPath route version

theorem versioned_holding {route : Json} {version : String} (ho : route.Ordered)
    (hversion : versionOf? route = some (.str version)) : (holding route version).Versioned :=
  RouteStore.Versioned.putAt (fun _ _ h => by cases h) ho hversion

/-- Another writer's rules for `sharedRoute`. -/
def editedRoute : Json :=
  let edited := HttpRoute.sharedRoute.update (·.set "rules" (.arr [HttpRoute.otherRule, HttpRoute.sharedRule])) ["spec"]
  edited.atVersion "43"

theorem ordered_editedRoute : editedRoute.Ordered := by
  refine ordered_atVersion (Ordered.update (fun hj => hj.set "rules" ?_) ["spec"] HttpRoute.ordered_sharedRoute) "43"
  simp only [HttpRoute.sharedRule, HttpRoute.otherRule, Ordered, OrderedItems, OrderedMembers]
  decide

open HttpRoute in
/-- The route is put once more, with other rules, before it is read; they are there after the split. -/
theorem setRoutes_guarded_edited : ∃ start log now read turn,
    Run start log now ∧ start.running = (Api.setRoutes sharedCanary ⟨70, 30, true⟩).run ∧ start.store.Versioned ∧
    start.store.stored sharedPath = some sharedRoute ∧ turns log = [read, turn] ∧
    ∃ route' first, turn.after.stored sharedPath = some route' ∧
      route'.path? ["spec", "rules"] = some (.arr [first, sharedRule]) := by
  have hstart : (holding sharedRoute "42").Versioned := versioned_holding ordered_sharedRoute rfl
  have hput : Run ⟨holding sharedRoute "42", (Api.setRoutes sharedCanary ⟨70, 30, true⟩).run⟩ [.put sharedPath]
      ⟨(holding sharedRoute "42").putAt sharedPath editedRoute "43", _⟩ :=
    (Run.nil _).snoc (.put sharedPath (by simp [holding]) ordered_editedRoute (versionOf?_atVersion ..))
  obtain ⟨m, body, hread, hbody, hcurrent⟩ : ∃ m body, readable Manifest.ofJson? editedRoute = .ok m ∧
      (patch sharedCanary ⟨70, 30, true⟩ m).resent? = some body ∧ World.isOutdated body editedRoute = false :=
    ⟨_, _, rfl, rfl, rfl⟩
  have hnew : "44" ∉ ((holding sharedRoute "42").putAt sharedPath editedRoute "43").issued := by simp [holding]
  obtain ⟨next, hrun⟩ := Run.patched "prod" "44" ⟨sharedPath, true⟩ hput rfl (by decide +kernel)
    (by rw [RouteStore.putAt_stored, if_pos rfl]) hread hbody hcurrent hnew
  obtain ⟨-, -, path, route, hpath, hsplit, hsteady⟩ :=
    (setRoutes_guarded hrun rfl hstart).1 [_] _ [] rfl (RouteStore.putAt_ne hnew)
  -- what the client has patched is what the other writer has put
  have hshared : routePath? sharedCanary = some sharedPath := by decide +kernel
  obtain rfl : sharedPath = path := Option.some.inj (hshared.symm.trans hpath)
  obtain rfl : editedRoute = route := by
    have hstored := hsplit.stored
    rw [RouteStore.putAt_stored, if_pos rfl] at hstored
    exact Option.some.inj hstored
  obtain ⟨-, route', hroute', hkept⟩ := hsteady (steady_of_areWhole (by decide +kernel))
  obtain ⟨first, hfirst, -, -⟩ := hkept otherRule [sharedRule] rfl
  exact ⟨_, _, _, _, _, hrun, rfl, hstart, by simp [holding], rfl, route', first, hroute', hfirst⟩

/-! ### A route with a double that is read as its neighbour -/

/-- A route whose rule holds `drifting`. -/
def driftingRoute : Json := .obj [
  ("apiVersion", .str "gateway.networking.k8s.io/v1"), ("kind", .str "HTTPRoute"),
  ("metadata", .obj [("name", .str "podinfo"), ("namespace", .str "prod"), ("resourceVersion", .str "42")]),
  ("spec", .obj [("rules", .arr [.obj [("ratio", .double drifting)]])])]

theorem ordered_driftingRoute : driftingRoute.Ordered := by
  simp only [driftingRoute, Ordered, OrderedItems, OrderedMembers]
  decide

open HttpRoute in
/-- Nobody else writes, and yet what is stored is not the route with the split for it written into it. -/
theorem setRoutes_guarded_drifts : ∃ start log now read turn route m route',
    Run start log now ∧ start.running = (Api.setRoutes sharedCanary ⟨50, 50, false⟩).run ∧ start.store.Versioned ∧
    turns log = [read, turn] ∧ turn.after ≠ turn.before ∧
    turn.before.stored sharedPath = some route ∧ Manifest.ofJson? route = some m ∧
    turn.after.stored sharedPath = some route' ∧
    ∀ version, route' ≠ (written sharedCanary ⟨50, 50, false⟩ m route).atVersion version := by
  obtain ⟨m, body, hread, hbody, hcurrent, hstored⟩ : ∃ m body, readable Manifest.ofJson? driftingRoute = .ok m ∧
      (patch sharedCanary ⟨50, 50, false⟩ m).resent? = some body ∧ World.isOutdated body driftingRoute = false ∧
      ratioOf ((body.merge driftingRoute).path? ["spec", "rules"]) = some 4332734418915482621 :=
    ⟨_, _, rfl, rfl, rfl, by decide +kernel⟩
  obtain ⟨m', hm', hwritten⟩ : ∃ m', Manifest.ofJson? driftingRoute = some m' ∧
      ratioOf ((written sharedCanary ⟨50, 50, false⟩ m' driftingRoute).path? ["spec", "rules"]) =
        some 4332734418915482619 :=
    ⟨_, rfl, by decide +kernel⟩
  have hnew : "43" ∉ (holding driftingRoute "42").issued := by simp [holding]
  obtain ⟨next, hrun⟩ := Run.patched "prod" "43" ⟨sharedPath, true⟩
    (.nil ⟨holding driftingRoute "42", (Api.setRoutes sharedCanary ⟨50, 50, false⟩).run⟩) rfl (by decide +kernel)
    (by simp [holding]) hread hbody hcurrent hnew
  refine ⟨_, _, _, _, _, driftingRoute, m', _, hrun, rfl, versioned_holding ordered_driftingRoute rfl, rfl,
    RouteStore.putAt_ne hnew, by simp [holding], hm', by rw [RouteStore.putAt_stored, if_pos rfl],
    fun version hsame => ?_⟩
  have hrules := congrArg (fun route => ratioOf (route.path? ["spec", "rules"])) hsame
  rw [path?_atVersion _ (by decide), path?_atVersion _ (by decide), hstored, hwritten] at hrules
  exact absurd hrules (by decide)

end Contended

end Rollout
