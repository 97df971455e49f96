/-
The ports that a template exposes, by name. A port has the name that it declares, or one that is made of its container
and its place, and no name is made twice (`PlacedPort.madeName_inj`). So in a template whose containers, and the ports
in each of them, are named apart, two ports have one name only where they clash (`PodTemplate.WellNamed.pairwise`): one
of them declares what the other declares in its container, or what is made for the other. Of the ports of one name the
last is exposed (`PodTemplate.mem_values_ports_iff`). Main statement: `PodTemplate.ports_complete_iff`, no port number
is lost if and only if each has a port that clashes with none behind it.
-/
import Rollout.Workload.PodTemplate
import Rollout.Proofs.Text.Segments
import Rollout.Proofs.Json.Merge

namespace Rollout

/-! ## Maps in which the last entry counts -/

/-- A value is under a key if it comes with it and the key does not come again. -/
theorem Dict.get?_ofList_eq_some_iff {α : Type} {entries : List (String × α)} {k : String} {a : α} :
    (ofList entries).get? k = some a ↔
      ∃ before after, entries = before ++ (k, a) :: after ∧ ∀ e ∈ after, e.1 ≠ k := by
  have hget : (ofList entries).get? k = entries.reverse.lookup k := Assoc.lookup_ofList_reverse entries k
  rw [hget, List.lookup_eq_some_iff]
  constructor
  · rintro ⟨after, before, hentries, hlast⟩
    refine ⟨before.reverse, after.reverse, ?_, fun e he heq => ?_⟩
    · rw [← List.reverse_reverse entries, hentries]
      simp
    · simpa [heq] using hlast e (List.mem_reverse.1 he)
  · rintro ⟨before, after, rfl, hlast⟩
    refine ⟨after.reverse, before.reverse, by simp, fun e he => ?_⟩
    simpa using (hlast e (List.mem_reverse.1 he)).symm

theorem Dict.mem_values_iff {α : Type} {d : Dict α} {a : α} : a ∈ d.values ↔ ∃ k, d.get? k = some a := by
  unfold values get?
  rw [List.mem_map]
  constructor
  · rintro ⟨⟨k, v⟩, hmem, rfl⟩
    obtain ⟨before, after, hentries⟩ := List.append_of_mem hmem
    refine ⟨k, List.lookup_eq_some_iff.2 ⟨before, after, hentries, fun e he => ?_⟩⟩
    have hordered := d.ordered
    rw [hentries] at hordered
    have hlt : e.1 < k := (List.pairwise_append.1 hordered).2.2 e he (k, v) List.mem_cons_self
    simpa using fun heq : k = e.1 => String.lt_irrefl _ (heq ▸ hlt)
  · rintro ⟨k, h⟩
    obtain ⟨before, after, hentries, -⟩ := List.lookup_eq_some_iff.1 h
    exact ⟨(k, a), by rw [hentries]; simp, rfl⟩

/-! ## Placed ports -/

/-- A port at its place in a container. -/
structure PlacedPort where
  container : Container
  index : Nat
  port : ContainerPort
deriving DecidableEq

namespace PlacedPort

variable {x y : PlacedPort}

/-- The name that a port declares; an empty one is none. -/
def declared? (x : PlacedPort) : Option String := x.port.name.filter (· ≠ "")

/-- The name that is made for a port. -/
def madeName (x : PlacedPort) : String := "tcp-" ++ x.container.name ++ "-" ++ toString x.index

/-- The name of a port. -/
def name (x : PlacedPort) : String := x.declared?.getD x.madeName

theorem portName_eq (x : PlacedPort) : x.container.portName x.index x.port = x.name := by
  unfold Container.portName name declared?
  cases x.port.name with
  | none => rfl
  | some declared =>
    dsimp only
    by_cases h : declared = ""
    · rw [if_pos h, Option.filter_some, if_neg (by simpa using h)]
      rfl
    · rw [if_neg h, Option.filter_some, if_pos (by simpa using h)]
      rfl

/-- A made name tells the container and the place in it, for no number has a hyphen. -/
theorem madeName_inj : x.madeName = y.madeName ↔ x.container.name = y.container.name ∧ x.index = y.index := by
  constructor
  · intro h
    have hdigits : ∀ n : Nat, Text.splitOn '-' (Nat.toDigits 10 n) = [Nat.toDigits 10 n] := fun n =>
      Text.splitOn_of_not_mem fun hmem =>
        absurd (Nat.isDigit_of_mem_toDigits (by decide) (by decide) hmem) (by decide)
    have hchars : ∀ z : PlacedPort, z.madeName.toList =
        ("tcp-".toList ++ z.container.name.toList) ++ '-' :: Nat.toDigits 10 z.index := fun z => by
      simp [madeName]
    have hlist := congrArg String.toList h
    rw [hchars, hchars] at hlist
    have hcut := congrArg (Text.splitOn '-') hlist
    rw [Text.splitOn_append, Text.splitOn_append, hdigits, hdigits] at hcut
    have hindex := List.singleton_inj.1 (List.append_inj' hcut rfl).2
    rw [hindex] at hlist
    have hcontainer := List.append_cancel_left (List.append_cancel_right hlist)
    refine ⟨String.toList_inj.1 hcontainer, ?_⟩
    rw [← Nat.ofDigitChars_ten_toDigits (n := x.index), hindex, Nat.ofDigitChars_ten_toDigits]
  · rintro ⟨hcontainer, hindex⟩
    unfold madeName
    rw [hcontainer, hindex]

/-- Two ports have one name: one of them declares what the other declares in another container, or what is made for the
other. -/
def Clashes (x y : PlacedPort) : Prop :=
  (x.declared? ≠ none ∧ x.declared? = y.declared? ∧ x.container.name ≠ y.container.name) ∨
    (x.declared? = some y.madeName ∧ y.declared? = none) ∨ (x.declared? = none ∧ y.declared? = some x.madeName)

instance : Decidable (Clashes x y) := inferInstanceAs (Decidable (_ ∨ _))

theorem Clashes.name_eq (h : x.Clashes y) : x.name = y.name := by
  unfold name
  rcases h with ⟨hx, heq, -⟩ | ⟨hx, hy⟩ | ⟨hx, hy⟩
  · obtain ⟨declared, hx⟩ := Option.ne_none_iff_exists'.1 hx
    rw [← heq, hx]
    rfl
  · rw [hx, hy]
    rfl
  · rw [hx, hy]
    rfl

/-- Ports of one name clash, unless both declare it in one container or are the same port of containers of one name. -/
theorem clashes_of_name_eq (h : x.name = y.name)
    (hdeclared : x.container.name = y.container.name → x.declared? ≠ none → x.declared? ≠ y.declared?)
    (hmade : x.container.name = y.container.name → x.index ≠ y.index) : x.Clashes y := by
  unfold name at h
  cases hx : x.declared? with
  | none =>
    cases hy : y.declared? with
    | none =>
      rw [hx, hy, Option.getD_none, Option.getD_none, madeName_inj] at h
      exact absurd h.2 (hmade h.1)
    | some declared =>
      rw [hx, hy, Option.getD_none, Option.getD_some] at h
      exact .inr (.inr ⟨hx, hy.trans (congrArg some h.symm)⟩)
  | some declared =>
    rw [hx] at h hdeclared
    cases hy : y.declared? with
    | none =>
      rw [hy, Option.getD_some, Option.getD_none] at h
      exact .inr (.inl ⟨hx.trans (congrArg some h), hy⟩)
    | some declared' =>
      rw [hy, Option.getD_some, Option.getD_some] at h
      have heq : x.declared? = y.declared? := by rw [hx, hy, h]
      refine .inl ⟨by rw [hx]; exact Option.some_ne_none _, heq, fun hcontainer => ?_⟩
      exact hdeclared hcontainer (Option.some_ne_none _) (hx.symm.trans heq)

end PlacedPort

/-- The ports of a container at their places. -/
def Container.placed (c : Container) : List PlacedPort := c.ports.zipIdx.map fun (p, index) => ⟨c, index, p⟩

theorem Container.container_of_mem_placed {c : Container} {x : PlacedPort} (h : x ∈ c.placed) : x.container = c := by
  obtain ⟨_, -, rfl⟩ := List.mem_map.1 h
  rfl

theorem Container.ports_eq_placed (c : Container) : c.ports = c.placed.map (·.port) := by
  unfold placed
  rw [List.map_map]
  exact (List.zipIdx_map_fst 0 c.ports).symm

/-- Ports of one container stand at different places. -/
theorem Container.pairwise_index (c : Container) : c.placed.Pairwise fun x y => x.index ≠ y.index := by
  have hplaces : c.placed.map (·.index) = List.range' 0 c.ports.length := by
    unfold placed
    rw [List.map_map]
    exact List.zipIdx_map_snd 0 c.ports
  have hnodup : (c.placed.map (·.index)).Nodup := hplaces ▸ List.nodup_range'
  exact List.pairwise_map.1 hnodup

namespace PodTemplate

variable {t : PodTemplate} {servicePort : Int32}

/-- The ports of all containers at their places. -/
def placed (t : PodTemplate) : List PlacedPort := t.containers.flatMap (·.placed)

/-- The ports other than the service port. -/
def exposed (t : PodTemplate) (servicePort : Int32) : List PlacedPort := t.placed.filter (·.port.port ≠ servicePort)

/-- The numbers of all ports. -/
def portNumbers (t : PodTemplate) : List Int32 := t.containers.flatMap fun c => c.ports.map (·.port)

/-- The containers are named apart, and so are the ports in each that declare a name. -/
structure WellNamed (t : PodTemplate) : Prop where
  containers : (t.containers.map (·.name)).Nodup
  ports : ∀ c ∈ t.containers, ((c.ports.filterMap (·.name)).filter (· ≠ "")).Nodup

instance : Decidable t.WellNamed :=
  decidable_of_iff (_ ∧ _) ⟨fun h => ⟨h.1, h.2⟩, fun h => ⟨h.containers, h.ports⟩⟩

theorem ports_eq (t : PodTemplate) (servicePort : Int32) :
    t.ports servicePort = .ofList ((t.exposed servicePort).map fun x => (x.name, x.port.port)) := by
  unfold ports exposed placed
  rw [List.filter_flatMap, List.map_flatMap]
  refine congrArg Dict.ofList (congrArg (fun f => t.containers.flatMap f) (funext fun c => ?_))
  unfold Container.namedPorts Container.placed
  rw [List.filter_map, List.map_map]
  refine congrArg₂ List.map (funext fun e => ?_) rfl
  exact congrArg (·, e.1.port) (PlacedPort.portName_eq ⟨c, e.2, e.1⟩)

theorem mem_portNumbers_iff {p : Int32} : p ∈ t.portNumbers ↔ ∃ x ∈ t.placed, x.port.port = p := by
  unfold portNumbers placed
  simp only [List.mem_flatMap]
  constructor
  · rintro ⟨c, hc, hp⟩
    rw [c.ports_eq_placed, List.map_map] at hp
    obtain ⟨x, hx, rfl⟩ := List.mem_map.1 hp
    exact ⟨x, ⟨c, hc, hx⟩, rfl⟩
  · rintro ⟨x, ⟨c, hc, hx⟩, rfl⟩
    refine ⟨c, hc, ?_⟩
    rw [c.ports_eq_placed, List.map_map]
    exact List.mem_map.2 ⟨x, hx, rfl⟩

/-- In a template that is well named, ports of one name clash. -/
theorem WellNamed.pairwise (h : t.WellNamed) : t.placed.Pairwise fun x y => x.name = y.name → x.Clashes y := by
  refine List.pairwise_flatMap.2 ⟨fun c hc => ?_, ?_⟩
  · have hdeclared : c.placed.Pairwise fun x y => x.declared? ≠ none → x.declared? ≠ y.declared? := by
      have hnodup := h.ports c hc
      rw [List.filter_filterMap, c.ports_eq_placed, List.filterMap_map] at hnodup
      refine (List.pairwise_filterMap.1 hnodup).imp fun {x y} hxy hx heq => ?_
      obtain ⟨declared, hx⟩ := Option.ne_none_iff_exists'.1 hx
      exact hxy declared hx declared (heq.symm.trans hx) rfl
    exact hdeclared.imp₂ (fun x y hne hindex heq => PlacedPort.clashes_of_name_eq heq (fun _ => hne) fun _ => hindex)
      c.pairwise_index
  · refine (List.pairwise_map.1 h.containers).imp fun {c d} hne x hx y hy heq => ?_
    have hapart : x.container.name ≠ y.container.name := by
      rwa [Container.container_of_mem_placed hx, Container.container_of_mem_placed hy]
    exact PlacedPort.clashes_of_name_eq heq (fun hsame => absurd hsame hapart) fun hsame => absurd hsame hapart

/-- A port number is found if it is that of a port whose name comes not again. -/
theorem mem_values_ports_iff {p : Int32} : p ∈ (t.ports servicePort).values ↔
    ∃ before x after, t.exposed servicePort = before ++ x :: after ∧ x.port.port = p ∧
      ∀ y ∈ after, x.name ≠ y.name := by
  rw [ports_eq, Dict.mem_values_iff]
  simp only [Dict.get?_ofList_eq_some_iff]
  constructor
  · rintro ⟨name, before, after, hmap, hlast⟩
    obtain ⟨before', rest, hexposed, -, hrest⟩ := List.map_eq_append_iff.1 hmap
    obtain ⟨x, after', rfl, hx, rfl⟩ := List.map_eq_cons_iff.1 hrest
    cases hx
    exact ⟨before', x, after', hexposed, rfl, fun y hy => (hlast _ (List.mem_map_of_mem hy)).symm⟩
  · rintro ⟨before, x, after, hexposed, rfl, hlast⟩
    refine ⟨x.name, _, _, by rw [hexposed, List.map_append, List.map_cons], fun e he => ?_⟩
    obtain ⟨y, hy, rfl⟩ := List.mem_map.1 he
    exact (hlast y hy).symm

/-- No more and no fewer numbers are exposed than the template has, but for the service port. -/
def LosesNothing (t : PodTemplate) (servicePort : Int32) : Prop :=
  ∀ p, p ∈ (t.ports servicePort).values ↔ p ∈ t.portNumbers ∧ p ≠ servicePort

theorem mem_exposed_iff {x : PlacedPort} :
    x ∈ t.exposed servicePort ↔ x ∈ t.placed ∧ x.port.port ≠ servicePort := by
  unfold exposed
  rw [List.mem_filter, decide_eq_true_eq]

/-- Nothing is exposed that the template does not have. -/
theorem losesNothing_iff : t.LosesNothing servicePort ↔
    ∀ p ∈ t.portNumbers, p ≠ servicePort → p ∈ (t.ports servicePort).values := by
  constructor
  · intro h p hp hne
    exact (h p).2 ⟨hp, hne⟩
  · intro h p
    constructor
    · intro hp
      obtain ⟨before, x, after, hexposed, rfl, -⟩ := mem_values_ports_iff.1 hp
      have hx : x ∈ t.exposed servicePort := by rw [hexposed]; simp
      obtain ⟨hplaced, hne⟩ := mem_exposed_iff.1 hx
      exact ⟨mem_portNumbers_iff.2 ⟨x, hplaced, rfl⟩, hne⟩
    · rintro ⟨hp, hne⟩
      exact h p hp hne

/-- Of a template that is well named no port number is lost, other than the service port, if and only if each is that
of a port that clashes with none behind it. So it is where no two ports clash. -/
theorem ports_complete_iff (h : t.WellNamed) (servicePort : Int32) :
    (t.LosesNothing servicePort ↔ ∀ p ∈ t.portNumbers, p ≠ servicePort → ∃ before x after,
      t.exposed servicePort = before ++ x :: after ∧ x.port.port = p ∧ ∀ y ∈ after, ¬ x.Clashes y) ∧
    ((t.exposed servicePort).Pairwise (fun x y => ¬ x.Clashes y) → t.LosesNothing servicePort) := by
  have hclashes : (t.exposed servicePort).Pairwise fun x y => x.name = y.name → x.Clashes y := h.pairwise.filter _
  have hbehind : ∀ {before x after}, t.exposed servicePort = before ++ x :: after →
      ∀ y ∈ after, x.name = y.name → x.Clashes y := by
    intro before x after hexposed
    rw [hexposed] at hclashes
    exact (List.pairwise_cons.1 (List.pairwise_append.1 hclashes).2.1).1
  rw [losesNothing_iff]
  constructor
  · constructor
    · intro hkept p hp hne
      obtain ⟨before, x, after, hexposed, hx, hlast⟩ := mem_values_ports_iff.1 (hkept p hp hne)
      exact ⟨before, x, after, hexposed, hx, fun y hy hclash => hlast y hy hclash.name_eq⟩
    · intro hkept p hp hne
      obtain ⟨before, x, after, hexposed, hx, hlast⟩ := hkept p hp hne
      exact mem_values_ports_iff.2
        ⟨before, x, after, hexposed, hx, fun y hy heq => hlast y hy (hbehind hexposed y hy heq)⟩
  · intro hapart p hp hne
    obtain ⟨x, hx, rfl⟩ := mem_portNumbers_iff.1 hp
    obtain ⟨before, after, hexposed⟩ := List.append_of_mem (mem_exposed_iff.2 ⟨hx, hne⟩)
    rw [hexposed] at hapart
    have hfree := (List.pairwise_cons.1 (List.pairwise_append.1 hapart).2.1).1
    exact mem_values_ports_iff.2
      ⟨before, x, after, hexposed, rfl, fun y hy heq => hfree y hy (hbehind hexposed y hy heq)⟩

/-- An application with a port for requests, one for metrics and one without a name, next to a proxy whose one port has
no name either. -/
def proxiedTemplate : PodTemplate where
  containers := [
    ⟨"app", [⟨some "http", 9898⟩, ⟨some "http-metrics", 9797⟩, ⟨none, 9999⟩]⟩,
    ⟨"proxy", [⟨none, 15001⟩]⟩]

theorem ports_complete_iff_proxied :
    proxiedTemplate.WellNamed ∧ (proxiedTemplate.ports 9898).values = [9797, 9999, 15001] ∧
      proxiedTemplate.LosesNothing 9898 := by
  have hnamed : proxiedTemplate.WellNamed := by decide +kernel
  exact ⟨hnamed, by decide +kernel, (ports_complete_iff hnamed 9898).2 (by decide +kernel)⟩

/-- An application whose first port has the name that is made for its second, which has none. -/
def shadowedTemplate : PodTemplate where
  containers := [⟨"app", [⟨some "tcp-app-1", 8080⟩, ⟨none, 9090⟩]⟩]

/-- The first port is lost. -/
theorem ports_lost : shadowedTemplate.WellNamed ∧ 8080 ∈ shadowedTemplate.portNumbers ∧
    (shadowedTemplate.ports 9898).values = [9090] ∧ ¬ shadowedTemplate.LosesNothing 9898 := by
  have hvalues : (shadowedTemplate.ports 9898).values = [9090] := by decide +kernel
  have hnumber : 8080 ∈ shadowedTemplate.portNumbers := by decide
  refine ⟨by decide +kernel, hnumber, hvalues, fun h => ?_⟩
  have hexposed := (h 8080).2 ⟨hnumber, by decide⟩
  rw [hvalues] at hexposed
  exact absurd hexposed (by decide)

end PodTemplate

end Rollout
