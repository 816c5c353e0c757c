import ServiceExposure.Proofs.Templates
import ServiceExposure.Proofs.Undoing

/-! # Application names

A service that asks for no name is routed to under its own name with its release taken out. The
release is looked for in the whole name and not just at its start, so a name that the release occurs
in is changed even if it does not start with it. What is done to routing objects is done under the
name that is left, which may be that of another service. -/

namespace ServiceExposure

/-! ## Occurrences -/

namespace Text

/-- Whether a text stands somewhere in another. -/
def Occurs (sep s : String) : Prop := ∃ before after, s = before ++ sep ++ after

/-- Whether these are what stands before and after the first occurrence of a text in another. -/
structure FirstCut (sep s before after : String) : Prop where
  text : s = before ++ sep ++ after
  first : ∀ earlier later, s = earlier ++ sep ++ later → before.length ≤ earlier.length

theorem eq_append_iff_toList {s before sep after : String} :
    s = before ++ sep ++ after ↔ s.toList = before.toList ++ sep.toList ++ after.toList := by
  rw [← String.toList_inj, String.toList_append, String.toList_append]

theorem occurs_iff_infix {sep s : String} : Occurs sep s ↔ sep.toList <:+: s.toList := by
  constructor
  · rintro ⟨before, after, rfl⟩
    exact ⟨before.toList, after.toList, by simp only [String.toList_append]⟩
  · rintro ⟨before, after, h⟩
    refine ⟨.ofList before, .ofList after, ?_⟩
    rw [eq_append_iff_toList, String.toList_ofList, String.toList_ofList, h]

/-- Text is not cut behind an occurrence of the separator. -/
theorem length_le_of_cutChars? {sep cs before after earlier later : List Char}
    (h : cutChars? sep cs = some (before, after)) (hcs : cs = earlier ++ sep ++ later) :
    before.length ≤ earlier.length := by
  induction cs generalizing before earlier with
  | nil =>
    have hnil := eq_append_of_cutChars? h
    simp_all
  | cons c rest ih =>
    rw [cutChars?] at h
    split at h
    · cases h
      exact Nat.zero_le _
    · next hlater =>
      obtain ⟨⟨left, right⟩, hrest, hcut⟩ := Option.map_eq_some_iff.1 h
      cases hcut
      cases earlier with
      | nil => exact absurd (List.isPrefixOf_iff_prefix.2 ⟨later, hcs.symm⟩) hlater
      | cons d earlier =>
        obtain ⟨-, hcs⟩ := List.cons.inj hcs
        exact Nat.succ_le_succ (ih hrest hcs)

theorem firstCut_of_cut? {sep s before after : String} (h : cut? sep s = some (before, after)) :
    FirstCut sep s before after := by
  refine ⟨eq_append_of_cut? h, fun earlier later hs => ?_⟩
  obtain ⟨⟨left, right⟩, hcut, heq⟩ := Option.map_eq_some_iff.1 h
  cases heq
  have hle := length_le_of_cutChars? hcut (eq_append_iff_toList.1 hs)
  rwa [String.length_ofList, ← String.length_toList]

theorem cut?_eq_none_iff {sep s : String} (hsep : sep ≠ "") :
    cut? sep s = none ↔ ¬Occurs sep s := by
  have hne : sep.toList ≠ [] := fun h => hsep (String.toList_eq_nil_iff.1 h)
  rw [cut?, Option.map_eq_none_iff, cutChars?_eq_none_iff hne, occurs_iff_infix]

theorem Occurs.exists_firstCut {sep s : String} (h : Occurs sep s) (hsep : sep ≠ "") :
    ∃ before after, FirstCut sep s before after := by
  cases hcut : cut? sep s with
  | none => exact absurd h ((cut?_eq_none_iff hsep).1 hcut)
  | some cut => exact ⟨cut.1, cut.2, firstCut_of_cut? hcut⟩

namespace FirstCut

variable {sep s before after : String}

/-- There is one first occurrence. -/
theorem unique {before' after' : String} (h : FirstCut sep s before after)
    (h' : FirstCut sep s before' after') :
    before = before' ∧ after = after' := by
  have hlength : before.toList.length = before'.toList.length := by
    simp only [String.length_toList]
    exact Nat.le_antisymm (h.first _ _ h'.text) (h'.first _ _ h.text)
  have htext : before.toList ++ (sep.toList ++ after.toList) = before'.toList ++
      (sep.toList ++ after'.toList) := by
    rw [← List.append_assoc, ← List.append_assoc, ← eq_append_iff_toList.1 h.text,
      eq_append_iff_toList.1 h'.text]
  obtain ⟨hbefore, hrest⟩ := List.append_inj htext hlength
  exact ⟨String.toList_inj.1 hbefore, String.toList_inj.1 (List.append_cancel_left hrest)⟩

theorem cut? (h : FirstCut sep s before after) (hsep : sep ≠ "") :
    Text.cut? sep s = some (before, after) := by
  cases hcut : Text.cut? sep s with
  | none => exact absurd ⟨before, after, h.text⟩ ((cut?_eq_none_iff hsep).1 hcut)
  | some cut =>
    obtain ⟨rfl, rfl⟩ := h.unique (firstCut_of_cut? hcut)
    rfl

/-- What a text starts with occurs nowhere before. -/
theorem of_start (sep rest : String) : FirstCut sep (sep ++ rest) "" rest :=
  ⟨by rw [String.empty_append], fun _ _ _ => Nat.zero_le _⟩

end FirstCut

end Text

/-! ## Names without a release -/

namespace Service

variable {s : Service} {release : String}

/-- The name of a service without the release that it starts with, if it does. -/
def nameInRelease (s : Service) (release : String) : String :=
  (Text.after? (release ++ "-") s.name).getD s.name

theorem releaseMark_ne_empty (release : String) : release ++ "-" ≠ "" := by
  intro h
  simpa using congrArg String.toList h

section

variable (hfree : s.setting? Annotation.ingressName = none)
  (hrelease : nonEmpty? (s.label? Annotation.release) = some release)
include hfree hrelease

theorem appName_of_firstCut {before after : String}
    (h : Text.FirstCut (release ++ "-") s.name before after) :
    s.appName = before ++ after := by
  simp only [appName, hfree, hrelease, h.cut? (releaseMark_ne_empty release)]

theorem appName_of_not_occurs (h : ¬Text.Occurs (release ++ "-") s.name) : s.appName = s.name := by
  simp only [appName, hfree, hrelease, (Text.cut?_eq_none_iff (releaseMark_ne_empty release)).2 h]

theorem appName_of_start {rest : String} (h : s.name = release ++ "-" ++ rest) :
    s.appName = rest := by
  have hfirst : Text.FirstCut (release ++ "-") s.name "" rest := by
    rw [h]
    exact .of_start _ rest
  rw [appName_of_firstCut hfree hrelease hfirst, String.empty_append]

theorem appName_eq_name_iff : s.appName = s.name ↔ ¬Text.Occurs (release ++ "-") s.name := by
  refine ⟨fun happ hoccurs => ?_, appName_of_not_occurs hfree hrelease⟩
  -- a name that is cut gets shorter
  obtain ⟨before, after, hfirst⟩ := hoccurs.exists_firstCut (releaseMark_ne_empty release)
  have hlength :=
    congrArg String.length (happ.symm.trans (appName_of_firstCut hfree hrelease hfirst))
  rw [hfirst.text] at hlength
  simp only [String.length_append] at hlength
  have hmark : "-".length = 1 := rfl
  omega

theorem appName_eq_nameInRelease_iff : s.appName = s.nameInRelease release ↔
    (∃ rest, s.name = release ++ "-" ++ rest) ∨ ¬Text.Occurs (release ++ "-") s.name := by
  rw [nameInRelease]
  cases hafter : Text.after? (release ++ "-") s.name with
  | some rest =>
    have hname : s.name = release ++ "-" ++ rest := Text.after?_eq_some_iff.1 hafter
    exact iff_of_true (appName_of_start hfree hrelease hname) (.inl ⟨rest, hname⟩)
  | none =>
    have hstart : ¬∃ rest, s.name = release ++ "-" ++ rest := fun ⟨rest, h⟩ => by
      cases hafter.symm.trans (Text.after?_eq_some_iff.2 h)
    rw [Option.getD_none, appName_eq_name_iff hfree hrelease, or_iff_right hstart]

end

/-- The routing object of a service has its own name just if nothing is taken out of it. -/
theorem home_eq_key_iff : s.home = s.key ↔ s.appName = s.name := by
  rw [home, ObjectKey.mk.injEq]
  exact and_iff_right rfl

end Service

/-! ## Routing under a name -/

namespace Strategy

variable {st : Strategy} {s live : Service} {c : Cluster} {e : Exposure}

/-- Whether there is a routing object with this key that leads to a service. -/
def LeadsTo (st : Strategy) (s : Service) (c : Cluster) (key : ObjectKey) : Prop :=
  match st with
  | ingress st =>
    (IngressStrategy.boundPaths (c.ingresses.get? key)).any
      (IngressStrategy.isBound s.name (st.place s).path)
  | nodePort _ | loadBalancer => False
  | route _ => ∃ r, c.routes.get? key = some r ∧ r.spec.target = .service s.name

/-- Whether there is a routing object with this key. -/
def RoutesAt (st : Strategy) (c : Cluster) (key : ObjectKey) : Prop :=
  match st with
  | ingress _ => (c.ingresses.get? key).isSome
  | nodePort _ | loadBalancer => False
  | route _ => (c.routes.get? key).isSome

theorem exists_add (hkind : st.routingKind? ≠ none) (hports : s.ports ≠ []) (snapshot : Snapshot) :
    ∃ e, st.add s snapshot = .ok e := by
  cases st with
  | ingress st => exact IngressStrategy.exists_add hports st snapshot
  | nodePort nodeIP | loadBalancer => exact absurd rfl hkind
  | route st =>
    obtain ⟨port, hport⟩ := Service.exposedPort_eq_ok_iff.2 hports
    exact ⟨_, add_eq_ok_iff.2 ⟨_, RouteStrategy.routing_eq_ok_iff.2 ⟨port, hport, rfl⟩, rfl⟩⟩

theorem leadsTo_of_routing (hkind : st.routingKind? ≠ none) {ws : List Write} {after : Cluster}
    (hrouting : st.routing s (c.snapshot st s.key.inNamespace) = .ok ws)
    (heffects : c.effects ws = .ok after) :
    st.LeadsTo s after s.home := by
  cases st with
  | ingress st =>
    rcases effects_ingress_routing hrouting with ⟨hplaced, rfl⟩ | ⟨-, port, -, hput⟩
    · cases heffects
      exact hplaced
    · cases hput.symm.trans heffects
      rw [LeadsTo, c.get?_home_putIngress]
      exact st.isBound_ingressFor s _ port
  | nodePort nodeIP | loadBalancer => exact absurd rfl hkind
  | route st =>
    obtain ⟨port, -, hput⟩ := effects_route_routing hrouting
    cases hput.symm.trans heffects
    exact ⟨_, c.get?_home_putRoute st s port, rfl⟩

/-- A service is exposed by the routing object with its application name, and no other has a part in
it. -/
theorem add_leadsTo (hkind : st.routingKind? ≠ none) (hlive : c.services.get? s.key = some live)
    (hadd : st.add s (c.snapshot st s.key.inNamespace) = .ok e) :
    ∃ after, c.effects e.writes = .ok after ∧ st.LeadsTo s after s.home ∧
      DifferAt s.home c.ingresses after.ingresses ∧ DifferAt s.home c.routes after.routes := by
  obtain ⟨ws, hrouting, rfl⟩ := add_eq_ok_iff.1 hadd
  obtain ⟨routed, hrouted, hsame, -⟩ := routing_settles hrouting
  -- the patch is of the service, and leaves routing objects alone
  refine ⟨_, Cluster.effects_append_patchWrites hrouted hsame hlive _, ?_⟩
  have hleads : st.LeadsTo s routed s.home := leadsTo_of_routing hkind hrouting hrouted
  obtain ⟨hingresses, hroutes⟩ := revised_routed (routed_of_routing hrouting ▸ hrouted)
  exact ⟨hleads, fun _ => hingresses.get?_of_ne, fun _ => hroutes.get?_of_ne⟩

theorem not_routesAt_of_unrouting {after : Cluster}
    (h : c.effects (st.unrouting s (c.snapshot st s.key.inNamespace)) = .ok after) :
    ¬st.RoutesAt after s.home := by
  obtain ⟨hingresses, hroutes⟩ := revised_unrouting h
  cases st with
  | ingress st => simp [RoutesAt, hingresses.get?_self, ingressWithout, routingKind?]
  | nodePort nodeIP | loadBalancer => exact id
  | route st => simp [RoutesAt, hroutes.get?_self, routeWithout, routingKind?]

/-- What removes a service takes away the routing object with its application name, and no other. -/
theorem remove_not_routesAt (st : Strategy) (hlive : c.services.get? s.key = some live) :
    ∃ after, c.effects (st.remove s (c.snapshot st s.key.inNamespace)).writes = .ok after ∧
      ¬st.RoutesAt after s.home ∧
      DifferAt s.home c.ingresses after.ingresses ∧ DifferAt s.home c.routes after.routes := by
  obtain ⟨unrouted, hunrouted, hsame, -⟩ := st.unrouting_settles s
  rw [remove_eq]
  refine ⟨_, Cluster.effects_append_patchWrites hunrouted hsame hlive _, ?_⟩
  have hgone : ¬st.RoutesAt unrouted s.home := not_routesAt_of_unrouting hunrouted
  obtain ⟨hingresses, hroutes⟩ := revised_unrouting hunrouted
  exact ⟨hgone, fun _ => hingresses.get?_of_ne, fun _ => hroutes.get?_of_ne⟩

end Strategy

/-- The first occurrence of its release and a hyphen is taken out of the name of a service, wherever
it stands. So the name is what it would be by leaving out what it starts with just if it starts with
it or it does not occur in it, and the routing object has the name of the service just if it does
not occur. What is done to routing objects when the service is exposed or removed is done under that
name. -/
theorem release_is_taken_out {s : Service} {release : String}
    (hfree : s.setting? Annotation.ingressName = none)
    (hrelease : nonEmpty? (s.label? Annotation.release) = some release) :
    (∀ rest, s.name = release ++ "-" ++ rest → s.appName = rest) ∧
      (Text.Occurs (release ++ "-") s.name →
        ∃ before after,
          Text.FirstCut (release ++ "-") s.name before after ∧ s.appName = before ++ after) ∧
      (s.appName = s.nameInRelease release ↔
        (∃ rest, s.name = release ++ "-" ++ rest) ∨ ¬Text.Occurs (release ++ "-") s.name) ∧
      (s.home = s.key ↔ ¬Text.Occurs (release ++ "-") s.name) ∧
      ∀ st : Strategy, st.routingKind? ≠ none → ∀ (c : Cluster) (live : Service),
        c.services.get? s.key = some live →
        (s.ports ≠ [] → ∃ e, st.add s (c.snapshot st s.key.inNamespace) = .ok e) ∧
        (∀ e, st.add s (c.snapshot st s.key.inNamespace) = .ok e →
          ∃ after, c.effects e.writes = .ok after ∧ st.LeadsTo s after s.home ∧
            DifferAt s.home c.ingresses after.ingresses ∧ DifferAt s.home c.routes after.routes) ∧
        ∃ after, c.effects (st.remove s (c.snapshot st s.key.inNamespace)).writes = .ok after ∧
          ¬st.RoutesAt after s.home ∧
          DifferAt s.home c.ingresses after.ingresses ∧ DifferAt s.home c.routes after.routes := by
  refine ⟨fun rest => Service.appName_of_start hfree hrelease, fun hoccurs => ?_,
    Service.appName_eq_nameInRelease_iff hfree hrelease, ?_, ?_⟩
  · obtain ⟨before, after, hfirst⟩ := hoccurs.exists_firstCut (Service.releaseMark_ne_empty release)
    exact ⟨before, after, hfirst, Service.appName_of_firstCut hfree hrelease hfirst⟩
  · rw [Service.home_eq_key_iff, Service.appName_eq_name_iff hfree hrelease]
  · intro st hkind c live hlive
    exact ⟨fun hports => Strategy.exists_add hkind hports _,
      fun e => Strategy.add_leadsTo hkind hlive, Strategy.remove_not_routesAt st hlive⟩

namespace Sample

/-- A service whose release occurs inside its name. -/
def webApi : Service where
  metadata := {
    name := some "my-web-api"
    inNamespace := some "ns1"
    uid := some "web-api-uid"
    labels := some (.ofList [ Annotation.exposeLabel, ( Annotation.release, "web")]) }
  spec := some { ports := some [{ port := 80 }] }

/-- A service of no release, with the name that is left of the other. -/
def myApi : Service :=
  { webApi with
    metadata := { name := some "my-api", inNamespace := some "ns1", uid := some "api-uid" } }

/-- A cluster in which the second service has its ingress. -/
def neighbours : Cluster := (serving webApi).putIngress (strategy.ingressFor myApi none 80)

theorem get?_webApi : neighbours.services.get? webApi.key = some webApi :=
  Dict.get?_insert_self _ _ _

theorem setting?_webApi : webApi.setting? Annotation.ingressName = none := rfl

theorem release_webApi : nonEmpty? (webApi.label? Annotation.release) = some "web" := by decide

theorem not_start_webApi : ¬∃ rest, webApi.name = "web" ++ "-" ++ rest := by
  rintro ⟨rest, hrest⟩
  have hnone : Text.after? ("web" ++ "-") webApi.name = none := by decide
  cases hnone.symm.trans (Text.after?_eq_some_iff.2 hrest)

end Sample

open Sample in
theorem release_is_taken_out_web_api :
    let st := Strategy.ingress strategy
    webApi.home ≠ webApi.key ∧ webApi.appName ≠ webApi.nameInRelease "web" ∧
      (∃ e after, st.add webApi (neighbours.snapshot st "ns1") = .ok e ∧
        neighbours.effects e.writes = .ok after ∧
        st.LeadsTo webApi after webApi.home) ∧
      ∃ after,
        neighbours.effects (st.remove webApi (neighbours.snapshot st "ns1")).writes = .ok after ∧
        ¬st.RoutesAt after webApi.home := by
  intro st
  obtain ⟨-, -, hname, hhome, hrouting⟩ := release_is_taken_out setting?_webApi release_webApi
  obtain ⟨hsome, hadd, removed, hremove, hgone, -⟩ :=
    hrouting st (Option.some_ne_none _) neighbours webApi get?_webApi
  obtain ⟨e, he⟩ := hsome (List.cons_ne_nil _ _)
  obtain ⟨after, heffects, hleads, -⟩ := hadd e he
  have hoccurs : Text.Occurs ("web" ++ "-") webApi.name := ⟨"my-", "api", by decide⟩
  refine ⟨fun h => hhome.1 h hoccurs, fun h => ?_, ⟨e, after, he, heffects, hleads⟩, removed,
    hremove, hgone⟩
  exact (hname.1 h).elim not_start_webApi fun hnone => hnone hoccurs

open Sample in
/-- The name of the service does not start with its release. Yet it is routed to by the ingress of
another service, not by one of its own name, and that ingress is gone when the service is
removed. -/
theorem ingress_of_other_removed :
    let st := Strategy.ingress strategy
    webApi.setting? Annotation.ingressName = none ∧
      nonEmpty? (webApi.label? Annotation.release) = some "web" ∧
      (¬∃ rest, webApi.name = "web" ++ "-" ++ rest) ∧ webApi.appName = myApi.name ∧
      (neighbours.ingresses.get? myApi.key).isSome ∧
      (∃ e after, st.add webApi (neighbours.snapshot st "ns1") = .ok e ∧
        neighbours.effects e.writes = .ok after ∧
        after.ingresses.get? webApi.key = none) ∧
      ∃ after,
        neighbours.effects (st.remove webApi (neighbours.snapshot st "ns1")).writes = .ok after ∧
        after.ingresses.get? myApi.key = none := by
  intro st
  have happ : webApi.home = myApi.key := by decide
  have hkind : st.routingKind? ≠ none := Option.some_ne_none _
  obtain ⟨e, he⟩ :=
    Strategy.exists_add hkind (s := webApi) (List.cons_ne_nil _ _) (neighbours.snapshot st "ns1")
  obtain ⟨after, heffects, -, hingresses, -⟩ := Strategy.add_leadsTo hkind get?_webApi he
  obtain ⟨removed, hremove, hgone, -⟩ := Strategy.remove_not_routesAt st get?_webApi
  refine ⟨setting?_webApi, release_webApi, not_start_webApi, by decide, by decide,
    ⟨e, after, he, heffects, ?_⟩, removed, hremove, ?_⟩
  · exact (hingresses webApi.key (by decide)).trans (by decide)
  · exact Option.not_isSome_iff_eq_none.1 (happ ▸ hgone)

end ServiceExposure
