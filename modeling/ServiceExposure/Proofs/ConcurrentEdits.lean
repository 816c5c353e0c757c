import ServiceExposure.Proofs.Redelivery

/-! # Services that were edited meanwhile

A patch is found for a service as it was observed, and applied to the service as it is by then. A
strategy edits few places of a service (`Service.Edits`), and an edit that takes away neither the
annotations nor the specification as a whole is carried over to any other state of the service
without a change anywhere else (`Service.Edits.rebase`). -/

namespace ServiceExposure

/-! ## Edits -/

namespace Service

/-- The annotations under which an address is recorded: that of the URL, and the alias that the
service names. -/
def recordKeys (s : Service) : List String :=
  Annotation.exposeUrl :: (aliasKey? s.annotations).toList

/-- Two services that agree but for the annotations of some keys, for their type and for their
external addresses. Here no annotations are as good as empty ones, and no specification is as good
as an empty one. -/
structure AgreeOutside (keys : List String) (s t : Service) : Prop where
  metadata : { t.metadata with annotations := none } = { s.metadata with annotations := none }
  annotation? : ∀ key ∉ keys, t.annotation? key = s.annotation? key
  spec : { t.spec.getD {} with serviceType := none, externalIPs := none } =
    { s.spec.getD {} with serviceType := none, externalIPs := none }

/-- An edit that stays in such bounds and takes away neither the annotations nor the
specification. -/
structure Edits (keys : List String) (s t : Service) : Prop extends AgreeOutside keys s t where
  annotations_stay : s.metadata.annotations.isSome → t.metadata.annotations.isSome
  spec_stays : s.spec.isSome → t.spec.isSome

namespace Edits

variable {keys : List String}

theorem trans {s t u : Service} (h : Edits keys s t) (h' : Edits keys t u) : Edits keys s u where
  metadata := h'.metadata.trans h.metadata
  annotation? := fun key hkey => (h'.annotation? key hkey).trans (h.annotation? key hkey)
  spec := h'.spec.trans h.spec
  annotations_stay := fun hs => h'.annotations_stay (h.annotations_stay hs)
  spec_stays := fun hs => h'.spec_stays (h.spec_stays hs)

theorem asNodePort (s : Service) : Edits keys s s.asNodePort where
  metadata := rfl
  annotation? := fun _ _ => rfl
  spec := rfl
  annotations_stay := id
  spec_stays := fun _ => rfl

theorem asLoadBalancer (s : Service) : Edits keys s s.asLoadBalancer where
  metadata := rfl
  annotation? := fun _ _ => rfl
  spec := rfl
  annotations_stay := id
  spec_stays := fun _ => rfl

theorem withAnnotations {s : Service} {annotations : StringDict}
    (h : ∀ key ∉ keys, annotations.get? key = s.annotations.get? key) :
    Edits keys s (s.withAnnotations annotations) where
  metadata := rfl
  annotation? := by
    intro key hkey
    rw [annotation?_eq, annotation?_eq]
    exact h key hkey
  spec := rfl
  annotations_stay := fun _ => rfl
  spec_stays := id

end Edits

theorem not_mem_recordKeys {s : Service} {key : String} (h : key ∉ s.recordKeys) :
    key ≠ Annotation.exposeUrl ∧ ∀ other, aliasKey? s.annotations = some other → other ≠ key := by
  refine ⟨fun heq => h (heq ▸ List.mem_cons_self), ?_⟩
  rintro other halias rfl
  refine h (List.mem_cons_of_mem _ ?_)
  rw [halias]
  exact List.mem_singleton.2 rfl

theorem edits_recordUrl (s : Service) (host protocol : String) :
    Edits s.recordKeys s (s.recordUrl host protocol) := by
  refine Edits.withAnnotations ?_
  intro key hkey
  obtain ⟨hurl, halias⟩ := not_mem_recordKeys hkey
  have hkept := annotation?_recordUrl hurl halias host protocol
  rw [annotation?_eq, annotation?_eq] at hkept
  exact hkept

/-- What is recorded on a service is gone once its URL is cleared, and all other annotations are as
they were. -/
theorem annotation?_clearUrl (s : Service) (key : String) :
    s.clearUrl.annotation? key = if key ∈ s.recordKeys then none else s.annotation? key := by
  cases hannotations : s.metadata.annotations with
  | none =>
    have hclear : s.clearUrl = s := by simp only [clearUrl, hannotations]
    have hnone : s.annotation? key = none := by
      rw [annotation?, Metadata.annotation?, hannotations]
      rfl
    rw [hclear, hnone, ite_self]
  | some annotations =>
    have hs : s.annotations = annotations := by
      simp only [Service.annotations, hannotations, Option.getD_some]
    have hne : Annotation.exposeUrl ≠ Annotation.exposeHostNameAs := by decide
    -- the alias is read once the URL is gone, which does not bear on it
    have hsame : aliasKey? (annotations.erase Annotation.exposeUrl) = aliasKey? annotations := by
      rw [aliasKey?, aliasKey?, Dict.get?_erase_of_ne _ hne]
    simp only [clearUrl, hannotations, hsame, annotation?_eq, annotations_withAnnotations,
      recordKeys, hs]
    cases aliasKey? annotations with
    | none => simp [Dict.get?_erase]
    | some other =>
      by_cases hother : key = other <;> simp [Dict.get?_erase, hother]

theorem annotation?_exposeUrl_clearUrl (s : Service) :
    s.clearUrl.annotation? Annotation.exposeUrl = none :=
  (s.annotation?_clearUrl _).trans (if_pos List.mem_cons_self)

theorem edits_clearUrl (s : Service) : Edits s.recordKeys s s.clearUrl where
  metadata := by
    rw [clearUrl]
    split <;> rfl
  annotation? := fun key hkey => (s.annotation?_clearUrl key).trans (if_neg hkey)
  spec := by
    rw [clearUrl]
    split <;> rfl
  annotations_stay := fun h => by
    rw [clearUrl]
    split
    · exact h
    · rfl
  spec_stays := fun h => by
    rw [clearUrl]
    split <;> exact h

end Service

/-- To expose a service edits what is recorded on it and how it is typed. -/
theorem Strategy.edits_desired (st : Strategy) (s : Service) :
    Service.Edits s.recordKeys s (st.desired s) := by
  have hrecord (t : Service) (ht : Service.Edits s.recordKeys s t)
      (hkeys : t.recordKeys = s.recordKeys)
      (address : Option String) : Service.Edits s.recordKeys s (t.recordAt? address) := by
    cases address with
    | none => exact ht
    | some host => exact ht.trans (hkeys ▸ t.edits_recordUrl host (t.protocolAt host))
  cases st with
  | ingress st => exact s.edits_recordUrl _ _
  | nodePort nodeIP => exact hrecord _ (.asNodePort s) rfl _
  | loadBalancer => exact hrecord _ (.asLoadBalancer s) rfl _
  | route st => exact s.edits_recordUrl _ _

/-! ## Edits of another state -/

theorem rebaseValue_of_eq {α : Type} [DecidableEq α] {old new : α} (h : new = old) (live : α) :
    rebaseValue old new live = live :=
  if_pos h.symm

/-- Entries that did not change stay, unless the dictionary is taken away. -/
theorem get?_rebasePart_dict {old new : Option StringDict} (hstays : old.isSome → new.isSome)
    {key : String} (h : new.bind (·.get? key) = old.bind (·.get? key)) (live : Option StringDict) :
    (rebasePart Dict.rebase ∅ old new live).bind (·.get? key) = live.bind (·.get? key) := by
  have hlive : (live.getD ∅).get? key = live.bind (·.get? key) := by cases live <;> rfl
  cases new with
  | none =>
    cases old with
    | none => rfl
    | some old => exact absurd (hstays rfl) Bool.false_ne_true
  | some new =>
    cases old with
    | none =>
      simp only [rebasePart, Option.bind_some, Dict.get?_rebase]
      exact (rebaseValue_of_eq h _).trans hlive
    | some old =>
      simp only [rebasePart]
      split
      · rfl
      · simp only [Option.bind_some, Dict.get?_rebase]
        exact (rebaseValue_of_eq h _).trans hlive

/-- Whatever a service looks like by then, an edit changes it within its bounds only. -/
theorem Service.Edits.rebase {keys : List String} {observed desired : Service}
    (h : Edits keys observed desired) (live : Service) :
    AgreeOutside keys live (observed.rebase desired live) where
  metadata := by
    have hmetadata := h.metadata
    simp only [Metadata.mk.injEq, true_and] at hmetadata
    obtain ⟨hname, hgenerateName, hnamespace, huid, hlabels, hversion, howners, hgeneration⟩ :=
      hmetadata
    simp only [Service.rebase, Metadata.rebase, rebaseValue_of_eq, hlabels, hname, hgenerateName,
      hnamespace, huid, hversion, howners, hgeneration,
      (LawfulRebase.part LawfulRebase.dict _).same]
  annotation? := by
    intro key hkey
    exact get?_rebasePart_dict h.annotations_stay (h.annotation? key hkey) live.metadata.annotations
  spec := by
    have hspec := h.spec
    have hstays := h.spec_stays
    simp only [Service.rebase]
    generalize observed.spec = old at hspec hstays
    generalize desired.spec = new at hspec hstays
    -- what the third state lacks is taken to be empty, and the change is made on that
    have hedited (old new live : ServiceSpec)
        (hsame : { new with serviceType := none, externalIPs := none } =
          { old with serviceType := none, externalIPs := none }) :
        { old.rebase new live with serviceType := none, externalIPs := none } =
          { live with serviceType := none, externalIPs := none } := by
      simp only [ServiceSpec.mk.injEq, true_and] at hsame
      simp only [ServiceSpec.rebase, rebaseValue_of_eq, hsame]
    cases new with
    | none =>
      cases old with
      | none => rfl
      | some old => exact absurd (hstays rfl) Bool.false_ne_true
    | some new =>
      cases old with
      | none => exact hedited _ _ _ hspec
      | some old =>
        simp only [rebasePart]
        split
        · rfl
        · exact hedited _ _ _ hspec

/-! ## Patches of strategies -/

/-- What a strategy asks for, to expose a service or to stop exposing it: an edit of the service
within the bounds of what is recorded, after writes of routing objects. -/
theorem Strategy.exists_edits {st : Strategy} {s : Service} {snapshot : Snapshot} {e : Exposure}
    (h : st.add s snapshot = .ok e ∨ st.remove s snapshot = e) :
    ∃ desired ws, e = .of s desired ws ∧ Service.Edits s.recordKeys s desired ∧
      ∀ w ∈ ws, st.routingKind? = some w.kind := by
  rcases h with hadd | rfl
  · obtain ⟨ws, hrouting, rfl⟩ := add_eq_ok_iff.1 hadd
    exact ⟨_, ws, rfl, st.edits_desired s, kind_routing hrouting⟩
  · exact ⟨_, _, st.remove_eq s snapshot, s.edits_clearUrl, st.kind_unrouting s snapshot⟩

theorem Exposure.servicePatch?_of_mem {s desired : Service} {ws : List Write} {key : ObjectKey}
    {patch : Json} (hws : ∀ w ∈ ws, w.kind ≠ .service)
    (h : .patchService key patch ∈ (Exposure.of s desired ws).writes) :
    key = s.key ∧ servicePatch? s desired = some patch := by
  rcases List.mem_append.1 h with hrouting | hrecord
  · exact absurd rfl (hws _ hrouting)
  · obtain ⟨found, hfound, heq⟩ := Option.map_eq_some_iff.1 (Option.mem_toList.1 hrecord)
    obtain ⟨rfl, rfl⟩ := Write.patchService.inj heq
    exact ⟨rfl, hfound⟩

namespace Sample

/-- A service with external addresses, which asks for its host under one more annotation. -/
def printer : Service where
  metadata := {
    name := some "printer"
    inNamespace := some "ns1"
    annotations := some (.ofList [( Annotation.exposeHostNameAs, "example.com/host")]) }
  spec := some {
    ports := some [{ port := 631, nodePort := some 30631 }]
    externalIPs := some ["192.0.2.7"] }

/-- The same service after others have worked on it: with a new annotation in place of its only one,
with a label and with more ports. -/
def editedPrinter : Service where
  metadata := {
    name := some "printer"
    inNamespace := some "ns1"
    labels := some (.ofList [("tier", "office")])
    annotations := some (.ofList [("team", "payments")])
    resourceVersion := some "2" }
  spec := some { ports := some [{ port := 631 }, { port := 9100 }], clusterIP := some "10.3.0.9" }

theorem exists_patch_printer : ∃ e patch, (Strategy.nodePort "10.0.0.5").add printer {} = .ok e ∧
    .patchService printer.key patch ∈ e.writes := by
  have hrouting : (Strategy.nodePort "10.0.0.5").routing printer {} = .ok [] := rfl
  have hadd := Strategy.add_eq_ok_iff.2 ⟨_, hrouting, rfl⟩
  -- the service is not a node port service yet
  have hne : printer ≠ (Strategy.nodePort "10.0.0.5").desired printer := by
    intro h
    have htype := congrArg (fun s : Service => (s.spec.getD {}).serviceType) h
    cases htype
  obtain ⟨patch, hpatch⟩ :=
    Option.ne_none_iff_exists'.1 (mt Service.servicePatch?_eq_none_iff.1 hne)
  refine ⟨_, patch, hadd, ?_⟩
  rw [Exposure.of, hpatch]
  exact List.mem_singleton.2 rfl

end Sample

/-- Whatever others have made of a service by the time that it is patched stays: the patch is for
the recorded URL, the alias of the service as it was observed, the type and the external addresses,
and for nothing else. -/
theorem concurrent_edits_kept {st : Strategy} {s : Service} {snapshot : Snapshot} {e : Exposure}
    {key : ObjectKey} {patch : Json} (h : st.add s snapshot = .ok e ∨ st.remove s snapshot = e)
    (hpatch : .patchService key patch ∈ e.writes) (live : Service) :
    key = s.key ∧ ∃ merged, Service.ofJson? (Json.merge patch live.toJson) = some merged ∧
      live.AgreeOutside s.recordKeys merged := by
  obtain ⟨desired, ws, rfl, hedits, hkind⟩ := Strategy.exists_edits h
  have hws : ∀ w ∈ ws, w.kind ≠ .service :=
    fun w hw heq => st.routingKind?_ne_service (heq ▸ hkind w hw)
  obtain ⟨hkey, hfound⟩ := Exposure.servicePatch?_of_mem hws hpatch
  have hpatched := Service.ofJson?_patched s desired live
  rw [hfound] at hpatched
  exact ⟨hkey, _, hpatched, hedits.rebase live⟩

open Sample in
theorem concurrent_edits_kept_printer : ∃ e patch merged,
    (Strategy.nodePort "10.0.0.5").add printer {} = .ok e ∧
    .patchService printer.key patch ∈ e.writes ∧
    Service.ofJson? (Json.merge patch editedPrinter.toJson) = some merged ∧
    editedPrinter.AgreeOutside printer.recordKeys merged ∧
    merged.annotation? "team" = some "payments" := by
  obtain ⟨e, patch, hadd, hpatch⟩ := exists_patch_printer
  obtain ⟨-, merged, hmerged, hagree⟩ := concurrent_edits_kept (.inl hadd) hpatch editedPrinter
  have hteam : "team" ∉ printer.recordKeys := by decide
  exact ⟨e, patch, merged, hadd, hpatch, hmerged, hagree,
    (hagree.annotation? _ hteam).trans (by decide)⟩

end ServiceExposure
