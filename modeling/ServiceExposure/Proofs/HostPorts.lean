import ServiceExposure.Proofs.RecordedAddress

/-! # Hosts and ports

Whether a text has an IPv6 address in it is told in three ways: by a colon when a port is put
behind, by parsing when it becomes the host of a URL, and by the last colon or a bracket when its
port is asked for. They agree, since an IPv6 address has at least two colons and no bracket. -/

namespace ServiceExposure

/-! ## Colons -/

namespace Net

/-- Groups come from one text each, but for the last, which may stand for two. -/
theorem length_le_of_groups? {ipv4Last : Bool} {pieces : List (List Char)} {groups : List Nat}
    (h : groups? ipv4Last pieces = some groups) : groups.length ≤ pieces.length + 1 := by
  induction pieces generalizing groups with
  | nil =>
    cases h
    exact Nat.zero_le _
  | cons cs rest ih =>
    cases rest with
    | nil =>
      rw [groups?] at h
      split at h
      · cases h
        exact Nat.le_succ 1
      · split at h
        · obtain ⟨⟨a, b, c, d⟩, -, rfl⟩ := Option.map_eq_some_iff.1 h
          exact Nat.le_refl 2
        · cases h
    | cons next rest =>
      rw [groups?] at h
      · obtain ⟨g, -, h⟩ := Option.bind_eq_some_iff.1 h
        obtain ⟨gs, hgs, h⟩ := Option.bind_eq_some_iff.1 h
        cases h
        exact Nat.succ_le_succ (ih hgs)
      · exact List.cons_ne_nil _ _

/-- An IPv6 address has two colons at least. -/
theorem two_le_count_colon {cs : List Char} (h : (ipv6? cs).isSome) : 2 ≤ cs.count ':' := by
  obtain ⟨address, h⟩ := Option.isSome_iff_exists.1 h
  rw [ipv6?] at h
  split at h
  · obtain ⟨groups, hgroups, h⟩ := Option.bind_eq_some_iff.1 h
    have hlength := length_le_of_groups? hgroups
    rw [Text.length_splitChars] at hlength
    split at h
    · omega
    · cases h
  · next before after hcut =>
    have hcolons : "::".toList.count ':' = 2 := rfl
    rw [Text.eq_append_of_cutChars? hcut, List.count_append, List.count_append, hcolons]
    omega

theorem not_isIpv6_of_bracket_mem {s : String} (h : '[' ∈ s.toList ∨ ']' ∈ s.toList) :
    ¬isIpv6 s := by
  intro hip
  rcases h with h | h <;> exact not_mem_of_ipv6? (by decide) (by decide) (by decide) hip h

/-! ## Numbers -/

theorem toList_toString_natCast (n : Nat) : (toString (n : Int)).toList = Nat.toDigits 10 n := by
  have htext : toString (n : Int) = toString n := rfl
  rw [htext, Nat.toString_eq_ofList_toDigits, String.toList_ofList]

/-- A positive number is written in digits alone. -/
theorem isDecimal_toString {n : Int} (h : 0 < n) : isDecimal (toString n).toList := by
  obtain ⟨m, rfl⟩ := Int.eq_ofNat_of_zero_le h.le
  have hdigits : (Nat.toDigits 10 m).all Char.isDigit :=
    List.all_eq_true.2 fun c hc => Nat.isDigit_of_mem_toDigits (by decide) (by decide) hc
  rw [toList_toString_natCast, isDecimal, hdigits, Bool.and_true, Bool.not_eq_true',
    List.isEmpty_eq_false_iff]
  exact Nat.toDigits_ne_nil

/-- Different numbers are written differently. -/
theorem toString_inj {m n : Int} (hm : 0 < m) (hn : 0 < n) : toString m = toString n ↔ m = n := by
  refine ⟨fun h => ?_, congrArg toString⟩
  obtain ⟨k, rfl⟩ := Int.eq_ofNat_of_zero_le hm.le
  obtain ⟨l, rfl⟩ := Int.eq_ofNat_of_zero_le hn.le
  have hdigits := congrArg (Nat.ofDigitChars 10 ·.toList 0) h
  simp only [toList_toString_natCast] at hdigits
  rw [Nat.ofDigitChars_toDigits (by decide) (by decide),
    Nat.ofDigitChars_toDigits (by decide) (by decide)] at hdigits
  rw [hdigits]

end Net

/-! ## Ports -/

namespace Address

variable {α : Type} [ToString α] {host : String} {port : α}

/-- A host with a colon is put in brackets, another is not. -/
theorem joinHostPort_eq (host : String) (port : α) :
    (':' ∈ host.toList ∧ joinHostPort host port = "[" ++ host ++ "]:" ++ toString port) ∨
      ':' ∉ host.toList ∧ joinHostPort host port = host ++ ":" ++ toString port := by
  rw [joinHostPort]
  split
  · next h => exact .inl ⟨List.contains_iff_mem.1 h, rfl⟩
  · next h => exact .inr ⟨mt List.contains_iff_mem.2 h, rfl⟩

/-- The port that is put behind a host without brackets is found there. -/
theorem port?_joinHostPort (hopening : '[' ∉ host.toList) (hclosing : ']' ∉ host.toList)
    (hport : Net.isDecimal (toString port).toList) :
    port? (joinHostPort host port) = some (toString port) := by
  have hcolon : ':' ∉ (toString port).toList := Net.not_mem_of_isDecimal (by decide) hport
  suffices hchars : portChars? (joinHostPort host port).toList = some (toString port).toList by
    rw [port?, hchars, Option.filter_some_pos hport, Option.map_some, String.ofList_toList]
  rcases joinHostPort_eq host port with ⟨-, hjoin⟩ | ⟨hhost, hjoin⟩
  · have hcut : Text.cutChars? "]:".toList (host.toList ++ "]:".toList ++ (toString port).toList) =
        some (host.toList, (toString port).toList) := Text.cutChars?_append hclosing
    have htext : (joinHostPort host port).toList = '[' ::
        (host.toList ++ "]:".toList ++ (toString port).toList) := by
      simp [hjoin, String.toList_append]
    rw [htext, portChars?, hcut, Option.map_some]
  · have htext :
        (joinHostPort host port).toList = host.toList ++ ':' :: (toString port).toList := by
      simp [hjoin, String.toList_append]
    rw [htext, portChars?, Text.cutLastChars?_append hcolon]
    · simp [hhost]
    · -- no opening bracket stands in front
      intro rest hrest
      have hmem : '[' ∈ host.toList ++ ':' :: (toString port).toList := hrest ▸ List.mem_cons_self
      have hdigits : '[' ∉ (toString port).toList := Net.not_mem_of_isDecimal (by decide) hport
      simp [hopening, hdigits] at hmem

/-- A host with a port is no bare IPv6 address. -/
theorem bracketed_joinHostPort (hport : ':' ∉ (toString port).toList) :
    bracketed (joinHostPort host port) = joinHostPort host port := by
  have hip : ¬Net.isIpv6 (joinHostPort host port) := by
    rcases joinHostPort_eq host port with ⟨-, hjoin⟩ | ⟨hhost, hjoin⟩
    · refine Net.not_isIpv6_of_bracket_mem (.inl ?_)
      simp [hjoin, String.toList_append]
    · intro hip
      have hcolons := Net.two_le_count_colon hip
      simp [hjoin, String.toList_append, List.count_append, List.count_eq_zero.2 hhost,
        List.count_eq_zero.2 hport] at hcolons
  rw [bracketed, if_neg hip]

theorem joinHostPort_of_isIpv6 (h : Net.isIpv6 host) (port : α) :
    joinHostPort host port = "[" ++ host ++ "]:" ++ toString port := by
  have hcolons := Net.two_le_count_colon h
  rcases joinHostPort_eq host port with ⟨-, hjoin⟩ | ⟨hhost, -⟩
  · exact hjoin
  · rw [List.count_eq_zero.2 hhost] at hcolons
    cases hcolons

theorem joinHostPort_ne_empty (host : String) (port : α) : joinHostPort host port ≠ "" := by
  intro h
  have hlength := congrArg String.length h
  rcases joinHostPort_eq host port with ⟨-, hjoin⟩ | ⟨-, hjoin⟩ <;>
    simp [hjoin, String.length_append] at hlength

/-- What stands behind the last colon of an IPv6 address is no port. -/
theorem port?_of_isIpv6 (h : Net.isIpv6 host) : port? host = none := by
  suffices hchars : portChars? host.toList = none by
    rw [port?, hchars]
    rfl
  rw [portChars?]
  · split
    · next name rest hcut =>
      -- an earlier colon stands in front of the last one
      obtain ⟨htext, hrest⟩ := Text.eq_append_of_cutLastChars? hcut
      have hcolons := Net.two_le_count_colon h
      rw [htext, List.count_append, List.count_cons_self, List.count_eq_zero.2 hrest] at hcolons
      exact if_pos (List.contains_iff_mem.2 (List.count_pos_iff.1 (by omega)))
    · rfl
  · intro rest hrest
    exact Net.not_isIpv6_of_bracket_mem (.inl (hrest ▸ List.mem_cons_self)) h

end Address

/-! ## Protocols -/

namespace Service

variable {s : Service} {host : String}

/-- Whether a service has a port that is named for secure connections. -/
def NamesHttps (s : Service) : Prop := ∃ p ∈ s.ports, p.name = some "https"

instance (s : Service) : Decidable s.NamesHttps := List.decidableBEx _ s.ports

theorem protocolAt_eq (s : Service) (host : String) : s.protocolAt host =
    if Address.port? host = some "443" ∨ Address.port? host = some "8443" ∨ s.NamesHttps then
      "https"
    else "http" := by
  have hnames : s.ports.any (·.name = some "https") = true ↔ s.NamesHttps := by
    simp only [List.any_eq_true, decide_eq_true_eq, NamesHttps]
  simp only [protocolAt, Bool.or_eq_true, decide_eq_true_eq, hnames, or_assoc]

theorem protocolAt_joinHostPort (hopening : '[' ∉ host.toList) (hclosing : ']' ∉ host.toList)
    {n : Int} (hn : 0 < n) :
    s.protocolAt (Address.joinHostPort host n) =
      if n = 443 ∨ n = 8443 ∨ s.NamesHttps then "https" else "http" := by
  have h443 : toString n = "443" ↔ n = 443 := Net.toString_inj hn (n := 443) (by decide)
  have h8443 : toString n = "8443" ↔ n = 8443 := Net.toString_inj hn (n := 8443) (by decide)
  rw [protocolAt_eq, Address.port?_joinHostPort hopening hclosing (Net.isDecimal_toString hn)]
  simp only [Option.some.injEq, h443, h8443]

theorem protocolAt_of_isIpv6 (h : Net.isIpv6 host) :
    s.protocolAt host = if s.NamesHttps then "https" else "http" := by
  rw [protocolAt_eq, Address.port?_of_isIpv6 h]
  simp only [reduceCtorEq, false_or]

/-! ## What is recorded -/

/-- A URL with the path behind that the API of a service is served under. -/
def withApiPath (s : Service) (url : String) : String :=
  match s.setting? Annotation.apiServicePath with
  | some path => Address.join [url, path]
  | none => url

/-- What is recorded as the URL of a service, unless the service asks for the host to be recorded in
its place. -/
def urlUnlessHost (s : Service) (host url : String) : String :=
  if aliasKey? s.annotations = some Annotation.exposeUrl then host else s.withApiPath url

theorem exposedUrl?_recordUrl_eq (hhost : host ≠ "") (protocol : String) :
    (s.recordUrl host protocol).exposedUrl? =
    some (s.urlUnlessHost host (protocol ++ "://" ++ Address.bracketed host)) := by
  rw [urlUnlessHost]
  split
  · next halias =>
    have hvalue := annotation?_alias_recordUrl halias host protocol
    rw [exposedUrl?, setting?, hvalue, nonEmpty?]
    exact Option.filter_some_pos (decide_eq_true hhost)
  · next halias => exact exposedUrl?_recordUrl halias host protocol

end Service

namespace Strategy

variable {st : Strategy} {s : Service} {host : String}

/-- A strategy that knows of a host that a service has to itself records that. -/
theorem exposedUrl?_of_locationAt (h : st.location? s = some (s.locationAt host))
    (hhost : host ≠ "") :
    (st.desired s).exposedUrl? =
      some (s.urlUnlessHost host (s.protocolAt host ++ "://" ++ Address.bracketed host)) := by
  have halike := st.alike_typed s
  have hplain (url : String) : (st.typed s).urlUnlessHost host url = s.urlUnlessHost host url := by
    simp only [Service.urlUnlessHost, Service.withApiPath, halike.aliasKey?,
      halike.setting? Annotation.apiServicePath (by decide) (by decide)]
  rw [desired_of_location? h]
  exact (Service.exposedUrl?_recordUrl_eq hhost _).trans (congrArg some (hplain _))

theorem exists_add_nodePort (nodeIP : String) {p : ServicePort} {n : Int32} (hports : s.ports = [p])
    (hnode : p.nodePort = some n) (hn : 0 < n) (snapshot : Snapshot) :
    let address := Address.joinHostPort nodeIP n.toInt
    ∃ e, (nodePort nodeIP).add s snapshot = .ok e ∧
      e.service.exposedUrl? =
        some (s.urlUnlessHost address (s.protocolAt address ++ "://" ++ address)) := by
  intro address
  have hrouting : (nodePort nodeIP).routing s snapshot = .ok [] := by simp only [routing, hports]
  have haddress : s.nodeAddress? nodeIP = some address := by
    simp only [Service.nodeAddress?, hports, List.head?_cons, Option.bind_some, hnode,
      Option.getD_some, if_pos hn]
    rfl
  have hlocation : (nodePort nodeIP).location? s = some (s.locationAt address) := by
    rw [location?, haddress, Option.map_some]
  have hpositive : 0 < n.toInt := Int32.lt_iff_toInt_lt.1 hn
  have hcolon : ':' ∉ (toString n.toInt).toList :=
    Net.not_mem_of_isDecimal (by decide) (Net.isDecimal_toString hpositive)
  have hbracketed : Address.bracketed address = address := Address.bracketed_joinHostPort hcolon
  refine ⟨_, add_eq_ok_iff.2 ⟨[], hrouting, rfl⟩, ?_⟩
  have hurl := exposedUrl?_of_locationAt hlocation (Address.joinHostPort_ne_empty nodeIP n.toInt)
  rwa [hbracketed] at hurl

theorem exists_add_loadBalancer {ip : String}
    (hip : nonEmpty? (s.spec.getD {}).loadBalancerIP = some ip) (snapshot : Snapshot) :
    ∃ e, loadBalancer.add s snapshot = .ok e ∧
      e.service.exposedUrl? =
        some (s.urlUnlessHost ip (s.protocolAt ip ++ "://" ++ Address.bracketed ip)) := by
  have hlocation : loadBalancer.location? s = some (s.locationAt ip) := by
    rw [location?, Service.balancerAddress?, hip, Option.map_some]
  have hne : ip ≠ "" := by simpa using (Option.filter_eq_some_iff.1 hip).2
  exact ⟨_, add_eq_ok_iff.2 ⟨[], rfl, rfl⟩, exposedUrl?_of_locationAt hlocation hne⟩

end Strategy

/-- A port that is put behind a host without brackets is found there and tells the protocol; a bare
IPv6 address has no port, whatever it ends in. So the URL for a node port or a load balancer has the
address in it, in brackets once if it is of IPv6. It is recorded, with the path of the API behind it
if there is one, unless the service asks for the host to be recorded in its place. -/
theorem hosts_survive_composition (s : Service) (snapshot : Snapshot) :
    (∀ (host : String) (n : Int), '[' ∉ host.toList → ']' ∉ host.toList → 0 < n →
      Address.port? (Address.joinHostPort host n) = some (toString n) ∧
      Address.bracketed (Address.joinHostPort host n) = Address.joinHostPort host n ∧
      s.protocolAt (Address.joinHostPort host n) =
        if n = 443 ∨ n = 8443 ∨ s.NamesHttps then "https" else "http") ∧
    (∀ host : String, Net.isIpv6 host →
      Address.port? host = none ∧ Address.bracketed host = "[" ++ host ++ "]" ∧
      (s.protocolAt host = if s.NamesHttps then "https" else "http") ∧
      ('[' ∉ host.toList ∧ ']' ∉ host.toList) ∧
      ∀ n : Int, Address.joinHostPort host n = "[" ++ host ++ "]:" ++ toString n) ∧
    (∀ (nodeIP : String) (p : ServicePort) (n : Int32), s.ports = [p] →
      p.nodePort = some n → 0 < n →
      let address := Address.joinHostPort nodeIP n.toInt
      ∃ e, (Strategy.nodePort nodeIP).add s snapshot = .ok e ∧
        e.service.exposedUrl? =
          some (s.urlUnlessHost address (s.protocolAt address ++ "://" ++ address))) ∧
    ∀ ip, nonEmpty? (s.spec.getD {}).loadBalancerIP = some ip →
      ∃ e, Strategy.loadBalancer.add s snapshot = .ok e ∧
        e.service.exposedUrl? =
          some (s.urlUnlessHost ip (s.protocolAt ip ++ "://" ++ Address.bracketed ip)) := by
  refine ⟨fun host n hopening hclosing hn => ?_, fun host hip => ?_,
    fun nodeIP p n hports hnode hn => Strategy.exists_add_nodePort nodeIP hports hnode hn snapshot,
    fun ip hip => Strategy.exists_add_loadBalancer hip snapshot⟩
  · have hdecimal := Net.isDecimal_toString hn
    exact ⟨Address.port?_joinHostPort hopening hclosing hdecimal,
      Address.bracketed_joinHostPort (Net.not_mem_of_isDecimal (by decide) hdecimal),
      Service.protocolAt_joinHostPort hopening hclosing hn⟩
  · refine ⟨Address.port?_of_isIpv6 hip, if_pos hip, Service.protocolAt_of_isIpv6 hip, ?_,
      fun n => Address.joinHostPort_of_isIpv6 hip n⟩
    exact not_or.1 fun hmem => Net.not_isIpv6_of_bracket_mem hmem hip

namespace Sample

/-- A service with annotations that has been given a port on a node, and asks for an address of a
load balancer that could be taken for one with a port. -/
def atNode (annotations : StringDict) : Service where
  metadata := { name := some "web", inNamespace := some "ns1", annotations := some annotations }
  spec := some {
    ports := some [{ port := 80, nodePort := some 30080 }]
    loadBalancerIP := some "2001:db8::443" }

end Sample

open Sample in
theorem hosts_survive_composition_ipv6 :
    (atNode ∅).protocolAt (Address.joinHostPort "2001:db8::1" (443 : Int)) = "https" ∧
    (atNode ∅).protocolAt "2001:db8::443" = "http" ∧
    (∃ e, (Strategy.nodePort "fd00::8443").add (atNode ∅) {} = .ok e ∧
      e.service.exposedUrl? = some "http://[fd00::8443]:30080") ∧
    ∃ e, Strategy.loadBalancer.add (atNode ∅) {} = .ok e ∧
      e.service.exposedUrl? = some "http://[2001:db8::443]" := by
  obtain ⟨hport, hip, hnode, hbalancer⟩ := hosts_survive_composition (atNode ∅) {}
  obtain ⟨-, -, hprotocol⟩ := hport "2001:db8::1" 443 (by decide) (by decide) (by decide)
  obtain ⟨-, -, hprotocol', -⟩ := hip "2001:db8::443" (by decide)
  obtain ⟨e, hadd, hurl⟩ := hnode "fd00::8443" _ 30080 rfl rfl (by decide)
  obtain ⟨e', hadd', hurl'⟩ := hbalancer "2001:db8::443" (by decide)
  exact ⟨hprotocol.trans (by decide), hprotocol'.trans (by decide),
    ⟨e, hadd, hurl.trans (by decide)⟩, e', hadd', hurl'.trans (by decide)⟩

open Sample in
/-- A service that asks for the host in place of its URL has it recorded without a protocol, and a
service whose API is served under a path has that path behind its port. -/
theorem urls_without_protocol_or_with_path :
    let st := Strategy.nodePort "fd00::1"
    let hostAlone := atNode (.ofList [( Annotation.exposeHostNameAs, Annotation.exposeUrl)])
    let underPath := atNode (.ofList [( Annotation.apiServicePath, "/api")])
    (∃ e, st.add hostAlone {} = .ok e ∧ e.service.exposedUrl? = some "[fd00::1]:30080") ∧
      ∃ e, st.add underPath {} = .ok e ∧
        e.service.exposedUrl? = some "http://[fd00::1]:30080/api" :=
  ⟨⟨_, Strategy.add_eq_ok_iff.2 ⟨[], rfl, rfl⟩, by decide⟩, _,
    Strategy.add_eq_ok_iff.2 ⟨[], rfl, rfl⟩, by decide⟩

end ServiceExposure
