import Mathlib.Data.List.Forall2
import ServiceExposure.Kube.Route
import ServiceExposure.Proofs.Encoding
import ServiceExposure.Strategy.Route

/-! # Routes as documents

A route is written in one way and may be given in many: each of its parts by name or in order, with
members that mean nothing to it, with `null` for what is absent. `Route.GivenBy` says which
documents give a route. They are the documents that are read as it, and what is written for it is
one of them. -/

namespace ServiceExposure

namespace Json

/-! ## Values that may be absent -/

/-- Whether a document gives a value that may be absent, where `null` gives none. -/
def OrNull {α : Type} (gives : α → Json → Prop) : Option α → Json → Prop
  | none, j => j = .null
  | some a, j => gives a j

section

variable {α : Type} {read : Reader α} {gives : α → Json → Prop} {value : Option α} {j : Json}

theorem orNull?_eq_some_iff (hread : ∀ a j, read j = some a ↔ gives a j)
    (hnull : read .null = none) :
    orNull? read j = some value ↔ OrNull gives value j := by
  have hrefused (a : α) : ¬gives a .null :=
    fun h => Option.some_ne_none a ((hread a .null).2 h ▸ hnull)
  cases value with
  | none => cases j <;> simp [orNull?, OrNull]
  | some a => cases j <;> simp [orNull?, OrNull, hread, hrefused]

/-- A field that is left out where the value is absent gives it. -/
theorem OrNull.written {write : α → Json} (hgives : ∀ a, gives a (write a)) (value : Option α) :
    OrNull gives value ((value.map write).getD .null) := by
  cases value with
  | none => rfl
  | some a => exact hgives a

theorem OrNull.written_eq (write : α → Json) (value : Option α) :
    OrNull (fun a j => j = write a) value ((value.map write).getD .null) := by
  cases value <;> rfl

end

theorem string?_eq_some_iff {s : String} {j : Json} : j.string? = some s ↔ j = .string s := by
  cases j <;> simp [string?]

theorem int32?_eq_some_iff {n : Int32} {j : Json} : j.int32? = some n ↔ j = .int n.toInt := by
  cases j with
  | int k =>
    simp only [int32?, int32OfInt?, Option.ite_none_right_eq_some, Option.some.injEq, int.injEq]
    constructor
    · rintro ⟨hrange, rfl⟩
      exact (Int32.toInt_ofInt_of_le hrange.1 (Int.lt_add_one_of_le hrange.2)).symm
    · rintro rfl
      exact ⟨⟨n.le_toInt, Int.le_of_lt_add_one n.toInt_lt⟩, Int32.ofInt_toInt n⟩
  | _ => simp [int32?]

/-! ## Records -/

/-- Whether a document gives a record, where each field comes with the documents that give it. An
object has the fields under their names, next to any others, and an array has them in order. What is
left out is `null`, which not all fields take. -/
inductive Record (fields : List (String × (Json → Prop))) : Json → Prop
  | byName {members : Members} (h : ∀ f ∈ fields, f.2 ((Entries.get? f.1 members).getD .null)) :
      Record fields (.object members)
  | inOrder {items : List Json} {left : Nat}
      (h : List.Forall₂ (fun f item => f.2 item) fields (items ++ List.replicate left .null)) :
      Record fields (.array items)

/-- An array has the fields that must be there, where the last of them does not take `null`. -/
theorem lt_length_of_forall₂ {fields : List (String × (Json → Prop))} {last : Nat}
    {f : String × (Json → Prop)} (hlast : fields[last]? = some f) (hnull : ¬f.2 .null)
    {items : List Json} {left : Nat}
    (h : List.Forall₂ (fun f item => f.2 item) fields (items ++ List.replicate left Json.null)) :
    last < items.length := by
  by_contra hshort
  obtain ⟨hindex, rfl⟩ := List.getElem?_eq_some_iff.1 hlast
  have hindex' : last < (items ++ List.replicate left null).length := h.length_eq ▸ hindex
  have hvalue := h.get hindex hindex'
  simp only [List.get_eq_getElem, List.getElem_append_right (Nat.le_of_not_lt hshort),
    List.getElem_replicate] at hvalue
  exact hnull hvalue

/-- A record that is read field by field is read from the documents that give its fields. -/
theorem recordFields?_bind_eq_some_iff {α : Type} {fields : List (String × (Json → Prop))}
    {names : List String} {last : Nat} {f : String × (Json → Prop)}
    (hnames : fields.map (·.1) = names) (hlast : fields[last]? = some f) (hnull : ¬f.2 .null)
    {build : List Json → Option α} {a : α}
    (hbuild : ∀ values, build values = some a ↔
      List.Forall₂ (fun f value => f.2 value) fields values)
    {j : Json} :
    (j.recordFields? names (last + 1)).bind build = some a ↔ Record fields j := by
  have hlength : names.length = fields.length := hnames ▸ List.length_map _
  simp only [Option.bind_eq_some_iff, hbuild]
  constructor
  · rintro ⟨values, hvalues, h⟩
    cases j with
    | array items =>
      obtain ⟨-, hitems⟩ := Option.ite_none_right_eq_some.1 hvalues
      obtain rfl := Option.some.inj hitems
      exact .inOrder h
    | object members =>
      obtain rfl := Option.some.inj hvalues
      rw [← hnames, List.map_map, List.forall₂_map_right_iff, List.forall₂_same] at h
      exact .byName h
    | _ => cases hvalues
  · rintro (⟨h⟩ | @⟨items, left, h⟩)
    · refine ⟨_, rfl, ?_⟩
      rw [← hnames, List.map_map, List.forall₂_map_right_iff, List.forall₂_same]
      exact h
    · refine ⟨items ++ List.replicate left .null, ?_, h⟩
      have hneeded : last < items.length := lt_length_of_forall₂ hlast hnull h
      have hgiven : fields.length = items.length + left := by simpa using h.length_eq
      have hleft : names.length - items.length = left := by omega
      rw [recordFields?, hleft, if_pos (by omega)]

/-- A record is given by what is written for it. -/
theorem Record.written {fields : List (String × (Json → Prop))}
    {present : List (String × Option Json)} (hnodup : (present.map (·.1)).Nodup)
    (h : fields.Forall fun f => f.2 ((field? f.1 present).getD .null)) :
    Record fields (ofPresent present) := by
  refine .byName fun f hf => ?_
  have hmember : Entries.get? f.1 (ofPresent present).members = field? f.1 present :=
    member?_ofPresent hnodup f.1
  exact hmember ▸ List.forall_iff_forall_mem.1 h f hf

end Json

open Json (OrNull Record)

/-! ## Parts of routes -/

theorem PortReference.ofJson?_eq_some_iff {p : PortReference} {j : Json} :
    ofJson? j = some p ↔ j = p.toJson := by
  cases p with
  | number n => cases j <;> simp [ofJson?, toJson, Json.int32?_eq_some_iff]
  | name s => cases j <;> simp [ofJson?, toJson]

theorem PortReference.toJson_ne_null (p : PortReference) :
    p.toJson ≠ .null := by cases p <;> exact nofun

namespace RouteTarget

def GivenBy (t : RouteTarget) : Json → Prop :=
  Record [
    ("kind", (· = .string t.kind)),
    ("name", (· = .string t.name)),
    ("weight", OrNull (fun n j => j = .int n.toInt) t.weight)]

theorem ofJson?_eq_some_iff {t : RouteTarget} {j : Json} : ofJson? j = some t ↔ t.GivenBy j := by
  have hweights (value : Json) : value.orNull? Json.int32? = some t.weight ↔ _ :=
    Json.orNull?_eq_some_iff (fun _ _ => Json.int32?_eq_some_iff) rfl
  rw [ofJson?, GivenBy, Option.bind_eq_bind]
  refine Json.recordFields?_bind_eq_some_iff (by rfl) (by rfl) (by simp) fun values => ?_
  split
  · simp only [Option.bind_eq_bind, Option.bind_eq_some_iff, Option.pure_def, Option.some.injEq,
      Json.string?_eq_some_iff, List.forall₂_cons, ← hweights, List.Forall₂.nil, and_true]
    constructor
    · rintro ⟨_, hkind, _, hname, _, hweight, rfl⟩
      exact ⟨hkind, hname, hweight⟩
    · rintro ⟨hkind, hname, hweight⟩
      exact ⟨_, hkind, _, hname, _, hweight, rfl⟩
  · next hother =>
    exact iff_of_false nofun fun
      | .cons _ (.cons _ (.cons _ .nil)) => hother _ _ _ rfl

theorem givenBy_toJson (t : RouteTarget) : t.GivenBy t.toJson :=
  Record.written (by simp) ⟨rfl, rfl, .written_eq _ t.weight⟩

end RouteTarget

namespace RoutePort

def GivenBy (p : RoutePort) : Json → Prop := Record [("targetPort", (· = p.targetPort.toJson))]

theorem ofJson?_eq_some_iff {p : RoutePort} {j : Json} : ofJson? j = some p ↔ p.GivenBy j := by
  rw [ofJson?, GivenBy, Option.bind_eq_bind]
  refine Json.recordFields?_bind_eq_some_iff (by rfl) (by rfl) p.targetPort.toJson_ne_null.symm
    fun values => ?_
  split
  · simp only [Option.bind_eq_bind, Option.bind_eq_some_iff, Option.pure_def, Option.some.injEq,
      PortReference.ofJson?_eq_some_iff, List.forall₂_cons, List.Forall₂.nil, and_true]
    constructor
    · rintro ⟨_, hport, ⟨⟩⟩
      exact hport
    · intro hport
      exact ⟨_, hport, rfl⟩
  · next hother => exact iff_of_false nofun fun | .cons _ .nil => hother _ rfl

theorem givenBy_toJson (p : RoutePort) : p.GivenBy p.toJson := by
  have hwritten : p.GivenBy (.ofPresent [("targetPort", some p.targetPort.toJson)]) :=
    .written (by simp) rfl
  exact hwritten

end RoutePort

namespace RouteTls

def GivenBy (t : RouteTls) : Json → Prop :=
  Record [
    ("termination", (· = .string t.termination)),
    ("insecureEdgeTerminationPolicy",
      OrNull (fun s j => j = .string s) t.insecureEdgeTerminationPolicy)]

theorem ofJson?_eq_some_iff {t : RouteTls} {j : Json} : ofJson? j = some t ↔ t.GivenBy j := by
  have hpolicies (value : Json) :
      value.orNull? Json.string? = some t.insecureEdgeTerminationPolicy ↔ _ :=
    Json.orNull?_eq_some_iff (fun _ _ => Json.string?_eq_some_iff) rfl
  rw [ofJson?, GivenBy, Option.bind_eq_bind]
  refine Json.recordFields?_bind_eq_some_iff (by rfl) (by rfl) (by simp) fun values => ?_
  split
  · simp only [Option.bind_eq_bind, Option.bind_eq_some_iff, Option.pure_def, Option.some.injEq,
      Json.string?_eq_some_iff, List.forall₂_cons, ← hpolicies, List.Forall₂.nil, and_true]
    constructor
    · rintro ⟨_, htermination, _, hpolicy, rfl⟩
      exact ⟨htermination, hpolicy⟩
    · rintro ⟨htermination, hpolicy⟩
      exact ⟨_, htermination, _, hpolicy, rfl⟩
  · next hother => exact iff_of_false nofun fun | .cons _ (.cons _ .nil) => hother _ _ rfl

theorem givenBy_toJson (t : RouteTls) : t.GivenBy t.toJson :=
  Record.written (by simp) ⟨rfl, .written_eq _ t.insecureEdgeTerminationPolicy⟩

end RouteTls

namespace RouteSpec

def GivenBy (s : RouteSpec) : Json → Prop :=
  Record [
    ("host", OrNull (fun s j => j = .string s) s.host),
    ("path", OrNull (fun s j => j = .string s) s.path),
    ("to", s.target.GivenBy),
    ("port", OrNull RoutePort.GivenBy s.port),
    ("tls", OrNull RouteTls.GivenBy s.tls)]

theorem ofJson?_eq_some_iff {s : RouteSpec} {j : Json} : ofJson? j = some s ↔ s.GivenBy j := by
  have htexts (value : Json) (text : Option String) : value.orNull? Json.string? = some text ↔ _ :=
    Json.orNull?_eq_some_iff (fun _ _ => Json.string?_eq_some_iff) rfl
  have hports (value : Json) : value.orNull? RoutePort.ofJson? = some s.port ↔ _ :=
    Json.orNull?_eq_some_iff (fun _ _ => RoutePort.ofJson?_eq_some_iff) rfl
  have hcertificates (value : Json) : value.orNull? RouteTls.ofJson? = some s.tls ↔ _ :=
    Json.orNull?_eq_some_iff (fun _ _ => RouteTls.ofJson?_eq_some_iff) rfl
  rw [ofJson?, GivenBy, Option.bind_eq_bind]
  refine Json.recordFields?_bind_eq_some_iff (by rfl) (by rfl) (by rintro ⟨⟩) fun values => ?_
  split
  · simp only [Option.bind_eq_bind, Option.bind_eq_some_iff, Option.pure_def, Option.some.injEq,
      List.forall₂_cons, ← htexts, ← hports, ← hcertificates, ← RouteTarget.ofJson?_eq_some_iff,
      List.Forall₂.nil, and_true]
    constructor
    · rintro ⟨_, hhost, _, hpath, _, htarget, _, hport, _, htls, rfl⟩
      exact ⟨hhost, hpath, htarget, hport, htls⟩
    · rintro ⟨hhost, hpath, htarget, hport, htls⟩
      exact ⟨_, hhost, _, hpath, _, htarget, _, hport, _, htls, rfl⟩
  · next hother =>
    exact iff_of_false nofun fun
      | .cons _ (.cons _ (.cons _ (.cons _ (.cons _ .nil)))) => hother _ _ _ _ _ rfl

theorem givenBy_toJson (s : RouteSpec) : s.GivenBy s.toJson :=
  Record.written (by simp) ⟨.written_eq _ s.host, .written_eq _ s.path,
    s.target.givenBy_toJson, .written RoutePort.givenBy_toJson s.port,
    .written RouteTls.givenBy_toJson s.tls⟩

end RouteSpec

/-! ## Routes -/

namespace Route

/-- Whether a document gives a route. Its kind and version do not matter, nor does anything else
that it has. -/
def GivenBy (r : Route) : Json → Prop :=
  Record [("metadata", fun j => Metadata.ofJson? j = some r.metadata), ("spec", r.spec.GivenBy)]

theorem ofJson?_eq_some_iff {r : Route} {j : Json} : ofJson? j = some r ↔ r.GivenBy j := by
  rw [ofJson?, GivenBy, Option.bind_eq_bind]
  refine Json.recordFields?_bind_eq_some_iff (by rfl) (by rfl) (by rintro ⟨⟩) fun values => ?_
  split
  · simp only [Option.bind_eq_bind, Option.bind_eq_some_iff, Option.pure_def, Option.some.injEq,
      RouteSpec.ofJson?_eq_some_iff, List.forall₂_cons, List.Forall₂.nil, and_true]
    constructor
    · rintro ⟨_, hmetadata, _, hspec, rfl⟩
      exact ⟨hmetadata, hspec⟩
    · rintro ⟨hmetadata, hspec⟩
      exact ⟨_, hmetadata, _, hspec, rfl⟩
  · next hother => exact iff_of_false nofun fun | .cons _ (.cons _ .nil) => hother _ _ rfl

theorem givenBy_toJson (r : Route) : r.GivenBy r.toJson :=
  Record.written (by simp [Resource.heading]) ⟨Metadata.encodes.reads r.metadata,
    r.spec.givenBy_toJson⟩

end Route

namespace Sample

def documentedRoute : Route where
  metadata := { name := some "web", inNamespace := some "ns1" }
  spec := {
    path := some "/docs"
    target := .service "web"
    port := some ⟨.number 8080⟩
    tls := some { termination := "edge" } }

/-- The route with its parts by name and in order, next to `null` and to members that mean nothing
to it. -/
def routeDocument : Json :=
  .object [
    ("kind", .string "Exposure"),
    ("metadata",
      .object [("labels", .null), ("name", .string "web"), ("namespace", .string "ns1")]),
    ("spec", .array [
      .null,
      .string "/docs",
      .object [("kind", .string "Service"), ("name", .string "web"), ("subset", .string "v1"),
        ("weight", .null)],
      .array [.int 8080],
      .array [.string "edge"]]),
    ("status", .array [])]

end Sample

/-! ## Reading back -/

/-- Routes are read back as they are written. The documents that are read as a route are just those
that give it, and what is written for it is read as they are. A stored document is left as it is
just where it gives the route that is wanted. -/
theorem routes_round_trip :
    (∀ r : Route, Route.ofJson? r.toJson = some r) ∧
    (∀ (r : Route) (j : Json), Route.ofJson? j = some r ↔ r.GivenBy j) ∧
    (∀ (r : Route) (j : Json), Route.ofJson? j = some r →
      Route.ofJson? r.toJson = Route.ofJson? j) ∧
    ∀ (r stored : Route) (j : Json), Route.ofJson? j = some stored →
      (RouteStrategy.routingWrites (some stored) r = [] ↔ r.GivenBy j) := by
  have hreads (r : Route) : Route.ofJson? r.toJson = some r :=
    Route.ofJson?_eq_some_iff.2 r.givenBy_toJson
  refine ⟨hreads, fun r j => Route.ofJson?_eq_some_iff,
    fun r j hread => (hreads r).trans hread.symm, ?_⟩
  intro r stored j hread
  rw [← Route.ofJson?_eq_some_iff, hread, Option.some.injEq, RouteStrategy.routingWrites]
  split <;> simp_all

open Sample in
theorem routes_round_trip_in_order :
    Route.ofJson? routeDocument = some documentedRoute ∧
      Route.ofJson? documentedRoute.toJson = Route.ofJson? routeDocument ∧
      RouteStrategy.routingWrites (some documentedRoute) documentedRoute = [] := by
  have hread : Route.ofJson? routeDocument = some documentedRoute := by decide
  obtain ⟨-, hgiven, hsame, hstored⟩ := routes_round_trip
  exact ⟨hread, hsame _ _ hread, (hstored _ _ _ hread).2 ((hgiven _ _).1 hread)⟩

open Sample in
example : documentedRoute.spec.toJson =
    .object [
      ("path", .string "/docs"),
      ("port", .object [("targetPort", .int 8080)]),
      ("tls", .object [("termination", .string "edge")]),
      ("to", .object [("kind", .string "Service"), ("name", .string "web")])] := by decide

end ServiceExposure
