import Mathlib.Data.List.Chain
import ServiceExposure.Proofs.ApplicationNames
import ServiceExposure.Proofs.RecordedAddress

/-! # Joined paths

Segments are joined by one slash each, in place of a slash that they have on that side. A segment
between two others is left with something in it, and what is left of a segment has a slash neither
in front of a slash nor behind one. So where no segment has two slashes in a row, neither has the
path. -/

namespace ServiceExposure

/-! ## Single slashes -/

namespace Text

instance (sep s : String) : Decidable (Occurs sep s) := decidable_of_iff _ occurs_iff_infix.symm

/-- Whether no two slashes stand next to each other. -/
def SingleSlashes (cs : List Char) : Prop := cs.IsChain fun a b => ¬(a = '/' ∧ b = '/')

theorem singleSlashes_iff {s : String} : SingleSlashes s.toList ↔ ¬Occurs "//" s := by
  rw [SingleSlashes, List.isChain_iff_forall_rel_of_append_cons_cons, occurs_iff_infix]
  constructor
  · rintro h ⟨before, after, hs⟩
    have hslashes : s.toList = before ++ '/' :: '/' :: after := by rw [← hs, List.append_assoc]; rfl
    exact h hslashes ⟨rfl, rfl⟩
  · rintro h a b before after hs ⟨rfl, rfl⟩
    exact h ⟨before, after, by rw [hs, List.append_assoc]; rfl⟩

theorem SingleSlashes.joined {before after : List Char} (hbefore : SingleSlashes before)
    (hend : before.getLast? ≠ some '/') (hafter : SingleSlashes after)
    (hstart : after.head? ≠ some '/') :
    SingleSlashes (before ++ ['/'] ++ after) := by
  rw [List.append_assoc, List.singleton_append, SingleSlashes, List.isChain_append,
    List.isChain_cons]
  refine ⟨hbefore, ⟨?_, hafter⟩, ?_⟩
  · rintro b hb ⟨-, rfl⟩
    exact hstart hb
  · rintro a ha b - ⟨rfl, -⟩
    exact hend ha

/-! ## Ends of segments -/

section

variable {s : String}

theorem toList_withoutLast (c : Char) (s : String) :
    (withoutLast c s).toList =
      if s.toList.getLast? = some c then s.toList.dropLast else s.toList := by
  rw [withoutLast]
  split <;> simp

theorem toList_withoutFirst (c : Char) (s : String) :
    (withoutFirst c s).toList = if s.toList.head? = some c then s.toList.tail else s.toList := by
  rw [withoutFirst]
  split <;> simp

theorem SingleSlashes.withoutLast (h : SingleSlashes s.toList) :
    SingleSlashes (withoutLast '/' s).toList := by
  rw [toList_withoutLast]
  split
  · exact h.dropLast
  · exact h

theorem SingleSlashes.withoutFirst (h : SingleSlashes s.toList) :
    SingleSlashes (withoutFirst '/' s).toList := by
  rw [toList_withoutFirst]
  split
  · exact h.tail
  · exact h

theorem SingleSlashes.getLast?_withoutLast (h : SingleSlashes s.toList) :
    (Text.withoutLast '/' s).toList.getLast? ≠ some '/' := by
  rw [toList_withoutLast]
  split
  · next hslash =>
    obtain ⟨front, hfront⟩ := List.getLast?_eq_some_iff.1 hslash
    rw [SingleSlashes, hfront, List.isChain_append] at h
    rw [hfront, List.dropLast_concat]
    exact fun hlast => h.2.2 '/' hlast '/' rfl ⟨rfl, rfl⟩
  · assumption

theorem SingleSlashes.head?_withoutFirst (h : SingleSlashes s.toList) :
    (Text.withoutFirst '/' s).toList.head? ≠ some '/' := by
  rw [toList_withoutFirst]
  split
  · next hslash =>
    obtain ⟨rest, hrest⟩ := List.head?_eq_some_iff.1 hslash
    rw [SingleSlashes, hrest, List.isChain_cons] at h
    rw [hrest, List.tail_cons]
    exact fun hhead => h.1 '/' hhead ⟨rfl, rfl⟩
  · assumption

/-- What a segment between two others is left as. -/
structure Between (cs : List Char) : Prop where
  single : SingleSlashes cs
  head : cs.head? ≠ some '/'
  last : cs.getLast? ≠ some '/'
  ne_nil : cs ≠ []

/-- What has no slash in front has none there without its last slash either. -/
theorem head?_withoutLast (h : s.toList.head? ≠ some '/') :
    (withoutLast '/' s).toList.head? ≠ some '/' := by
  rw [toList_withoutLast]
  split
  · intro hhead
    obtain ⟨rest, hrest⟩ := List.head?_eq_some_iff.1 hhead
    obtain ⟨after, hafter⟩ := List.dropLast_prefix s.toList
    rw [hrest] at hafter
    exact h (hafter ▸ rfl)
  · exact h

theorem between_of_segment (h : SingleSlashes s.toList) (hempty : s ≠ "") (hslash : s ≠ "/") :
    Between (withoutLast '/' (withoutFirst '/' s)).toList where
  single := h.withoutFirst.withoutLast
  head := head?_withoutLast h.head?_withoutFirst
  last := h.withoutFirst.getLast?_withoutLast
  ne_nil := by
    have hstart := h.head?_withoutFirst
    -- at most one slash is taken off, in front or at the end
    have hrest : (withoutFirst '/' s).toList ≠ [] := by
      rw [toList_withoutFirst]
      split
      · next hhead =>
        obtain ⟨rest, hrest⟩ := List.head?_eq_some_iff.1 hhead
        rw [hrest, List.tail_cons]
        rintro rfl
        exact hslash (String.toList_inj.1 hrest)
      · exact fun hnil => hempty (String.toList_eq_nil_iff.1 hnil)
    rw [toList_withoutLast]
    split
    · next hlast =>
      obtain ⟨front, hfront⟩ := List.getLast?_eq_some_iff.1 hlast
      rw [hfront, List.dropLast_concat]
      rintro rfl
      exact hstart (hfront ▸ rfl)
    · exact hrest

/-! ## Texts without slashes -/

section

variable {c : Char} (h : c ∉ s.toList)
include h

theorem withoutLast_of_not_mem : withoutLast c s = s := by
  rw [withoutLast, if_neg fun hlast => h (List.mem_of_getLast? hlast)]

theorem withoutFirst_of_not_mem : withoutFirst c s = s := by
  rw [withoutFirst, if_neg fun hhead => h (List.mem_of_head? hhead)]

end

theorem not_occurs_of_not_mem (h : '/' ∉ s.toList) : ¬Occurs "//" s := by
  intro hoccurs
  have hslashes := occurs_iff_infix.1 hoccurs
  exact h (hslashes.subset List.mem_cons_self)

end

/-! ## Segments with a slash between each two -/

/-- By induction on the segments between the first and the last. What comes behind the first slash
starts with something else: a segment between two others, or the last one. -/
theorem singleSlashes_intercalate {first last : List Char} {inner : List (List Char)}
    (hfirst : SingleSlashes first) (hend : first.getLast? ≠ some '/')
    (hinner : ∀ piece ∈ inner, Between piece) (hlast : SingleSlashes last)
    (hstart : last.head? ≠ some '/') :
    SingleSlashes (['/'].intercalate (first :: (inner ++ [last]))) := by
  induction inner generalizing first with
  | nil =>
    rw [List.nil_append, List.intercalate_cons_cons, List.intercalate_singleton]
    exact hfirst.joined hend hlast hstart
  | cons piece inner ih =>
    obtain ⟨hpiece, hinner⟩ := List.forall_mem_cons.1 hinner
    have hhead : (['/'].intercalate (piece :: (inner ++ [last]))).head? = piece.head? := by
      rw [List.intercalate_cons_of_ne_nil
        (List.append_ne_nil_of_right_ne_nil _ (List.cons_ne_nil _ _)), List.append_assoc,
        List.head?_append_of_ne_nil _ hpiece.ne_nil]
    rw [List.cons_append, List.intercalate_cons_cons]
    exact hfirst.joined hend (ih hpiece.single hpiece.last hinner) (hhead ▸ hpiece.head)

end Text

namespace Address

open Text (withoutFirst withoutLast Occurs)

theorem joinTail_cons (inner : String) {rest : List String} (h : rest ≠ []) :
    joinTail (inner :: rest) = "/" ++ withoutLast '/' (withoutFirst '/' inner) ++
      joinTail rest := by
  cases rest with
  | nil => exact absurd rfl h
  | cons => rfl

/-- Segments are joined by one slash each, and are left without the slash that faces a neighbour. -/
theorem join_eq (first last : String) (inner : List String) : join (first :: (inner ++ [last])) =
    "/".intercalate (withoutLast '/' first ::
      (inner.map (fun part =>
        withoutLast '/' (withoutFirst '/' part)) ++ [withoutFirst '/' last])) := by
  have htail (front : String) : front ++ joinTail (inner ++ [last]) = "/".intercalate (front ::
      (inner.map (fun part =>
        withoutLast '/' (withoutFirst '/' part)) ++ [withoutFirst '/' last])) := by
    induction inner generalizing front with
    | nil => simp [joinTail, String.append_assoc]
    | cons part inner ih =>
      have hne : inner ++ [last] ≠ [] := List.append_ne_nil_of_right_ne_nil _ (List.cons_ne_nil _ _)
      rw [List.cons_append, joinTail_cons part hne, List.map_cons, List.cons_append,
        String.intercalate_cons_cons, ← ih]
      simp only [String.append_assoc]
  rw [← htail]
  cases hrest : inner ++ [last] with
  | nil => exact absurd hrest (List.append_ne_nil_of_right_ne_nil _ (List.cons_ne_nil _ _))
  | cons => rfl

variable {first last : String} {inner : List String}

theorem not_occurs_join (hsegments : ∀ part ∈ first :: (inner ++ [last]), ¬Occurs "//" part)
    (hinner : ∀ part ∈ inner, part ≠ "" ∧ part ≠ "/") :
    ¬Occurs "//" (join (first :: (inner ++ [last]))) := by
  simp only [← Text.singleSlashes_iff] at hsegments
  obtain ⟨hfirst, hrest⟩ := List.forall_mem_cons.1 hsegments
  obtain ⟨hsegment, hlast⟩ := List.forall_mem_append.1 hrest
  have hlast := List.forall_mem_singleton.1 hlast
  rw [← Text.singleSlashes_iff, join_eq, String.toList_intercalate, List.map_cons,
    List.map_append, List.map_map]
  refine Text.singleSlashes_intercalate hfirst.withoutLast hfirst.getLast?_withoutLast ?_
    hlast.withoutFirst
    hlast.head?_withoutFirst
  intro piece hpiece
  obtain ⟨part, hpart, rfl⟩ := List.mem_map.1 hpiece
  exact Text.between_of_segment (hsegment part hpart) (hinner part hpart).1 (hinner part hpart).2

end Address

/-! ## Paths of services -/

namespace Service

/-- Whether a path lies under the namespace and the application name of a service, with no two
slashes in a row. -/
structure OwnPath (s : Service) (path : String) : Prop where
  start : ∃ rest, path = "/" ++ s.key.inNamespace ++ "/" ++ s.appName ++ "/" ++ rest
  single : ¬Text.Occurs "//" path

theorem ownPath_join {s : Service}
    (hnamespace : s.key.inNamespace ≠ "" ∧ '/' ∉ s.key.inNamespace.toList)
    (happ : s.appName ≠ "" ∧ '/' ∉ s.appName.toList) {ending : String}
    (hending : ¬Text.Occurs "//" ending) :
    s.OwnPath (Address.join ["/", s.key.inNamespace, s.appName, ending]) where
  start := by
    have hjoin := Address.join_eq "/" ending [s.key.inNamespace, s.appName]
    have hroot : Text.withoutLast '/' "/" = "" := by decide
    refine ⟨Text.withoutFirst '/' ending, hjoin.trans ?_⟩
    simp [hroot, Text.withoutLast_of_not_mem, Text.withoutFirst_of_not_mem, hnamespace.2, happ.2,
      String.append_assoc]
  single := by
    have hslash {text : String} (h : '/' ∉ text.toList) : text ≠ "/" := by
      rintro rfl
      exact h List.mem_cons_self
    have hsegments : ["/", s.key.inNamespace, s.appName, ending].Forall fun part =>
        ¬Text.Occurs "//" part :=
      ⟨by decide, Text.not_occurs_of_not_mem hnamespace.2,
        Text.not_occurs_of_not_mem happ.2, hending⟩
    have hinner : [s.key.inNamespace, s.appName].Forall fun part => part ≠ "" ∧ part ≠ "/" :=
      ⟨⟨hnamespace.1, hslash hnamespace.2⟩, happ.1, hslash happ.2⟩
    exact Address.not_occurs_join (List.forall_iff_forall_mem.1 hsegments)
      (List.forall_iff_forall_mem.1 hinner)

end Service

/-! ## Slashes in paths -/

open Text (withoutFirst withoutLast) in
/-- Segments without two slashes in a row are joined by one slash each, to a path without them,
unless a segment between two others is empty or a slash alone. So where services are told apart by
path, the path of a service lies under its namespace and its application name, and has no two
slashes in a row unless the service asks for a path that has. It is the path of the route that is
made for the service, and the one that its ingress gets in front of those that it has. -/
theorem paths_have_single_slashes :
    (∀ (first last : String) (inner : List String),
      (∀ part ∈ first :: (inner ++ [last]), ¬Text.Occurs "//" part) →
      (∀ part ∈ inner, part ≠ "" ∧ part ≠ "/") →
      ¬Text.Occurs "//" (Address.join (first :: (inner ++ [last]))) ∧
      Address.join (first :: (inner ++ [last])) = "/".intercalate (withoutLast '/' first ::
        (inner.map (fun part =>
          withoutLast '/' (withoutFirst '/' part)) ++ [withoutFirst '/' last]))) ∧
    ∀ s : Service, s.key.inNamespace ≠ "" ∧ '/' ∉ s.key.inNamespace.toList →
      s.appName ≠ "" ∧ '/' ∉ s.appName.toList →
      (∀ ending, s.annotation? Annotation.ingressPath = some ending → ¬Text.Occurs "//" ending) →
      (∀ st : IngressStrategy, st.routesByPath s → ∃ path, (st.place s).path = some path ∧
        s.OwnPath path ∧
        ∀ existing port, IngressStrategy.boundPaths (some (st.ingressFor s existing port)) =
          IngressStrategy.pathFor s.name port (some path) :: IngressStrategy.boundPaths existing) ∧
      ∀ st : RouteStrategy, st.usePath → ∃ path, (st.place s).2 = some path ∧ s.OwnPath path ∧
        ∀ existing port, (st.routeFor s existing port).spec.path = some path := by
  refine ⟨fun first last inner hsegments hinner => ⟨Address.not_occurs_join hsegments hinner,
    Address.join_eq ..⟩, ?_⟩
  intro s hnamespace happ hasked
  have hroot : ¬Text.Occurs "//" "/" := by decide
  constructor
  · intro st hpath
    have hending : ¬Text.Occurs "//" ((s.setting? Annotation.ingressPath).getD "/") := by
      cases hsetting : s.setting? Annotation.ingressPath with
      | none => exact hroot
      | some ending => exact hasked ending (nonEmpty?_eq_some_iff.1 hsetting).1
    have hplace : (st.place s).path =
        some (Address.join ["/", s.key.inNamespace, s.appName,
          (s.setting? Annotation.ingressPath).getD "/"]) := by
      simp only [IngressStrategy.place, hpath, if_true]
    refine ⟨_, hplace, Service.ownPath_join hnamespace happ hending, fun existing port => ?_⟩
    rw [← hplace]
    rfl
  · intro st hpath
    have hplace :
        (st.place s).2 = some (Address.join ["/", s.key.inNamespace, s.appName, "/"]) := by
      simp only [RouteStrategy.place, hpath, if_true]
    exact ⟨_, hplace, Service.ownPath_join hnamespace happ hroot, fun existing port => hplace⟩

namespace Sample

/-- The service with a path that it asks for. -/
def documented : Service := annotated Annotation.ingressPath "/docs/"

end Sample

open Sample in
/-- The path that a service asks for takes the place of the slash at the end, where it is exposed by
ingress. -/
theorem paths_have_single_slashes_docs :
    ¬Text.Occurs "//" (Address.join ["example.com/", "/ns1/", "web", "/docs/"]) ∧
      Address.join ["example.com/", "/ns1/", "web", "/docs/"] = "example.com/ns1/web/docs/" ∧
      (pathStrategy.place documented).path = some "/ns1/web/docs/" ∧
      documented.OwnPath "/ns1/web/docs/" ∧
      (pathRoutes.place documented).2 = some "/ns1/web/" ∧ documented.OwnPath "/ns1/web/" := by
  obtain ⟨hjoin, hpaths⟩ := paths_have_single_slashes
  obtain ⟨hsingle, hjoined⟩ :=
    hjoin "example.com/" "/docs/" ["/ns1/", "web"] (by decide) (by decide)
  have hasked : ∀ ending, documented.annotation? Annotation.ingressPath = some ending →
      ¬Text.Occurs "//" ending := by
    rintro ending hending
    obtain rfl : "/docs/" = ending := Option.some.inj hending
    decide
  obtain ⟨hingress, hroute⟩ := hpaths documented (by decide) (by decide) hasked
  have hdocs : (pathStrategy.place documented).path = some "/ns1/web/docs/" := by decide
  have hweb : (pathRoutes.place documented).2 = some "/ns1/web/" := by decide
  obtain ⟨path, hpath, hown, -⟩ := hingress pathStrategy (by decide)
  obtain ⟨path', hpath', hown', -⟩ := hroute pathRoutes (by decide)
  obtain rfl := Option.some.inj (hdocs.symm.trans hpath)
  obtain rfl := Option.some.inj (hweb.symm.trans hpath')
  exact ⟨hsingle, hjoined.trans (by decide), hpath, hown, hpath', hown'⟩

end ServiceExposure
