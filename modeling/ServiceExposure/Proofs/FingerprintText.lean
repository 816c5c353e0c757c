import Mathlib.Data.List.Basic
import ServiceExposure.Proofs.Rolling

/-! # Texts of fingerprints

A fingerprint puts keys and values next to each other as they are. A value may therefore look like
entries that follow it, so that different data have one fingerprint. Where no key has a separator in
it, and no value has an equals sign behind a semicolon, fingerprints tell all data apart. -/

namespace ServiceExposure

/-- What stands in front of a character decides what stands behind it. -/
theorem Text.append_cons_inj {c : Char} {before before' after after' : List Char}
    (hbefore : c ∉ before) (hbefore' : c ∉ before')
    (h : before ++ c :: after = before' ++ c :: after') : before = before' ∧ after = after' := by
  rcases List.append_eq_append_iff.1 h with ⟨more, rfl, hrest⟩ | ⟨more, rfl, hrest⟩
  · cases more with
    | nil => exact ⟨(List.append_nil _).symm, (List.cons.inj hrest).2⟩
    | cons d more =>
      obtain rfl := (List.cons.inj hrest).1
      exact absurd (List.mem_append_right _ List.mem_cons_self) hbefore'
  · cases more with
    | nil => exact ⟨List.append_nil _, (List.cons.inj hrest).2.symm⟩
    | cons d more =>
      obtain rfl := (List.cons.inj hrest).1
      exact absurd (List.mem_append_right _ List.mem_cons_self) hbefore

namespace ConfigMap

/-! ## Entries -/

def entryText (e : String × String) : List Char := e.1.toList ++ '=' :: e.2.toList

/-- The entries, each behind a semicolon. -/
def entriesText (entries : List (String × String)) : List Char :=
  entries.flatMap fun e => ';' :: entryText e

/-- No equals sign stands behind a semicolon, so that no part of the value reads like an entry
behind it. -/
def EndsItself (value : List Char) : Prop :=
  ∀ before after, value = before ++ ';' :: after → '=' ∉ after

/-- An entry that can be told from its neighbours in a fingerprint. -/
structure LegibleEntry (e : String × String) : Prop where
  equals : '=' ∉ e.1.toList
  semicolon : ';' ∉ e.1.toList
  value : EndsItself e.2.toList

theorem entriesText_cons (e : String × String) (entries : List (String × String)) :
    entriesText (e :: entries) = ';' ::
      (e.1.toList ++ '=' :: (e.2.toList ++ entriesText entries)) := by
  simp [entriesText, entryText]

/-- A text of entries starts with a semicolon, if with anything. -/
theorem head_entriesText {entries : List (String × String)} {c : Char} {rest : List Char}
    (h : entriesText entries = c :: rest) : c = ';' := by
  cases entries with
  | nil => cases h
  | cons e entries =>
    rw [entriesText_cons] at h
    exact (List.cons.inj h).1.symm

/-- No end of a value reads like the start of further entries. -/
theorem eq_nil_of_entriesText_eq {xs ys : List (String × String)} {ending : List Char}
    (hxs : ∀ e ∈ xs, LegibleEntry e) (hends : EndsItself ending)
    (h : entriesText xs = ending ++ entriesText ys) : ending = [] := by
  cases xs with
  | nil => exact (List.append_eq_nil_iff.1 h.symm).1
  | cons e xs =>
    have hkey := (hxs e List.mem_cons_self).semicolon
    cases ending with
    | nil => rfl
    | cons c ending =>
      exfalso
      rw [entriesText_cons, List.cons_append] at h
      obtain ⟨rfl, htail⟩ := List.cons.inj h
      rcases List.append_eq_append_iff.1 htail with ⟨more, hmore, hrest⟩ | ⟨more, hmore, hrest⟩
      -- the value goes on behind the key, up to the equals sign at least
      · cases more with
        | nil => exact absurd (head_entriesText hrest.symm) (by decide)
        | cons equals more =>
          obtain ⟨rfl, -⟩ := List.cons.inj hrest
          exact hends [] ending rfl (hmore ▸ List.mem_append_right _ List.mem_cons_self)
      -- the value ends within the key, where no entries start
      · cases more with
        | nil => exact absurd (head_entriesText hrest) (by decide)
        | cons semicolon more =>
          obtain rfl := head_entriesText hrest
          exact hkey (hmore ▸ List.mem_append_right _ List.mem_cons_self)

theorem EndsItself.of_not_mem {value : List Char} (h : ';' ∉ value) : EndsItself value := by
  rintro before after rfl
  exact absurd (List.mem_append_right _ List.mem_cons_self) h

theorem EndsItself.of_append {before after : List Char} (h : EndsItself (before ++ after)) :
    EndsItself after := by
  rintro first rest rfl
  exact h (before ++ first) rest (List.append_assoc _ _ _).symm

/-- A value and the entries behind it can be told apart. -/
theorem append_entriesText_inj {xs ys : List (String × String)} {value value' : List Char}
    (hxs : ∀ e ∈ xs, LegibleEntry e) (hys : ∀ e ∈ ys, LegibleEntry e) (hvalue : EndsItself value)
    (hvalue' : EndsItself value') (h : value ++ entriesText xs = value' ++ entriesText ys) :
    value = value' ∧ entriesText xs = entriesText ys := by
  rcases List.append_eq_append_iff.1 h with ⟨ending, rfl, hrest⟩ | ⟨ending, rfl, hrest⟩
  · obtain rfl := eq_nil_of_entriesText_eq hxs hvalue'.of_append hrest
    exact ⟨(List.append_nil _).symm, hrest⟩
  · obtain rfl := eq_nil_of_entriesText_eq hys hvalue.of_append hrest
    exact ⟨List.append_nil _, hrest.symm⟩

theorem entriesText_inj {xs ys : List (String × String)} (hxs : ∀ e ∈ xs, LegibleEntry e)
    (hys : ∀ e ∈ ys, LegibleEntry e) (h : entriesText xs = entriesText ys) : xs = ys := by
  induction xs generalizing ys with
  | nil =>
    cases ys with
    | nil => rfl
    | cons y ys =>
      rw [entriesText_cons] at h
      cases h
  | cons x xs ih =>
    cases ys with
    | nil =>
      rw [entriesText_cons] at h
      cases h
    | cons y ys =>
      obtain ⟨hx, hxs⟩ := List.forall_mem_cons.1 hxs
      obtain ⟨hy, hys⟩ := List.forall_mem_cons.1 hys
      rw [entriesText_cons, entriesText_cons] at h
      obtain ⟨hkey, hbehind⟩ := Text.append_cons_inj hx.equals hy.equals (List.cons.inj h).2
      obtain ⟨hvalue, hrest⟩ := append_entriesText_inj hxs hys hx.value hy.value hbehind
      have hentry : x = y := Prod.ext (String.toList_inj.1 hkey) (String.toList_inj.1 hvalue)
      rw [hentry, ih hxs hys hrest]

/-- The first semicolon says nothing of the entries. -/
theorem entriesText_eq_of_tail_eq {xs ys : List (String × String)}
    (h : (entriesText xs).tail = (entriesText ys).tail) :
    entriesText xs = entriesText ys := by
  cases xs with
  | nil =>
    cases ys with
    | nil => rfl
    | cons y ys => simp [entriesText, entryText] at h
  | cons x xs =>
    cases ys with
    | nil => simp [entriesText, entryText] at h
    | cons y ys =>
      rw [entriesText_cons, entriesText_cons] at h ⊢
      exact congrArg _ h

/-! ## Fingerprints -/

theorem intercalate_entryText (e : String × String) (entries : List (String × String)) :
    [';'].intercalate ((e :: entries).map entryText) = entryText e ++ entriesText entries := by
  induction entries generalizing e with
  | nil => simp [entriesText]
  | cons next entries ih =>
    rw [List.map_cons, List.map_cons, List.intercalate_cons_cons, ← List.map_cons, ih]
    simp [entriesText]

/-- A fingerprint is the text of the entries without the first semicolon. -/
theorem toList_fingerprint (m : ConfigMap) :
    m.fingerprint.toList = (entriesText (m.data.getD ∅).toList).tail := by
  have hpieces :
      m.fingerprint.toList = [';'].intercalate ((m.data.getD ∅).toList.map entryText) := by
    have hentry : String.toList ∘ (fun e : String × String => e.1 ++ "=" ++ e.2) = entryText := by
      funext e
      simp [entryText]
    rw [fingerprint, String.toList_intercalate, List.map_map, hentry]
    rfl
  rw [hpieces]
  cases (m.data.getD ∅).toList with
  | nil => rfl
  | cons e entries =>
    rw [intercalate_entryText, entriesText_cons]
    simp [entryText]

/-- Data that can be told from other data by their fingerprint. -/
def Legible (m : ConfigMap) : Prop := ∀ e ∈ (m.data.getD ∅).toList, LegibleEntry e

theorem fingerprint_eq_iff {m m' : ConfigMap} (h : m.Legible) (h' : m'.Legible) :
    m.fingerprint = m'.fingerprint ↔ m.data.getD ∅ = m'.data.getD ∅ := by
  constructor
  · intro hsame
    have htails :
        (entriesText (m.data.getD ∅).toList).tail = (entriesText (m'.data.getD ∅).toList).tail := by
      rw [← toList_fingerprint, ← toList_fingerprint, hsame]
    have hentries : (m.data.getD ∅).toList = (m'.data.getD ∅).toList :=
      entriesText_inj h h' (entriesText_eq_of_tail_eq htails)
    exact Dict.ext_get? fun key => by rw [Dict.get?, Dict.get?, hentries]
  · intro hsame
    rw [fingerprint, fingerprint, hsame]

end ConfigMap

/-! ## Rolling again -/

namespace Rollout

variable {m m' : ConfigMap} {d : Deployment}

theorem updateList_stamp (m : ConfigMap) (d : Deployment) :
    updateList (stamp m d) = updateList d := by
  rw [updateList, updateList, metadata_stamp]

/-- A deployment that has one fingerprint of a map is reached by the map with another one. -/
theorem reaches_stamp_iff (hname : m'.metadata.displayName = m.metadata.displayName) :
    Reaches m' (stamp m d) ↔
      m.fingerprint ≠ m'.fingerprint ∧ m.metadata.displayName ∈ updateList d ∧
      d.containers ≠ [] := by
  rw [Reaches, updateList_stamp, hname]
  by_cases hlisted : m.metadata.displayName ∈ updateList d
  · have hdepends : dependsOn d m.metadata.displayName := dependsOn_iff.2 hlisted
    have hvariable : variableOf m' = variableOf m := by rw [variableOf, hname, variableOf]
    have hstale (c : Container) : Stale (variableOf m') m'.fingerprint
        ((stampContainer (variableOf m) m.fingerprint c).env.getD []) ↔
            m.fingerprint ≠ m'.fingerprint := by
      rw [hvariable]
      exact (stamped_setVariable _ _ _).stale_iff
    have hcontainers : (stamp m d).containers =
        d.containers.map (stampContainer (variableOf m) m.fingerprint) := by
      rw [stamp, if_pos hdepends, Deployment.containers_mapContainers]
      rfl
    rw [hcontainers]
    have hsome : d.containers ≠ [] ↔ ∃ c, c ∈ d.containers := by
      rw [ne_eq, List.eq_nil_iff_forall_not_mem, not_forall_not]
    simp only [List.mem_map, exists_exists_and_eq_and, hstale, exists_and_right, hlisted,
      true_and, hsome]
    exact and_comm
  · simp [hlisted]

/-- A map that has been rolled rolls again where its fingerprint has changed. -/
theorem mem_rolled_roll (hname : m'.metadata.displayName = m.metadata.displayName)
    {ds : Dict String Deployment} {name : String} :
    name ∈ rolled m' (roll m ds) ↔ m.fingerprint ≠ m'.fingerprint ∧
      ∃ d, ds.get? name = some d ∧ m.metadata.displayName ∈ updateList d ∧ d.containers ≠ [] := by
  rw [mem_rolled]
  simp only [get?_roll, Option.map_eq_some_iff]
  constructor
  · rintro ⟨-, ⟨d, hd, rfl⟩, hreaches⟩
    obtain ⟨hdiffer, hdepends⟩ := (reaches_stamp_iff hname).1 hreaches
    exact ⟨hdiffer, d, hd, hdepends⟩
  · rintro ⟨hdiffer, d, hd, hdepends⟩
    exact ⟨_, ⟨d, hd, rfl⟩, (reaches_stamp_iff hname).2 ⟨hdiffer, hdepends⟩⟩

end Rollout

/-! ## Data that cannot be told apart -/

namespace Sample

/-- A configuration map with a value that reads like two entries. -/
def joined : ConfigMap where
  metadata := { name := some "web-config", inNamespace := some "ns1" }
  data := some (.insert ∅ "a" "1;b=2")

/-- The configuration map with the two entries. -/
def parted : ConfigMap := { joined with data := some (.ofList [("a", "1"), ("b", "2")]) }

theorem legible_parted : parted.Legible := by
  have hentries : (parted.data.getD ∅).toList = [("a", "1"), ("b", "2")] := by decide
  rw [ConfigMap.Legible, hentries, List.forall_mem_cons, List.forall_mem_singleton]
  exact ⟨⟨by decide, by decide, .of_not_mem (by decide)⟩,
    ⟨by decide, by decide, .of_not_mem (by decide)⟩⟩

theorem legible_answered : (answered "web-config" "first").Legible :=
  List.forall_mem_singleton.2 ⟨by decide, by decide, .of_not_mem (by decide)⟩

end Sample

/-! ## Changes of content -/

open Rollout

/-- A configuration map that has been rolled rolls the deployments that list it and have a container
once more just where its fingerprint has changed. With legible data it has changed just where the
data have. -/
theorem rolls_where_fingerprints_differ {m m' : ConfigMap}
    (hname : m'.metadata.displayName = m.metadata.displayName) (ds : Dict String Deployment) :
    (∀ name, name ∈ rolled m' (roll m ds) ↔ m.fingerprint ≠ m'.fingerprint ∧
      ∃ d, ds.get? name = some d ∧ m.metadata.displayName ∈ updateList d ∧ d.containers ≠ []) ∧
    (m.Legible → m'.Legible → (m.fingerprint ≠ m'.fingerprint ↔ m.data.getD ∅ ≠ m'.data.getD ∅)) :=
  ⟨fun _ => mem_rolled_roll hname, fun h h' => not_congr (ConfigMap.fingerprint_eq_iff h h')⟩

open Sample in
/-- The data of the map are replaced, and the deployment is rolled. -/
theorem rolls_where_fingerprints_differ_parted :
    "notebook" ∈ rolled parted (roll (answered "web-config" "first") notebooks) := by
  have hname : parted.metadata.displayName = (answered "web-config" "first").metadata.displayName :=
    rfl
  obtain ⟨hrolled, hlegible⟩ := rolls_where_fingerprints_differ hname notebooks
  have hdiffer := (hlegible legible_answered legible_parted).2 (by decide)
  exact (hrolled "notebook").2 ⟨hdiffer, notebook, by decide, by decide, by decide⟩

open Sample in
/-- A value that reads like two entries is taken apart, and no deployment is rolled. -/
theorem changed_data_not_rolled :
    parted.metadata.displayName = joined.metadata.displayName ∧
    parted.data.getD ∅ ≠ joined.data.getD ∅ ∧
      notebooks.get? "notebook" = some notebook ∧
      joined.metadata.displayName ∈ updateList notebook ∧
      notebook.containers ≠ [] ∧ rolled parted (roll joined notebooks) = [] := by
  have hsame : joined.fingerprint = parted.fingerprint := by decide
  refine ⟨rfl, by decide, by decide, by decide, by decide,
    List.eq_nil_iff_forall_not_mem.2 fun name hname => ?_⟩
  exact ((mem_rolled_roll rfl).1 hname).1 hsame

end ServiceExposure
