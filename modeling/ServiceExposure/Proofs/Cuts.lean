import Mathlib.Data.List.Infix
import ServiceExposure.Text.Cut

/-! # Cuts

Text is cut at the first occurrence of a separator, at the last one or at all of them. Each cut is
determined by where the separator stands: nothing is lost, and what is on the one side has no
separator in it. -/

namespace ServiceExposure.Text

/-! ## The first separator -/

section

variable {sep before after cs : List Char}

theorem cutChars?_eq_none_iff (hsep : sep ≠ []) : cutChars? sep cs = none ↔ ¬sep <:+: cs := by
  induction cs with
  | nil => simp [cutChars?, hsep]
  | cons c rest ih =>
    rw [cutChars?, List.infix_cons_iff]
    split
    · next h => simp [List.isPrefixOf_iff_prefix.1 h]
    · next h => simp [mt List.isPrefixOf_iff_prefix.2 h, ih]

/-- A separator that starts earlier than another does not reach beyond it. -/
theorem prefix_cons_append_iff {c : Char} :
    sep <+: c :: (before ++ (sep ++ after)) ↔ sep <+: c :: (before ++ sep.dropLast) := by
  have hlonger : c :: (before ++ sep.dropLast) <+: c :: (before ++ (sep ++ after)) :=
    (List.prefix_cons_inj c).2 ((List.prefix_append_right_inj before).2
      ((List.dropLast_prefix sep).trans (List.prefix_append sep after)))
  refine ⟨fun h => List.prefix_of_prefix_length_le h hlonger ?_, fun h => h.trans hlonger⟩
  simp only [List.length_cons, List.length_append, List.length_dropLast]
  omega

/-- Text is cut at a separator if none starts earlier, be it in what stands before or across its
end. -/
theorem cutChars?_append_iff (hsep : sep ≠ []) :
    cutChars? sep (before ++ (sep ++ after)) = some (before, after) ↔
    ¬sep <:+: before ++ sep.dropLast := by
  induction before with
  | nil =>
    obtain ⟨a, rest, rfl⟩ := List.exists_cons_of_ne_nil hsep
    have hlonger : ¬(a :: rest) <:+: (a :: rest).dropLast := fun h => by
      have hlength := h.length_le
      simp only [List.length_cons, List.length_dropLast] at hlength
      omega
    have hcut : cutChars? (a :: rest) (a :: rest ++ after) = some ([], after) := by
      have hprefix : (a :: rest).isPrefixOf (a :: rest ++ after) :=
        List.isPrefixOf_iff_prefix.2 (List.prefix_append _ _)
      rw [List.cons_append, cutChars?, ← List.cons_append, if_pos hprefix, List.drop_left]
    simpa only [List.nil_append, hcut, true_iff] using hlonger
  | cons c before ih =>
    have hprefix : sep <+: c :: (before ++ (sep ++ after)) ↔
        sep <+: c :: (before ++ sep.dropLast) :=
      prefix_cons_append_iff
    rw [List.cons_append, cutChars?, List.cons_append, List.infix_cons_iff, not_or, ← hprefix]
    split
    · next h => simp [List.isPrefixOf_iff_prefix.1 h]
    · next h => simp [mt List.isPrefixOf_iff_prefix.2 h, ← ih]

theorem cutChars?_eq_some_iff (hsep : sep ≠ []) :
    cutChars? sep cs = some (before, after) ↔
    cs = before ++ (sep ++ after) ∧ ¬sep <:+: before ++ sep.dropLast := by
  constructor
  · intro h
    have hcs : cs = before ++ (sep ++ after) := by rw [eq_append_of_cutChars? h, List.append_assoc]
    subst hcs
    exact ⟨rfl, (cutChars?_append_iff hsep).1 h⟩
  · rintro ⟨rfl, h⟩
    exact (cutChars?_append_iff hsep).2 h

theorem cutChars?_singleton_eq_none_iff {c : Char} : cutChars? [c] cs = none ↔ c ∉ cs := by
  rw [cutChars?_eq_none_iff (List.cons_ne_nil c []), List.singleton_infix_iff]

end

/-- Text is cut where the separator stands, if its first character does not come before. -/
theorem cutChars?_append {a : Char} {sep before after : List Char} (h : a ∉ before) :
    cutChars? (a :: sep) (before ++ (a :: sep) ++ after) = some (before, after) := by
  induction before with
  | nil => simp [cutChars?]
  | cons c before ih =>
    have hne : ¬a = c := fun heq => h (heq ▸ List.mem_cons_self)
    have hrest : a ∉ before := fun hmem => h (List.mem_cons_of_mem _ hmem)
    simp only [List.cons_append, cutChars?, List.isPrefixOf, beq_false_of_ne hne, Bool.false_and,
      Bool.false_eq_true, if_false]
    rw [ih hrest]
    rfl

/-! ## The last separator -/

section

variable {sep : Char} {cs before after : List Char}

theorem cutLastChars?_eq_none_iff : cutLastChars? sep cs = none ↔ sep ∉ cs := by
  induction cs with
  | nil => simp [cutLastChars?]
  | cons c rest ih =>
    rw [cutLastChars?, List.mem_cons, not_or, ← ih]
    cases cutLastChars? sep rest with
    | some cut => simp
    | none => simp [eq_comm]

theorem cutLastChars?_append (h : sep ∉ after) :
    cutLastChars? sep (before ++ sep :: after) = some (before, after) := by
  induction before with
  | nil => simp only [List.nil_append, cutLastChars?, cutLastChars?_eq_none_iff.2 h, if_true]
  | cons c before ih => simp only [List.cons_append, cutLastChars?, ih]

theorem eq_append_of_cutLastChars? (h : cutLastChars? sep cs = some (before, after)) :
    cs = before ++ sep :: after ∧ sep ∉ after := by
  induction cs generalizing before with
  | nil => cases h
  | cons c rest ih =>
    rw [cutLastChars?] at h
    split at h
    · next left right hrest =>
      cases h
      obtain ⟨rfl, hright⟩ := ih hrest
      exact ⟨rfl, hright⟩
    · next hnone =>
      split at h
      · next hsep =>
        cases h
        exact ⟨by rw [hsep, List.nil_append], cutLastChars?_eq_none_iff.1 hnone⟩
      · cases h

end

/-! ## All separators -/

theorem exists_mem_splitChars {sep c : Char} (hsep : c ≠ sep) {cs : List Char} (h : c ∈ cs) :
    ∃ piece ∈ splitChars sep cs, c ∈ piece := by
  induction cs with
  | nil => exact absurd h List.not_mem_nil
  | cons d rest ih =>
    rw [splitChars]
    split
    · next hd =>
      have hrest : c ∈ rest := (List.mem_cons.1 h).resolve_left fun heq => hsep (heq.trans hd)
      obtain ⟨piece, hpiece, hc⟩ := ih hrest
      exact ⟨piece, List.mem_cons_of_mem _ hpiece, hc⟩
    · split
      · next hnil => exact absurd hnil (splitChars_ne_nil sep rest)
      · next first pieces hpieces =>
        rcases List.mem_cons.1 h with rfl | hrest
        · exact ⟨_, List.mem_cons_self, List.mem_cons_self⟩
        · obtain ⟨piece, hpiece, hc⟩ := ih hrest
          rw [hpieces] at hpiece
          rcases List.mem_cons.1 hpiece with rfl | hpiece
          · exact ⟨_, List.mem_cons_self, List.mem_cons_of_mem _ hc⟩
          · exact ⟨piece, List.mem_cons_of_mem _ hpiece, hc⟩

theorem length_splitChars (sep : Char) (cs : List Char) :
    (splitChars sep cs).length = cs.count sep + 1 := by
  induction cs with
  | nil => rfl
  | cons c rest ih =>
    rw [splitChars]
    split
    · next hsep => rw [List.length_cons, ih, hsep, List.count_cons_self]
    · next hsep =>
      rw [List.count_cons_of_ne hsep, ← ih]
      split
      · next hnil => exact absurd hnil (splitChars_ne_nil sep rest)
      · next first pieces hpieces => rw [hpieces, List.length_cons, List.length_cons]

/-! ## The end -/

section

variable (c : Char) (s : String)

theorem withoutLast_append {t : String} (h : t ≠ "") :
    withoutLast c (s ++ t) = s ++ withoutLast c t := by
  have hne : t.toList ≠ [] := by simpa using h
  have hlast : (s.toList ++ t.toList).getLast? = t.toList.getLast? := by
    rw [List.getLast?_append, Option.or_of_isSome (List.getLast?_isSome.2 hne)]
  rw [withoutLast, withoutLast, String.toList_append, hlast]
  split
  · rw [List.dropLast_append_of_ne_nil hne, String.ofList_append, String.ofList_toList]
  · rfl

theorem withoutLast_append_last : withoutLast c (s ++ .ofList [c]) = s := by
  simp [withoutLast]

end

end ServiceExposure.Text

namespace ServiceExposure

/-! ## Texts that are not empty -/

theorem nonEmpty?_eq_some_iff {value : Option String} {text : String} :
    nonEmpty? value = some text ↔ value = some text ∧ text ≠ "" := by
  simp [nonEmpty?, Option.filter_eq_some_iff]

theorem nonEmpty?_some {text : String} (h : text ≠ "") : nonEmpty? (some text) = some text :=
  nonEmpty?_eq_some_iff.2 ⟨rfl, h⟩

end ServiceExposure
