import Mathlib.Data.List.Forall2
import ServiceExposure.Rollout

/-! # Names of variables

The variable of a configuration map is named by the words of the name of the map, which are its runs
of letters and digits. What stands between two words does not show, nor does what stands in front of
the first one, nor case. So there are configuration maps that take the variable from each other, and
`variable_names_collide` says which. -/

namespace ServiceExposure

/-! ## Letters and digits -/

namespace Text

theorem isUpper_iff_toNat {c : Char} : c.isUpper ↔ 65 ≤ c.toNat ∧ c.toNat ≤ 90 := decide_eq_true_iff

theorem isLower_iff_toNat {c : Char} : c.isLower ↔ 97 ≤ c.toNat ∧ c.toNat ≤ 122 :=
  Bool.and_eq_true_iff.trans (and_congr decide_eq_true_iff decide_eq_true_iff)

theorem toNat_toUpper (c : Char) :
    c.toUpper.toNat = if 97 ≤ c.toNat ∧ c.toNat ≤ 122 then c.toNat - 32 else c.toNat := by
  have hletter : 'a'.val ≤ c.val ∧ c.val ≤ 'z'.val ↔ 97 ≤ c.toNat ∧ c.toNat ≤ 122 := Iff.rfl
  by_cases h : 'a'.val ≤ c.val ∧ c.val ≤ 'z'.val
  · have hupper : c.toUpper = ⟨c.val + ('A'.val - 'a'.val), _⟩ := dif_pos h
    have hstep : ('A'.val - 'a'.val).toNat = 2 ^ 32 - 32 := rfl
    have hrange := hletter.1 h
    rw [if_pos hrange, hupper, Char.toNat_mk, UInt32.toNat_add, hstep, Char.toNat_val]
    omega
  · have hsame : c.toUpper = c := dif_neg h
    rw [if_neg (mt hletter.2 h), hsame]

theorem toNat_toLower (c : Char) :
    c.toLower.toNat = if 65 ≤ c.toNat ∧ c.toNat ≤ 90 then c.toNat + 32 else c.toNat := by
  have hletter : c.val ≥ 'A'.val ∧ c.val ≤ 'Z'.val ↔ 65 ≤ c.toNat ∧ c.toNat ≤ 90 := Iff.rfl
  by_cases h : c.val ≥ 'A'.val ∧ c.val ≤ 'Z'.val
  · have hlower : c.toLower = ⟨c.val + ('a'.val - 'A'.val), _⟩ := dif_pos h
    have hstep : ('a'.val - 'A'.val).toNat = 32 := rfl
    have hrange := hletter.1 h
    rw [if_pos hrange, hlower, Char.toNat_mk, UInt32.toNat_add, hstep, Char.toNat_val]
    omega
  · have hsame : c.toLower = c := dif_neg h
    rw [if_neg (mt hletter.2 h), hsame]

theorem toUpper_toLower (c : Char) : c.toLower.toUpper = c.toUpper := by
  rw [← Char.toNat_inj, toNat_toUpper, toNat_toUpper, toNat_toLower]
  grind

theorem toLower_toUpper (c : Char) : c.toUpper.toLower = c.toLower := by
  rw [← Char.toNat_inj, toNat_toLower, toNat_toLower, toNat_toUpper]
  grind

theorem isUpper_or_isDigit_toUpper (c : Char) :
    (c.toUpper.isUpper || c.toUpper.isDigit) = c.isAlphanum := by
  have halnum : c.isAlphanum = (c.isUpper || c.isLower || c.isDigit) := rfl
  rw [halnum, Bool.eq_iff_iff]
  simp only [Bool.or_eq_true, isUpper_iff_toNat, isLower_iff_toNat, Char.isDigit_iff_toNat,
    toNat_toUpper]
  grind

/-- Two texts differ in case alone just where they are the same in upper case. -/
theorem sameIgnoringCase_ofList_iff {cs ds : List Char} :
    sameIgnoringCase (.ofList cs) (.ofList ds) ↔ cs.map Char.toUpper = ds.map Char.toUpper := by
  have hupper (cs : List Char) : (cs.map Char.toLower).map Char.toUpper = cs.map Char.toUpper := by
    rw [List.map_map]
    exact List.map_congr_left fun c _ => toUpper_toLower c
  have hlower (cs : List Char) : (cs.map Char.toUpper).map Char.toLower = cs.map Char.toLower := by
    rw [List.map_map]
    exact List.map_congr_left fun c _ => toLower_toUpper c
  simp only [sameIgnoringCase, lowerAscii, beq_iff_eq, String.ofList_inj, String.toList_ofList]
  constructor
  · intro h
    rw [← hupper cs, h, hupper]
  · intro h
    rw [← hlower cs, h, hlower]

/-! ## Words -/

/-- What stands between characters that are neither letters nor digits, with nothing where two of
them stand together. -/
def pieces (cs : List Char) : List (List Char) := cs.splitOnP fun c => !c.isAlphanum

/-- The words of a text are its longest runs of letters and digits. -/
def words (s : String) : List String := ((pieces s.toList).filter (!·.isEmpty)).map .ofList

/-- Whether a text ends with a character that is neither a letter nor a digit. -/
def EndsInGap (s : String) : Prop := ∃ c ∈ s.toList.getLast?, ¬c.isAlphanum

instance (s : String) : Decidable (EndsInGap s) :=
  decidable_of_iff (s.toList.getLast?.any (!·.isAlphanum)) (by simp [EndsInGap, Option.any_eq_true])

section

variable {c : Char} {cs piece : List Char} {rest : List (List Char)}

theorem pieces_ne_nil (cs : List Char) : pieces cs ≠ [] := List.splitOnP_ne_nil _ _

theorem pieces_cons_of_isAlphanum (hc : c.isAlphanum) (h : pieces cs = piece :: rest) :
    pieces (c :: cs) = (c :: piece) :: rest := by
  rw [pieces] at h ⊢
  rw [List.splitOnP_cons_eq_if_modifyHead, h]
  simp [hc]

theorem pieces_cons_of_not_isAlphanum (hc : ¬c.isAlphanum) (cs : List Char) :
    pieces (c :: cs) = [] :: pieces cs := by
  rw [pieces, List.splitOnP_cons_eq_if_modifyHead]
  simp [hc, pieces]

theorem isAlphanum_of_mem_pieces (h : piece ∈ pieces cs) (hc : c ∈ piece) : c.isAlphanum := by
  induction cs generalizing piece with
  | nil =>
    obtain rfl := List.mem_singleton.1 h
    exact absurd hc List.not_mem_nil
  | cons d cs ih =>
    obtain ⟨first, rest, hpieces⟩ := List.exists_cons_of_ne_nil (pieces_ne_nil cs)
    rw [hpieces] at ih
    by_cases hd : d.isAlphanum
    · rw [pieces_cons_of_isAlphanum hd hpieces] at h
      rcases List.mem_cons.1 h with rfl | h
      · rcases List.mem_cons.1 hc with rfl | hc
        · exact hd
        · exact ih List.mem_cons_self hc
      · exact ih (List.mem_cons_of_mem _ h) hc
    · rw [pieces_cons_of_not_isAlphanum hd, hpieces] at h
      rcases List.mem_cons.1 h with rfl | h
      · exact absurd hc List.not_mem_nil
      · exact ih h hc

/-- A text that ends with a letter or a digit ends with a word. -/
theorem getLast?_pieces_ne_nil (hc : c.isAlphanum) (cs : List Char) :
    (pieces (cs ++ [c])).getLast? ≠ some [] := by
  induction cs with
  | nil =>
    have hpieces : pieces [c] = [[c]] := pieces_cons_of_isAlphanum hc rfl
    simp [hpieces]
  | cons d cs ih =>
    obtain ⟨first, rest, hpieces⟩ := List.exists_cons_of_ne_nil (pieces_ne_nil (cs ++ [c]))
    rw [hpieces] at ih
    rw [List.cons_append]
    by_cases hd : d.isAlphanum
    · rw [pieces_cons_of_isAlphanum hd hpieces]
      cases rest with
      | nil => simp
      | cons next rest => simpa using ih
    · rw [pieces_cons_of_not_isAlphanum hd, hpieces, List.getLast?_cons_cons]
      exact ih

theorem endsInGap_iff {s : String} (h : s.toList ≠ []) :
    EndsInGap s ↔ (pieces s.toList).getLast? = some [] := by
  obtain ⟨front, c, hs⟩ := (List.eq_nil_or_concat' s.toList).resolve_left h
  rw [EndsInGap, hs, List.getLast?_concat]
  by_cases hc : c.isAlphanum
  · simpa [hc] using getLast?_pieces_ne_nil hc front
  · have hpieces : pieces (front ++ [c]) = pieces front ++ [[]] :=
      List.splitOnP_append_cons front [] (by simp [hc])
    simp [hc, hpieces]

end

end Text

namespace Rollout

open Text (pieces words EndsInGap)

/-! ## Texts of variables -/

/-- The pieces that show in the name of a variable are the words, and with them the last piece even
if there is nothing to it. -/
def shown (ps : List (List Char)) : List (List Char) :=
  ps.dropLast.filter (!·.isEmpty) ++ ps.getLast?.toList

/-- Pieces in upper case with underscores between them. -/
def spelled (ps : List (List Char)) : List Char := ['_'].intercalate (ps.map (·.map Char.toUpper))

section

variable {c : Char} {cs piece : List Char} {ps rest : List (List Char)}

theorem shown_ne_nil (h : ps ≠ []) : shown ps ≠ [] := by
  have hlast : ps.getLast?.toList ≠ [] := by simpa using h
  exact List.append_ne_nil_of_right_ne_nil _ hlast

theorem shown_cons_of_ne_nil (h : piece ≠ []) (rest : List (List Char)) :
    shown (piece :: rest) = piece :: shown rest := by
  cases rest <;> simp [shown, h]

theorem shown_nil_cons (h : rest ≠ []) : shown ([] :: rest) = shown rest := by
  obtain ⟨next, rest, rfl⟩ := List.exists_cons_of_ne_nil h
  simp [shown]

theorem spelled_cons_cons (c : Char) (piece : List Char) (rest : List (List Char)) :
    spelled ((c :: piece) :: rest) = c.toUpper :: spelled (piece :: rest) := by
  cases rest <;> simp [spelled, List.intercalate_cons_cons]

theorem spelled_nil_cons (h : rest ≠ []) : spelled ([] :: rest) = '_' :: spelled rest := by
  have hmap : rest.map (·.map Char.toUpper) ≠ [] := by simpa using h
  rw [spelled, List.map_cons, List.intercalate_cons_of_ne_nil hmap]
  rfl

/-- By induction on the name. Behind a word its piece goes on, so that what shows of the rest comes
behind an underscore. -/
theorem variableChars_eq (h : pieces cs = piece :: rest) :
    variableChars false cs = spelled (shown (piece :: rest)) ∧
    variableChars true cs = spelled (piece :: shown rest) := by
  induction cs generalizing piece rest with
  | nil =>
    obtain ⟨rfl, rfl⟩ := List.cons.inj h
    exact ⟨rfl, rfl⟩
  | cons c cs ih =>
    obtain ⟨next, behind, hpieces⟩ := List.exists_cons_of_ne_nil (Text.pieces_ne_nil cs)
    obtain ⟨hgap, hword⟩ := ih hpieces
    by_cases hc : c.isAlphanum
    · rw [Text.pieces_cons_of_isAlphanum hc hpieces] at h
      obtain ⟨rfl, rfl⟩ := List.cons.inj h
      have hchars (afterWord : Bool) :
          variableChars afterWord (c :: cs) = spelled ((c :: next) :: shown behind) := by
        rw [variableChars, if_pos ((Text.isUpper_or_isDigit_toUpper c).trans hc), hword,
          spelled_cons_cons]
      exact ⟨by rw [hchars, shown_cons_of_ne_nil (List.cons_ne_nil c next)], hchars true⟩
    · rw [Text.pieces_cons_of_not_isAlphanum hc, hpieces] at h
      obtain ⟨rfl, rfl⟩ := List.cons.inj h
      have hother : ¬(c.toUpper.isUpper || c.toUpper.isDigit) := by
        rwa [Text.isUpper_or_isDigit_toUpper]
      constructor
      · rw [variableChars, if_neg hother, if_neg Bool.false_ne_true, hgap,
          shown_nil_cons (List.cons_ne_nil next behind)]
      · rw [variableChars, if_neg hother, if_pos rfl, hgap,
          spelled_nil_cons (shown_ne_nil (List.cons_ne_nil next behind))]

end

/-- What is spelled can be taken apart again, since no underscore is a letter or a digit. -/
theorem spelled_inj {ps qs : List (List Char)} (hps : ps ≠ []) (hqs : qs ≠ [])
    (halnum : ∀ p ∈ ps, ∀ c ∈ p, c.isAlphanum) (halnum' : ∀ q ∈ qs, ∀ c ∈ q, c.isAlphanum) :
    spelled ps = spelled qs ↔ ps.map (·.map Char.toUpper) = qs.map (·.map Char.toUpper) := by
  have hsplit {ps : List (List Char)} (hps : ps ≠ []) (halnum : ∀ p ∈ ps, ∀ c ∈ p, c.isAlphanum) :
      (spelled ps).splitOn '_' = ps.map (·.map Char.toUpper) := by
    refine List.splitOn_intercalate '_' ?_ (by simpa using hps)
    intro upper hupper hmem
    obtain ⟨p, hp, rfl⟩ := List.mem_map.1 hupper
    obtain ⟨c, hc, hunderscore⟩ := List.mem_map.1 hmem
    have hletter := Text.isUpper_or_isDigit_toUpper c
    rw [hunderscore, halnum p hp c hc] at hletter
    exact absurd hletter (by decide)
  constructor
  · intro h
    rw [← hsplit hps halnum, h, hsplit hqs halnum']
  · intro h
    rw [spelled, h, spelled]

/-! ## Names that share a variable -/

theorem isAlphanum_of_mem_shown {cs piece : List Char} (h : piece ∈ shown (pieces cs)) :
    ∀ c ∈ piece, c.isAlphanum := by
  intro c hc
  have hpiece : piece ∈ pieces cs := by
    rcases List.mem_append.1 h with h | h
    · exact List.dropLast_subset _ (List.mem_filter.1 h).1
    · exact List.mem_of_getLast? (Option.mem_toList.1 h)
  exact Text.isAlphanum_of_mem_pieces hpiece hc

theorem variableName_eq_iff (a b : String) : variableName a = variableName b ↔
    (shown (pieces a.toList)).map (·.map Char.toUpper) =
      (shown (pieces b.toList)).map (·.map Char.toUpper) := by
  have hchars (cs : List Char) : variableChars false cs = spelled (shown (pieces cs)) := by
    obtain ⟨piece, rest, h⟩ := List.exists_cons_of_ne_nil (Text.pieces_ne_nil cs)
    rw [(variableChars_eq h).1, h]
  have hshown (cs : List Char) : shown (pieces cs) ≠ [] := shown_ne_nil (Text.pieces_ne_nil cs)
  rw [← spelled_inj (hshown _) (hshown _) (fun _ => isAlphanum_of_mem_shown)
    (fun _ => isAlphanum_of_mem_shown), ← hchars, ← hchars, variableName, variableName]
  constructor
  · intro h
    have hlist := congrArg String.toList h
    simpa [String.toList_append] using hlist
  · intro h
    rw [h]

/-- The words show, and behind them whether there is a gap. -/
theorem map_shown_eq_iff {ps qs : List (List Char)} (hps : ps ≠ []) (hqs : qs ≠ []) :
    (shown ps).map (·.map Char.toUpper) = (shown qs).map (·.map Char.toUpper) ↔
      (ps.filter (!·.isEmpty)).map (·.map Char.toUpper) =
        (qs.filter (!·.isEmpty)).map (·.map Char.toUpper) ∧
      (ps.filter (!·.isEmpty) ≠ [] → (ps.getLast? = some [] ↔ qs.getLast? = some [])) := by
  obtain ⟨front, last, rfl⟩ := (List.eq_nil_or_concat' ps).resolve_left hps
  obtain ⟨front', last', rfl⟩ := (List.eq_nil_or_concat' qs).resolve_left hqs
  simp only [shown, List.dropLast_concat, List.getLast?_concat, Option.toList_some, List.map_append,
    List.map_singleton, List.append_singleton_inj, List.filter_append, Option.some.injEq]
  constructor
  · rintro ⟨hfront, hlast⟩
    have hgap : last = [] ↔ last' = [] := by simpa using congrArg (· = []) hlast
    refine ⟨?_, fun _ => hgap⟩
    by_cases hempty : last = []
    · simp [hfront, hempty, hgap.1 hempty]
    · simp [hfront, hlast, hempty, mt hgap.2 hempty]
  · rintro ⟨hwords, hgap⟩
    -- without words both last pieces are empty
    have hgap : last = [] ↔ last' = [] := by
      by_cases hnone : front.filter (!·.isEmpty) ++ [last].filter (!·.isEmpty) = []
      · have hnone' : front'.filter (!·.isEmpty) ++ [last'].filter (!·.isEmpty) = [] := by
          rw [← List.map_append, ← List.map_append, hnone] at hwords
          exact List.map_eq_nil_iff.1 hwords.symm
        simp_all
      · exact hgap hnone
    by_cases hempty : last = []
    · simpa [hempty, hgap.1 hempty] using hwords
    · simpa [hempty, mt hgap.2 hempty] using hwords

theorem forall₂_words_iff (a b : String) :
    List.Forall₂ (fun v w => Text.sameIgnoringCase v w) (words a) (words b) ↔
      ((pieces a.toList).filter (!·.isEmpty)).map (·.map Char.toUpper) =
        ((pieces b.toList).filter (!·.isEmpty)).map (·.map Char.toUpper) := by
  have hequal (ps qs : List (List Char)) :
      List.Forall₂ (fun p q => p.map Char.toUpper = q.map Char.toUpper) ps qs ↔
      ps.map (·.map Char.toUpper) = qs.map (·.map Char.toUpper) := by
    have hmap :
        List.Forall₂ (· = ·) (ps.map (·.map Char.toUpper)) (qs.map (·.map Char.toUpper)) ↔ _ :=
      (congrFun (congrFun List.forall₂_eq_eq_eq _) _).to_iff
    rw [← hmap, List.forall₂_map_left_iff, List.forall₂_map_right_iff]
  rw [words, words, List.forall₂_map_left_iff, List.forall₂_map_right_iff, ← hequal]
  simp only [Text.sameIgnoringCase_ofList_iff]

theorem mem_variableChars {c : Char} {afterWord : Bool} {cs : List Char}
    (h : c ∈ variableChars afterWord cs) :
    c.isUpper ∨ c.isDigit ∨ c = '_' := by
  induction cs generalizing afterWord with
  | nil => exact absurd h List.not_mem_nil
  | cons d cs ih =>
    rw [variableChars] at h
    split at h
    · next hd =>
      rcases List.mem_cons.1 h with rfl | h
      · exact (Bool.or_eq_true_iff.1 hd).imp_right .inl
      · exact ih h
    · split at h
      · rcases List.mem_cons.1 h with rfl | h
        · exact .inr (.inr rfl)
        · exact ih h
      · exact ih h

end Rollout

open Rollout Text

/-- Names of variables have no characters but capital letters, digits and underscores. Two
configuration maps have the variable in common just where the words of their names are the same but
for case, and, unless they have no words, both names or neither of them end with another
character. -/
theorem variable_names_collide :
    (∀ name, ∀ c ∈ (variableName name).toList, c.isUpper ∨ c.isDigit ∨ c = '_') ∧
    ∀ a b, variableName a = variableName b ↔
      List.Forall₂ (fun v w => sameIgnoringCase v w) (words a) (words b) ∧
      (words a ≠ [] → (EndsInGap a ↔ EndsInGap b)) := by
  refine ⟨fun name c hc => ?_, fun a b => ?_⟩
  · have hfixed : ∀ c ∈ "FABRIC8_".toList ++ "_CONFIGMAP".toList,
        c.isUpper ∨ c.isDigit ∨ c = '_' := by simp
    rw [variableName, String.toList_append, String.toList_append] at hc
    rcases List.mem_append.1 hc with hc | hc
    · rcases List.mem_append.1 hc with hc | hc
      · exact hfixed c (List.mem_append_left _ hc)
      · exact mem_variableChars (String.toList_ofList ▸ hc)
    · exact hfixed c (List.mem_append_right _ hc)
  · rw [variableName_eq_iff, map_shown_eq_iff (pieces_ne_nil _) (pieces_ne_nil _),
      forall₂_words_iff]
    refine and_congr_right fun hsame => ?_
    have hwords : (pieces a.toList).filter (!·.isEmpty) ≠ [] ↔ words a ≠ [] := by simp [words]
    refine imp_congr_ctx hwords fun hne => ?_
    have hpieces := hwords.2 hne
    have hpieces' : (pieces b.toList).filter (!·.isEmpty) ≠ [] :=
      fun hnil => hpieces (by simpa [hnil] using hsame)
    rw [endsInGap_iff fun hnil => hpieces (by rw [hnil]; rfl),
      endsInGap_iff fun hnil => hpieces' (by rw [hnil]; rfl)]

/-- Case, what stands between words and what stands in front of them make no difference, and what
stands behind them does. -/
theorem variable_names_collide_dashed :
    variableName "-web.Config" = variableName "WEB--config" ∧
    variableName "web-config" ≠ variableName "web-config-" ∧
      'W' ∈ (variableName "-web.Config").toList ∧ ('W'.isUpper ∨ 'W'.isDigit ∨ 'W' = '_') := by
  obtain ⟨hchars, hcollide⟩ := variable_names_collide
  have hsame :
      List.Forall₂ (fun v w => sameIgnoringCase v w) (words "-web.Config")
        (words "WEB--config") := by decide
  have hgap : words "web-config" ≠ [] ∧ ¬(EndsInGap "web-config" ↔ EndsInGap "web-config-") := by
    decide
  have hmem : 'W' ∈ (variableName "-web.Config").toList := by decide
  refine ⟨(hcollide _ _).2 ⟨hsame, fun _ => by decide⟩, fun h => ?_, hmem, hchars _ _ hmem⟩
  exact hgap.2 (((hcollide _ _).1 h).2 hgap.1)

end ServiceExposure
