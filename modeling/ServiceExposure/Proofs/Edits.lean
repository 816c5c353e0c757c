import Mathlib.Data.List.MinMax
import ServiceExposure.Propagation
import ServiceExposure.Proofs.Cuts
import ServiceExposure.Proofs.Lookup

/-! # Edits settle

To make the edits of a configuration map once more changes nothing. For values that are set this is
plain; for lines that are replaced by prefix it is not, since one rule may lead into another or away
from it. What carries the proof is the shortest prefix that a line starts with: the line keeps it
whatever the rules do, so that the last rule for it applies in every pass and hides what came before
(`Edit.rewriteLine_again`). -/

namespace ServiceExposure

/-! ## Lines of a text -/

namespace Text

theorem splitChars_eq_splitOn (sep : Char) (cs : List Char) :
    splitChars sep cs = cs.splitOn sep := by
  induction cs with
  | nil => rfl
  | cons c rest ih =>
    rw [splitChars, List.splitOn_cons_eq_if_modifyHead, ih]
    by_cases hc : c = sep
    · simp [hc]
    · simp only [hc, if_false, beq_iff_eq]
      cases h : rest.splitOn sep with
      | nil => exact absurd h (List.splitOn_ne_nil _ _)
      | cons piece pieces => rfl

theorem not_mem_of_mem_splitChars {sep : Char} {cs piece : List Char}
    (h : piece ∈ splitChars sep cs) :
    sep ∉ piece := by
  induction cs generalizing piece with
  | nil => simp_all [splitChars]
  | cons c rest ih =>
    rw [splitChars] at h
    split at h
    · rcases List.mem_cons.1 h with rfl | h
      · simp
      · exact ih h
    · next hc =>
      split at h
      · simpa [List.mem_singleton.1 h] using Ne.symm hc
      · next first pieces hrest =>
        rcases List.mem_cons.1 h with rfl | h
        · have hfirst : sep ∉ first := ih (by simp [hrest])
          simp [Ne.symm hc, hfirst]
        · exact ih (by simp [hrest, h])

def unlines (pieces : List String) : String := .intercalate "\n" pieces

theorem unlines_split (s : String) : unlines (split '\n' s) = s := by
  apply String.toList_inj.1
  rw [unlines, String.toList_intercalate, split, List.map_map]
  have hid : (splitChars '\n' s.toList).map (String.toList ∘ String.ofList) =
      splitChars '\n' s.toList := by simp
  rw [hid, splitChars_eq_splitOn]
  exact List.intercalate_splitOn '\n'

theorem split_unlines {pieces : List String} (hne : pieces ≠ [])
    (h : ∀ l ∈ pieces, '\n' ∉ l.toList) :
    split '\n' (unlines pieces) = pieces := by
  have hpieces : ∀ l ∈ pieces.map String.toList, '\n' ∉ l := by simpa using h
  rw [split, unlines, String.toList_intercalate, splitChars_eq_splitOn]
  rw [show "\n".toList = ['\n'] from rfl,
    List.splitOn_intercalate '\n' hpieces (by simpa using hne)]
  simp

theorem eq_singleton_of_unlines_eq_empty {pieces : List String} (hne : pieces ≠ [])
    (h : unlines pieces = "") :
    pieces = [""] := by
  have hchars := congrArg String.toList h
  rw [unlines, String.toList_intercalate] at hchars
  match pieces with
  | [l] => simpa using hchars
  -- a second piece comes with a line feed
  | l :: next :: rest => simp [List.intercalate_cons_cons] at hchars

theorem newline_not_mem_of_mem_split {s l : String} (h : l ∈ split '\n' s) : '\n' ∉ l.toList := by
  obtain ⟨piece, hpiece, rfl⟩ := List.mem_map.1 h
  simpa using not_mem_of_mem_splitChars hpiece

theorem split_ne_nil (s : String) : split '\n' s ≠ [] := by
  simp [split, splitChars_ne_nil]

theorem startsWith_iff {start s : String} : startsWith start s = true ↔ start.toList <+: s.toList :=
  List.isPrefixOf_iff_prefix

end Text

/-! ## One line under rules -/

namespace Edit

/-- A line after rules: each replaces it in turn if it starts as the rule says. -/
def rewriteLine (rules : List (String × String)) (l : String) : String :=
  rules.foldl (fun l r => if Text.startsWith r.1 l then r.2 else l) l

/-- What a line is replaced by starts as it did. -/
def KeepStarts (rules : List (String × String)) : Prop := ∀ r ∈ rules, r.1.toList <+: r.2.toList

/-- No rule is for lines that start with less than `start`. -/
def Shortest (start : String) (rules : List (String × String)) : Prop :=
  ∀ r ∈ rules, r.1.toList <+: start.toList → r.1 = start

variable {rules : List (String × String)} {start l l' : String}

theorem startsWith_step {r : String × String} (hkeep : r.1.toList <+: r.2.toList)
    (hshortest : r.1.toList <+: start.toList → r.1 = start) (h : Text.startsWith start l) :
    Text.startsWith start (if Text.startsWith r.1 l then r.2 else l) := by
  split
  · next hr =>
    rw [Text.startsWith_iff] at h hr ⊢
    -- both are starts of one line, so one of them is a start of the other
    rcases List.prefix_or_prefix_of_prefix hr h with hle | hle
    · exact hshortest hle ▸ hkeep
    · exact hle.trans hkeep
  · exact h

/-- A line keeps the shortest start that any rule is for. -/
theorem startsWith_rewriteLine (hkeep : KeepStarts rules) (hshortest : Shortest start rules)
    (h : Text.startsWith start l) : Text.startsWith start (rewriteLine rules l) := by
  induction rules generalizing l with
  | nil => exact h
  | cons r rules ih =>
    exact ih (fun r hr => hkeep r (by simp [hr])) (fun r hr => hshortest r (by simp [hr]))
      (startsWith_step (hkeep r (by simp)) (hshortest r (by simp)) h)

/-- The last rule for the shortest start makes lines that have it equal. -/
theorem rewriteLine_eq (hkeep : KeepStarts rules) (hshortest : Shortest start rules)
    (hrule : ∃ r ∈ rules, r.1 = start) (h : Text.startsWith start l)
    (h' : Text.startsWith start l') :
    rewriteLine rules l = rewriteLine rules l' := by
  induction rules generalizing l l' with
  | nil => simp at hrule
  | cons r rules ih =>
    by_cases hlater : ∃ r ∈ rules, r.1 = start
    -- a later rule decides: this one only has to leave the start in place
    · have hr := startsWith_step (l := l) (hkeep r (by simp)) (hshortest r (by simp)) h
      have hr' := startsWith_step (l := l') (hkeep r (by simp)) (hshortest r (by simp)) h'
      exact ih (fun r hr => hkeep r (by simp [hr]))
        (fun r hr => hshortest r (by simp [hr])) hlater hr hr'
    -- the last rule for the start: it applies to both lines, and no later one can tell them apart
    · obtain ⟨d, hd, rfl⟩ := hrule
      obtain rfl : d = r := (List.mem_cons.1 hd).resolve_right fun hd => hlater ⟨d, hd, rfl⟩
      simp [rewriteLine, h, h']

theorem rewriteLine_of_no_rule (h : ∀ r ∈ rules, Text.startsWith r.1 l = false) :
    rewriteLine rules l = l := by
  induction rules with
  | nil => rfl
  | cons r rules ih =>
    rw [rewriteLine, List.foldl_cons, if_neg (by simp [h r (by simp)])]
    exact ih fun r hr => h r (by simp [hr])

theorem rewriteLine_again (hkeep : KeepStarts rules) (l : String) :
    rewriteLine rules (rewriteLine rules l) = rewriteLine rules l := by
  -- of the rules that apply to the line, the one with the shortest start is for a start that the
  -- line never loses
  cases hfirst : (rules.filter fun r => Text.startsWith r.1 l).argmin fun r => r.1.length with
  | none =>
    have hnone := List.filter_eq_nil_iff.1 (List.argmin_eq_none.1 hfirst)
    have hsame : rewriteLine rules l = l := rewriteLine_of_no_rule fun r hr => by
      simpa using hnone r hr
    rw [hsame, hsame]
  | some first =>
    obtain ⟨hmem, hstart⟩ := List.mem_filter.1 (List.argmin_mem hfirst)
    have hshortest : Shortest first.1 rules := by
      intro r hr hle
      have hr' : r ∈ rules.filter fun r => Text.startsWith r.1 l :=
        List.mem_filter.2 ⟨hr, Text.startsWith_iff.2 (hle.trans (Text.startsWith_iff.1 hstart))⟩
      have hlength : first.1.length ≤ r.1.length :=
        List.le_of_mem_argmin (f := fun r : String × String => r.1.length) hr' hfirst
      exact String.toList_inj.1
        (hle.eq_of_length_le (by simpa only [String.length_toList] using hlength))
    exact rewriteLine_eq hkeep hshortest ⟨first, hmem, rfl⟩
      (startsWith_rewriteLine hkeep hshortest hstart) hstart

/-! ## A text under rules -/

/-- An edit of lines that leaves lines lines: it keeps how they start, and neither empties nor
breaks one. -/
structure KeepsLines (start line : String) : Prop where
  keeps : start.toList <+: line.toList
  ne_empty : line ≠ ""
  /-- A start with a line feed in it is the start of no line. -/
  one_line : '\n' ∈ start.toList ∨ '\n' ∉ line.toList

theorem replaceLines_eq (start line text : String) :
    replaceLines start line text =
      Text.unlines ((Text.split '\n' text).map (rewriteLine [(start, line)])) := rfl

theorem split_replaceLines {start line : String} (h : KeepsLines start line) (text : String) :
    Text.split '\n' (replaceLines start line text) =
      (Text.split '\n' text).map (rewriteLine [(start, line)]) := by
  rw [replaceLines_eq, Text.split_unlines (by simp [Text.split_ne_nil])]
  intro l hl
  obtain ⟨old, hold, rfl⟩ := List.mem_map.1 hl
  have hline := Text.newline_not_mem_of_mem_split hold
  simp only [rewriteLine, List.foldl_cons, List.foldl_nil]
  split
  · next hstart =>
    -- a start with a line feed in it would put one into the line
    refine h.one_line.resolve_left fun hnewline => hline ?_
    exact (Text.startsWith_iff.1 hstart).subset hnewline
  · exact hline

/-- A text after rules. -/
def rewriteText (rules : List (String × String)) (text : String) : String :=
  rules.foldl (fun text r => replaceLines r.1 r.2 text) text

variable {rules : List (String × String)}

theorem split_rewriteText (h : ∀ r ∈ rules, KeepsLines r.1 r.2) (text : String) :
    Text.split '\n' (rewriteText rules text) = (Text.split '\n' text).map (rewriteLine rules) := by
  induction rules generalizing text with
  | nil => exact (List.map_id _).symm
  | cons r rules ih =>
    rw [rewriteText, List.foldl_cons, ← rewriteText, ih (fun r hr => h r (by simp [hr])),
      split_replaceLines (h r (by simp)), List.map_map]
    rfl

theorem rewriteText_again (h : ∀ r ∈ rules, KeepsLines r.1 r.2) (text : String) :
    rewriteText rules (rewriteText rules text) = rewriteText rules text := by
  rw [← Text.unlines_split (rewriteText rules (rewriteText rules text)), split_rewriteText h,
    split_rewriteText h, List.map_map, ← Text.unlines_split (rewriteText rules text),
    split_rewriteText h]
  refine congrArg Text.unlines (List.map_congr_left fun l _ => ?_)
  exact rewriteLine_again (fun r hr => (h r hr).keeps) l

theorem replaceLines_ne_empty {start line text : String} (h : line ≠ "") (htext : text ≠ "") :
    replaceLines start line text ≠ "" := by
  intro hempty
  have hpieces := Text.eq_singleton_of_unlines_eq_empty (by simp [Text.split_ne_nil]) hempty
  obtain ⟨l, hl, hnil⟩ := List.map_eq_singleton_iff.1 hpieces
  have hline : l = "" := by
    split at hnil
    · exact absurd hnil h
    · exact hnil
  rw [← Text.unlines_split text, hl, hline] at htext
  exact htext rfl

/-! ## The value of one key -/

/-- What becomes of the value of the key that an edit is for. -/
def on (e : Edit) (value : Option String) : Option String :=
  match e with
  | set _ new => some new
  | fill _ new => if (nonEmpty? value).isSome then value else some new
  | lines _ start line => (nonEmpty? value).map (replaceLines start line) <|> value

theorem get?_apply (data : StringDict) (e : Edit) (key : String) :
    (apply data e).get? key = if e.key = key then e.on (data.get? key) else data.get? key := by
  by_cases hk : e.key = key
  · subst hk
    cases e with
    | set key new => simp [apply, newValue?, on, Edit.key]
    | fill key new =>
      cases h : nonEmpty? (data.get? key) <;> simp [apply, newValue?, on, Edit.key, h]
    | lines key start line =>
      cases h : nonEmpty? (data.get? key) <;> simp [apply, newValue?, on, Edit.key, h]
  · simp only [apply, hk, if_false]
    split
    · exact Dict.get?_insert_of_ne _ hk _
    · rfl

/-- What becomes of the value of a key under edits for it. -/
def onAll (edits : List Edit) (value : Option String) : Option String :=
  edits.foldl (fun value e => e.on value) value

theorem get?_foldl_apply (edits : List Edit) (data : StringDict) (key : String) :
    (edits.foldl apply data).get? key = onAll (edits.filter (·.key = key)) (data.get? key) := by
  induction edits generalizing data with
  | nil => rfl
  | cons e edits ih =>
    rw [List.foldl_cons, ih, get?_apply]
    by_cases hk : e.key = key <;> simp [onAll, hk]

theorem onAll_append (edits more : List Edit) (value : Option String) :
    onAll (edits ++ more) value = onAll more (onAll edits value) := List.foldl_append

/-- Where a key is set to one value only, that value is what there is in the end. -/
theorem onAll_of_forall_set {edits : List Edit} {key value : String}
    (h : ∀ e ∈ edits, e = .set key value) (hne : edits ≠ []) (old : Option String) :
    onAll edits old = some value := by
  induction edits generalizing old with
  | nil => exact absurd rfl hne
  | cons e edits ih =>
    obtain rfl := h e List.mem_cons_self
    cases edits with
    | nil => rfl
    | cons next rest =>
      exact ih (fun e he => h e (List.mem_cons_of_mem _ he)) (List.cons_ne_nil _ _) _

/-! ## Kinds of edits -/

def Sets : Edit → Prop
  | set _ _ => True
  | fill _ _ | lines _ _ _ => False

/-- Gives the key a value of its own, which for a key that is only filled is not empty. -/
def SetsOrFills : Edit → Prop
  | set _ _ => True
  | fill _ new => new ≠ ""
  | lines _ _ _ => False

def OnLines : Edit → Prop
  | lines _ start line => KeepsLines start line
  | set _ _ | fill _ _ => False

theorem Sets.setsOrFills {e : Edit} (h : e.Sets) : e.SetsOrFills := by
  cases e <;> simp_all [Sets, SetsOrFills]

variable {edits : List Edit}

/-- Where a key is set, it does not matter what was there. -/
theorem onAll_sets (h : ∀ e ∈ edits, e.Sets) :
    edits = [] ∨ ∀ v w, onAll edits v = onAll edits w := by
  cases edits with
  | nil => exact .inl rfl
  | cons e edits =>
    have he := h e (by simp)
    cases e <;> simp [Sets] at he
    exact .inr fun v w => rfl

/-- Where a key is set or filled, either it does not matter what was there, or what was there stays
unless it was empty. -/
theorem onAll_setsOrFills (h : ∀ e ∈ edits, e.SetsOrFills) (v : Option String) :
    (∀ w, onAll edits w = onAll edits v) ∨
      (∀ text ≠ "", onAll edits (some text) = some text) ∧
        (onAll edits v = v ∨ ∃ text ≠ "", onAll edits v = some text) := by
  induction edits generalizing v with
  | nil => exact .inr ⟨fun _ _ => rfl, .inl rfl⟩
  | cons e edits ih =>
    have he := h e (by simp)
    have hrest := ih (fun e he => h e (by simp [he])) (e.on v)
    cases e with
    | set key new => exact .inl fun w => rfl
    | lines key start line => simp [SetsOrFills] at he
    | fill key new =>
      -- what the later edits make of any value they make of what this one leaves
      rcases hrest with hconst | ⟨hkeep, hown⟩
      · exact .inl fun w => hconst ((fill key new).on w)
      · refine .inr ⟨fun text htext => ?_, ?_⟩
        · have hon : (fill key new).on (some text) = some text := by simp [on, nonEmpty?_some htext]
          exact (congrArg (onAll edits) hon).trans (hkeep text htext)
        · change onAll edits ((fill key new).on v) = v ∨ ∃ text ≠ "",
            onAll edits ((fill key new).on v) = some text
          cases hempty : nonEmpty? v with
          | some text =>
            have hon : (fill key new).on v = v := by simp [on, hempty]
            rwa [hon] at hown ⊢
          -- an empty value is filled, and then it stays
          | none =>
            have hon : (fill key new).on v = some new := by simp [on, hempty]
            exact .inr ⟨new, he, by rw [hon, hkeep new he]⟩

/-- Lines are replaced where there are any. -/
theorem onAll_onLines (h : ∀ e ∈ edits, e.OnLines) : ∃ rules : List (String × String),
    (∀ r ∈ rules, KeepsLines r.1 r.2) ∧
    (∀ text ≠ "", onAll edits (some text) = some (rewriteText rules text)) ∧
      ∀ v, nonEmpty? v = none → onAll edits v = v := by
  induction edits with
  | nil => exact ⟨[], by simp, fun _ _ => rfl, fun _ _ => rfl⟩
  | cons e edits ih =>
    have he := h e (by simp)
    obtain ⟨rules, hrules, htext, hempty⟩ := ih fun e he => h e (by simp [he])
    cases e with
    | set key new => simp [OnLines] at he
    | fill key new => simp [OnLines] at he
    | lines key start line =>
      refine ⟨(start, line) :: rules, by simpa [hrules] using ⟨he, by simpa using hrules⟩,
        fun text hne => ?_, fun v hv => ?_⟩
      · have hon : (lines key start line).on (some text) = some (replaceLines start line text) := by
          simp [on, nonEmpty?_some hne]
        exact (congrArg (onAll edits) hon).trans (htext _ (replaceLines_ne_empty he.ne_empty hne))
      · have hon : (lines key start line).on v = v := by simp [on, hv]
        exact (congrArg (onAll edits) hon).trans (hempty v hv)

theorem rewriteText_ne_empty {rules : List (String × String)} (h : ∀ r ∈ rules, KeepsLines r.1 r.2)
    {text : String} (htext : text ≠ "") : rewriteText rules text ≠ "" := by
  induction rules generalizing text with
  | nil => exact htext
  | cons r rules ih =>
    exact ih (fun r hr => h r (by simp [hr])) (replaceLines_ne_empty (h r (by simp)).ne_empty htext)

/-! ## Edits in their order -/

/-- Edits in an order in which they settle: lines are replaced after all keys that are filled
are. -/
structure InOrder (edits : List Edit) : Prop where
  split : ∃ first lines last, edits = first ++ lines ++ last ∧ (∀ e ∈ first, e.SetsOrFills) ∧
    (∀ e ∈ lines, e.OnLines) ∧ ∀ e ∈ last, e.Sets

theorem InOrder.filter (h : InOrder edits) (key : String) :
    InOrder (edits.filter (·.key = key)) := by
  obtain ⟨first, lines, last, rfl, hfirst, hlines, hlast⟩ := h.split
  refine ⟨_, _, _, by rw [List.filter_append, List.filter_append], ?_, ?_, ?_⟩
  · exact fun e he => hfirst e (List.mem_filter.1 he).1
  · exact fun e he => hlines e (List.mem_filter.1 he).1
  · exact fun e he => hlast e (List.mem_filter.1 he).1

theorem InOrder.onAll_again (h : InOrder edits) (v : Option String) :
    onAll edits (onAll edits v) = onAll edits v := by
  obtain ⟨first, lines, last, rfl, hfirst, hlines, hlast⟩ := h.split
  simp only [onAll_append]
  -- if anything is set after the lines, the second pass ends as the first whatever it starts from
  rcases onAll_sets hlast with rfl | hconst
  · change onAll lines (onAll first (onAll lines (onAll first v))) = onAll lines (onAll first v)
    -- the same for what is set before them; else the first edits keep what the lines have left
    rcases onAll_setsOrFills hfirst v with hconst | ⟨hkeep, hown⟩
    · rw [hconst (onAll lines (onAll first v))]
    · obtain ⟨rules, hrules, htext, hempty⟩ := onAll_onLines hlines
      have hnonEmpty {text : String} (hne : text ≠ "") :
          onAll lines (onAll first (onAll lines (some text))) = onAll lines (some text) := by
        have hne' := rewriteText_ne_empty hrules hne
        rw [htext text hne, hkeep _ hne', htext _ hne', rewriteText_again hrules]
      rcases hown with hsame | ⟨text, hne, hnew⟩
      · rw [hsame]
        cases hv : nonEmpty? v with
        | none => rw [hempty v hv, hsame, hempty v hv]
        | some text =>
          obtain ⟨rfl, hne⟩ := nonEmpty?_eq_some_iff.1 hv
          exact hnonEmpty hne
      · rw [hnew]
        exact hnonEmpty hne
  · exact hconst _ _

/-- To make edits once more changes nothing. -/
theorem InOrder.foldl_apply_again (h : InOrder edits) (data : StringDict) :
    edits.foldl apply (edits.foldl apply data) = edits.foldl apply data :=
  Dict.ext_get? fun key => by
    rw [get?_foldl_apply, get?_foldl_apply]
    exact (h.filter key).onAll_again _

end Edit

end ServiceExposure
