import Mathlib.Algebra.Order.BigOperators.Group.List
import Mathlib.Algebra.Order.Ring.Nat
import ServiceExposure.Proofs.DeclaredKeys
import ServiceExposure.Proofs.Interruption

/-! # Lines that grow

Propagation settles unless a line rule puts a line feed into a line. Such a rule breaks the line in
two, of which the first part starts as before and is broken again the next time. What carries the
proof is once more the shortest start that there is a rule for: a line with it leads to a line with
it, whatever the rules do (`Edit.hasLine_replaceLines`). -/

namespace ServiceExposure

/-! ## Lines in lines -/

namespace Text

theorem splitChars_append (sep : Char) (cs ds : List Char) :
    splitChars sep (cs ++ sep :: ds) = splitChars sep cs ++ splitChars sep ds := by
  induction cs with
  | nil => simp [splitChars]
  | cons c cs ih =>
    simp only [List.cons_append, splitChars, ih]
    split
    · rfl
    · cases h : splitChars sep cs with
      | nil => exact absurd h (splitChars_ne_nil sep cs)
      | cons piece pieces => rfl

/-- Pieces that are put together come apart each on its own. -/
theorem split_unlines_eq_flatMap {pieces : List String} (h : pieces ≠ []) :
    split '\n' (unlines pieces) = pieces.flatMap (split '\n') := by
  induction pieces with
  | nil => exact absurd rfl h
  | cons l rest ih =>
    cases rest with
    | nil => simp [unlines]
    | cons next rest =>
      have hchars : (unlines (l :: next :: rest)).toList = l.toList ++ '\n' ::
          (unlines (next :: rest)).toList := by
        simp [unlines, String.toList_intercalate]
      rw [split, hchars, splitChars_append, List.map_append, List.flatMap_cons,
        ← ih (List.cons_ne_nil _ _)]
      rfl

/-- How many lines there are between line feeds. -/
def lineCount (s : String) : Nat := (split '\n' s).length

theorem one_le_lineCount (s : String) : 1 ≤ lineCount s := List.length_pos_iff.2 (split_ne_nil s)

theorem one_lt_lineCount {s : String} (h : '\n' ∈ s.toList) : 1 < lineCount s := by
  refine Nat.lt_of_le_of_ne (one_le_lineCount s) fun hone => ?_
  obtain ⟨l, hl⟩ := List.length_eq_one_iff.1 hone.symm
  have hsame : s = l := by
    rw [← unlines_split s, hl]
    simp [unlines]
  exact newline_not_mem_of_mem_split (s := s) (hl ▸ List.mem_singleton.2 rfl) (hsame ▸ h)

theorem exists_splitChars_append {sep : Char} {cs : List Char} (h : sep ∉ cs) (ds : List Char) :
    ∃ piece pieces, splitChars sep (cs ++ ds) = (cs ++ piece) :: pieces := by
  induction cs with
  | nil =>
    obtain ⟨piece, pieces, hpieces⟩ := List.exists_cons_of_ne_nil (splitChars_ne_nil sep ds)
    exact ⟨piece, pieces, hpieces⟩
  | cons c cs ih =>
    obtain ⟨piece, pieces, hpieces⟩ := ih fun hmem => h (List.mem_cons_of_mem c hmem)
    have hne : c ≠ sep := fun heq => h (heq ▸ List.mem_cons_self)
    exact ⟨piece, pieces, by simp only [List.cons_append, splitChars, hne, if_false, hpieces]⟩

/-- The first of the lines that a text comes apart into starts as the text does. -/
theorem exists_startsWith_split {start s : String} (h : startsWith start s)
    (hline : '\n' ∉ start.toList) :
    ∃ l ∈ split '\n' s, startsWith start l := by
  obtain ⟨rest, hrest⟩ := startsWith_iff.1 h
  obtain ⟨piece, pieces, hpieces⟩ := exists_splitChars_append hline rest
  refine ⟨.ofList (start.toList ++ piece), ?_, ?_⟩
  · rw [split, ← hrest, hpieces]
    exact List.mem_cons_self
  · rw [startsWith_iff, String.toList_ofList]
    exact List.prefix_append _ _

end Text

/-! ## A text under one rule -/

namespace Edit

open Text (lineCount)

/-- Whether a line of a text starts like this. -/
def HasLine (start text : String) : Prop := ∃ l ∈ Text.split '\n' text, Text.startsWith start l

theorem split_replaceLines_eq_flatMap (start line text : String) :
    Text.split '\n' (replaceLines start line text) =
    (Text.split '\n' text).flatMap fun l => Text.split '\n' (rewriteLine [(start, line)] l) := by
  rw [replaceLines_eq, Text.split_unlines_eq_flatMap (by simp [Text.split_ne_nil]),
    List.flatMap_map]

section

variable {start text other line : String}

/-- A start that no rule undercuts stays the start of a line. -/
theorem hasLine_replaceLines (hkeep : other.toList <+: line.toList)
    (hshortest : other.toList <+: start.toList → other = start) (h : HasLine start text) :
    HasLine start (replaceLines other line text) := by
  obtain ⟨l, hl, hstart⟩ := h
  have hnewline : '\n' ∉ start.toList := fun hmem =>
    Text.newline_not_mem_of_mem_split hl ((Text.startsWith_iff.1 hstart).subset hmem)
  have hrewritten : Text.startsWith start (rewriteLine [(other, line)] l) :=
    startsWith_step (r := (other, line)) hkeep hshortest hstart
  obtain ⟨piece, hpiece, hstart'⟩ := Text.exists_startsWith_split hrewritten hnewline
  refine ⟨piece, ?_, hstart'⟩
  rw [split_replaceLines_eq_flatMap]
  exact List.mem_flatMap.2 ⟨l, hl, hpiece⟩

theorem lineCount_replaceLines (start line text : String) :
    lineCount (replaceLines start line text) =
    ((Text.split '\n' text).map fun l => lineCount (rewriteLine [(start, line)] l)).sum := by
  rw [lineCount, split_replaceLines_eq_flatMap, List.length_flatMap]
  rfl

theorem lineCount_le_replaceLines (start line text : String) :
    lineCount text ≤ lineCount (replaceLines start line text) := by
  rw [lineCount_replaceLines]
  calc lineCount text
    _ = ((Text.split '\n' text).map fun _ => 1).sum := by simp [lineCount]
    _ ≤ ((Text.split '\n' text).map fun l => lineCount (rewriteLine [(start, line)] l)).sum :=
      List.sum_le_sum fun l _ => Text.one_le_lineCount _

/-- A line that is broken makes one more of them. -/
theorem lineCount_lt_replaceLines (hline : '\n' ∈ line.toList) (h : HasLine start text) :
    lineCount text < lineCount (replaceLines start line text) := by
  obtain ⟨l, hl, hstart⟩ := h
  have hbroken : 1 < lineCount (rewriteLine [(start, line)] l) := by
    have hreplaced : rewriteLine [(start, line)] l = line := by simp [rewriteLine, hstart]
    rw [hreplaced]
    exact Text.one_lt_lineCount hline
  rw [lineCount_replaceLines]
  calc lineCount text
    _ = ((Text.split '\n' text).map fun _ => 1).sum := by simp [lineCount]
    _ < ((Text.split '\n' text).map fun l => lineCount (rewriteLine [(start, line)] l)).sum :=
      List.sum_lt_sum _ _ (fun l _ => Text.one_le_lineCount _) ⟨l, hl, hbroken⟩

end

/-! ## A value under rules -/

/-- An edit that replaces lines and leaves alone how they start, and that is not for less of a line
than `start`. -/
def KeepsStart (start : String) : Edit → Prop
  | lines _ other line =>
    other.toList <+: line.toList ∧ line ≠ "" ∧ (other.toList <+: start.toList → other = start)
  | set _ _ | fill _ _ => False

/-- An edit that breaks the lines with a start in two. -/
def Breaks (start : String) : Edit → Prop
  | lines _ other line => other = start ∧ '\n' ∈ line.toList
  | set _ _ | fill _ _ => False

/-- A text that came from another, with no fewer lines, and with one that starts like this. -/
structure Grown (start before after : String) : Prop where
  ne_empty : after ≠ ""
  hasLine : HasLine start after
  lineCount : lineCount before ≤ lineCount after

variable {start text : String}

/-- Edits that keep a start let a text grow, the more so if one of them breaks lines. -/
theorem exists_grown {edits : List Edit} (h : ∀ e ∈ edits, e.KeepsStart start) (htext : text ≠ "")
    (hline : HasLine start text) :
    ∃ after, onAll edits (some text) = some after ∧ Grown start text after ∧
      ((∃ e ∈ edits, e.Breaks start) → lineCount text < lineCount after) := by
  induction edits generalizing text with
  | nil => exact ⟨text, rfl, ⟨htext, hline, Nat.le_refl _⟩, by simp⟩
  | cons e edits ih =>
    have he := h e List.mem_cons_self
    cases e with
    | set key value | fill key value => exact absurd he id
    | lines key other line =>
      obtain ⟨hkeep, hne, hshortest⟩ := he
      have hon : (lines key other line).on (some text) = some (replaceLines other line text) := by
        simp [on, nonEmpty?_some htext]
      obtain ⟨after, hafter, hgrown, hmore⟩ := ih (fun e he => h e (List.mem_cons_of_mem _ he))
        (replaceLines_ne_empty hne htext) (hasLine_replaceLines hkeep hshortest hline)
      have hfirst := lineCount_le_replaceLines other line text
      refine ⟨after, (congrArg (onAll edits) hon).trans hafter,
        ⟨hgrown.ne_empty, hgrown.hasLine, hfirst.trans hgrown.lineCount⟩, ?_⟩
      rintro ⟨e, he, hbreaks⟩
      rcases List.mem_cons.1 he with rfl | he
      · obtain ⟨rfl, hnewline⟩ := hbreaks
        exact (lineCount_lt_replaceLines hnewline hline).trans_le hgrown.lineCount
      · exact hfirst.trans_lt (hmore ⟨e, he, hbreaks⟩)

end Edit

/-! ## Rounds of propagation -/

namespace Propagation

open Edit

/-- The configuration maps with those that have changed in the places of those that they came
from. -/
def replaced (configMaps : Dict String ConfigMap) (changed : List ConfigMap) :
    Dict String ConfigMap :=
  changed.foldl (fun configMaps m => configMaps.insert (Resource.displayName m) m) configMaps

/-- The configuration maps after rounds of propagation. -/
def afterRounds (settings : Settings) (s : Service) (configMaps : Dict String ConfigMap) :
    Nat → Dict String ConfigMap
  | 0 => configMaps
  | n + 1 =>
    let before := afterRounds settings s configMaps n
    replaced before (changed settings s before)

variable {settings : Settings} {s : Service} {configMaps : Dict String ConfigMap}

theorem displayName_edited (name : String) (m : ConfigMap) :
    Resource.displayName (edited settings s name m) = Resource.displayName m :=
  congrArg Metadata.displayName (m.metadata_edit _)

/-- Where each map lies under its own name, this leaves each as the service wants it. -/
theorem get?_replaced (h : Named configMaps) (name : String) :
    (replaced configMaps (changed settings s configMaps)).get? name =
      (configMaps.get? name).map (edited settings s name) := by
  refine Dict.get?_foldl_insert_edit (fun m hm hname => ?_) fun old hold => ?_
  · -- what has changed under a name came from what lies there
    obtain ⟨other, old, hold, rfl, -⟩ := mem_changed.1 hm
    obtain rfl : other = name := by rw [← hname, displayName_edited, h other old hold]
    exact ⟨old, hold, rfl⟩
  · by_cases hsame : edited settings s name old = old
    · exact .inl hsame
    · exact .inr ⟨_, mem_changed.2 ⟨name, old, hold, rfl, hsame⟩,
        (displayName_edited name old).trans (h name old hold)⟩

theorem named_replaced (h : Named configMaps) :
    Named (replaced configMaps (changed settings s configMaps)) := by
  intro name m hm
  rw [get?_replaced h] at hm
  obtain ⟨old, hold, rfl⟩ := Option.map_eq_some_iff.1 hm
  exact (displayName_edited name old).trans (h name old hold)

theorem named_afterRounds (h : Named configMaps) (n : Nat) :
    Named (afterRounds settings s configMaps n) := by
  induction n with
  | zero => exact h
  | succ n ih => exact named_replaced ih

/-! ## Rules that keep lines whole -/

/-- No line rule of the service puts a line feed into a line. One with a line feed in its own start
is for no line. -/
def KeepsLinesWhole (settings : Settings) (s : Service) : Prop :=
  ∀ url, s.exposedUrl? = some url →
    ∀ key start line, .lines key start line ∈ lineEdits settings s url →
    '\n' ∈ start.toList ∨ '\n' ∉ line.toList

theorem KeepsLinesWhole.onLines (h : KeepsLinesWhole settings s) {url : String}
    (hurl : s.exposedUrl? = some url) :
    ∀ e ∈ lineEdits settings s url, e.OnLines := by
  intro e he
  have hline := h url hurl
  obtain ⟨rule, -, value, -, hne, rfl⟩ := exists_rule_of_mem_lineEdits he
  exact ⟨prefix_rule _ _ _, rule_ne_empty hne _ _, hline _ _ _ he⟩

/-- One round is then all there is to do. -/
theorem changed_replaced (h : KeepsLinesWhole settings s) (hnamed : Named configMaps) :
    changed settings s (replaced configMaps (changed settings s configMaps)) = [] := by
  refine List.eq_nil_iff_forall_not_mem.2 fun m hm => ?_
  obtain ⟨name, old, hold, -, hne⟩ := mem_changed.1 hm
  rw [get?_replaced hnamed] at hold
  obtain ⟨older, -, rfl⟩ := Option.map_eq_some_iff.1 hold
  exact hne (edited_again_of_onLines (fun _ hurl => h.onLines hurl) name older)

/-! ## Rules that break lines -/

/-- Whether a value of a configuration map grows in each round. It has a line that starts like this,
a rule breaks such lines, and the other edits of the value are by rules that are not for less of a
line. -/
structure Grows (settings : Settings) (s : Service) (name key start : String)
    (m : ConfigMap) : Prop where
  line : ∃ text, m.value? key = some text ∧ text ≠ "" ∧ HasLine start text
  keeps : ∀ e ∈ edits settings s name m, e.key = key → e.KeepsStart start
  breaks : ∃ e ∈ edits settings s name m, e.key = key ∧ e.Breaks start

theorem Grows.edited {name key start : String} {m : ConfigMap}
    (h : Grows settings s name key start m) :
    Grows settings s name key start (edited settings s name m) ∧ edited settings s name m ≠ m := by
  obtain ⟨text, hvalue, htext, hline⟩ := h.line
  have hkeeps : ∀ e ∈ (edits settings s name m).filter (·.key = key), e.KeepsStart start := by
    intro e he
    obtain ⟨he, hkey⟩ := List.mem_filter.1 he
    exact h.keeps e he (of_decide_eq_true hkey)
  have hbreaks : ∃ e ∈ (edits settings s name m).filter (·.key = key), e.Breaks start := by
    obtain ⟨e, he, hkey, hbreaks⟩ := h.breaks
    exact ⟨e, List.mem_filter.2 ⟨he, decide_eq_true hkey⟩, hbreaks⟩
  obtain ⟨after, hafter, hgrown, hmore⟩ := exists_grown hkeeps htext hline
  have hvalue' : (Propagation.edited settings s name m).value? key = some after := by
    rw [Propagation.edited, ConfigMap.value?_edit, get?_foldl_apply, ← ConfigMap.value?_eq,
      hvalue, hafter]
  have hedits := edits_edit settings s name m (edits settings s name m)
  refine ⟨⟨⟨after, hvalue', hgrown.ne_empty, hgrown.hasLine⟩, ?_, ?_⟩, fun hsame => ?_⟩
  · rw [Propagation.edited, hedits]
    exact h.keeps
  · rw [Propagation.edited, hedits]
    exact h.breaks
  · rw [hsame, hvalue] at hvalue'
    obtain rfl := Option.some.inj hvalue'
    exact absurd (hmore hbreaks) (Nat.lt_irrefl _)

theorem exists_grows_afterRounds {name key start : String} {m : ConfigMap}
    (hnamed : Named configMaps) (hget : configMaps.get? name = some m)
    (h : Grows settings s name key start m) (n : Nat) :
    ∃ m', (afterRounds settings s configMaps n).get? name = some m' ∧
      Grows settings s name key start m' := by
  induction n with
  | zero => exact ⟨m, hget, h⟩
  | succ n ih =>
    obtain ⟨m', hget', h'⟩ := ih
    refine ⟨_, ?_, h'.edited.1⟩
    rw [afterRounds, get?_replaced (named_afterRounds hnamed n), hget']
    rfl

end Propagation

/-! ## A line that is fed -/

namespace Sample

open Propagation

/-- A service with a line rule that puts a line feed behind the URL. -/
def feeding : Service where
  metadata := {
    name := some "web"
    inNamespace := some "ns1"
    annotations := some (.ofList [
      ( Annotation.exposeUrl, "http://web.ns1.example.com"),
      ( Annotation.configYaml,
        "- key: app.yml\n  expression: url\n  prefix: \"url: \"\n  suffix: \"\\n\"\n")]) }

/-- The service with a rule that ends lines with the URL. -/
def whole : Service := feeding.withAnnotations <|
  feeding.annotations.insert Annotation.configYaml
    "- key: app.yml\n  expression: url\n  prefix: \"url: \"\n"

/-- The configuration map of the service. -/
def appConfig (text : String) : ConfigMap where
  metadata := { name := some "web", inNamespace := some "ns1" }
  data := some (.insert ∅ "app.yml" text)

def feed : Edit := .lines "app.yml" "url: " "url: http://web.ns1.example.com\n"

theorem exposedUrl?_feeding : feeding.exposedUrl? = some "http://web.ns1.example.com" := by decide

theorem lineRules_feeding :
    lineRules feeding =
      [{ key := "app.yml", expression := "url", start := "url: ", ending := "\n" }] := by
  decide +kernel

theorem edits_feeding (text : String) : edits {} feeding "web" (appConfig text) = [feed] := by
  have hlines : lineEdits {} feeding "http://web.ns1.example.com" = [feed] := by
    rw [lineEdits_eq, lineRules_feeding]
    decide
  have hannotation (key : String) : (appConfig text).annotation? key = none := rfl
  have hname : feeding.name = "web" := rfl
  have hip : clusterIP? feeding = none := rfl
  have hdeclared (request value : String) : setDeclared (appConfig text) request value = [] := rfl
  have hrequested : urlEdits {} "web" "http://web.ns1.example.com" (appConfig text) = [] := by
    simp only [urlEdits, setEach, hannotation, List.append_eq_nil_iff, List.flatMap_eq_nil_iff]
    exact ⟨fun form _ => by split <;> rfl, rfl⟩
  simp only [edits, hname, if_true, ownEdits, exposedUrl?_feeding, clusterEdits, clusterIPEdits,
    hip, addressEdits, hlines, hdeclared, hrequested]
  cases Url.hostOf? "http://web.ns1.example.com" <;> rfl

theorem edited_feeding {text next : String} (hne : text ≠ "")
    (hnext : Edit.replaceLines "url: " "url: http://web.ns1.example.com\n" text = next) :
    edited {} feeding "web" (appConfig text) = appConfig next := by
  have happlied : feed.apply (.insert ∅ "app.yml" text) = .insert ∅ "app.yml" next := by
    simp only [feed, Edit.apply, Edit.newValue?, Dict.get?_insert_self, nonEmpty?_some hne,
      Option.map_some, hnext]
    rfl
  rw [edited, edits_feeding, ConfigMap.edit]
  simp only [List.foldl_cons, List.foldl_nil, appConfig, Option.getD_some, happlied]
  rfl

theorem changed_feeding {text next : String} (hne : text ≠ "") (hdiff : next ≠ text)
    (hnext : Edit.replaceLines "url: " "url: http://web.ns1.example.com\n" text = next) :
    changed {} feeding (Resource.byName [appConfig text]) = [appConfig next] := by
  have hlisted : (Resource.byName [appConfig text]).toList = [("web", appConfig text)] := rfl
  have hedited := edited_feeding hne hnext
  have hdata : (appConfig next).data ≠ (appConfig text).data := fun h => hdiff <| by
    have hvalue := congrArg (fun data : Option StringDict => (data.getD ∅).get? "app.yml") h
    simpa [appConfig] using hvalue
  rw [edited] at hedited
  simp [changed, hlisted, hedited, hdata]

theorem grows_feeding : Grows {} feeding "web" "app.yml" "url: " (appConfig "url: ") where
  line := ⟨"url: ", rfl, by decide, "url: ", by decide, by decide⟩
  keeps e he _ := by
    rw [edits_feeding] at he
    obtain rfl := List.mem_singleton.1 he
    exact ⟨by decide, by decide, fun _ => rfl⟩
  breaks := ⟨feed, by rw [edits_feeding]; exact List.mem_singleton.2 rfl, rfl, rfl, by decide⟩

theorem keepsLinesWhole_whole : KeepsLinesWhole {} whole := by
  have hurl : whole.exposedUrl? = some "http://web.ns1.example.com" := by decide
  have hrules : lineRules whole =
      [{ key := "app.yml", expression := "url", start := "url: ", ending := "" }] := by
    decide +kernel
  have hlines : lineEdits {} whole "http://web.ns1.example.com" =
      [.lines "app.yml" "url: " "url: http://web.ns1.example.com"] := by
    rw [lineEdits_eq, hrules]
    decide
  intro url hurl' key start line he
  obtain rfl := Option.some.inj (hurl.symm.trans hurl')
  rw [hlines, List.mem_singleton, Edit.lines.injEq] at he
  obtain ⟨-, -, rfl⟩ := he
  exact .inr (by decide)

end Sample

/-! ## Settling -/

open Propagation

/-- Propagation settles after one round, whatever the configuration maps, if no line rule puts a
line feed into a line. A rule that does, for the shortest start of a line in a value that is edited
by rules only, never lets it settle. -/
theorem propagation_settles_on_whole_lines (settings : Settings) (s : Service)
    (configMaps : List ConfigMap) :
    (KeepsLinesWhole settings s → ∀ n,
      changed settings s (afterRounds settings s (Resource.byName configMaps) (n + 1)) = []) ∧
      ∀ name key start m, (Resource.byName configMaps).get? name = some m →
        Grows settings s name key start m →
        ∀ n, changed settings s (afterRounds settings s (Resource.byName configMaps) n) ≠ [] := by
  have hnamed := Named.byName configMaps
  refine ⟨fun h n => changed_replaced h (named_afterRounds hnamed n),
    fun name key start m hget h n hnil => ?_⟩
  obtain ⟨m', hget', h'⟩ := exists_grows_afterRounds hnamed hget h n
  have hmem : edited settings s name m' ∈
      changed settings s (afterRounds settings s (Resource.byName configMaps) n) :=
    mem_changed.2 ⟨name, m', hget', rfl, h'.edited.2⟩
  rw [hnil] at hmem
  exact List.not_mem_nil hmem

open Sample in
theorem propagation_settles_on_whole_lines_feeding :
    (∀ n,
      changed {} whole (afterRounds {} whole (Resource.byName [appConfig "url: "]) (n + 1)) = []) ∧
      ∀ n,
        changed {} feeding (afterRounds {} feeding (Resource.byName [appConfig "url: "]) n) ≠ [] :=
  ⟨(propagation_settles_on_whole_lines {} whole [appConfig "url: "]).1 keepsLinesWhole_whole,
    (propagation_settles_on_whole_lines {} feeding [appConfig "url: "]).2 "web" "app.yml" "url: "
      (appConfig "url: ") rfl
      grows_feeding⟩

open Sample in
/-- A rule with a line feed at its end adds an empty line, and with the map that this leads to,
another. -/
theorem propagation_adds_lines :
    changed {} feeding (Resource.byName [appConfig "url: "]) =
      [appConfig "url: http://web.ns1.example.com\n"] ∧
      changed {} feeding (afterRounds {} feeding (Resource.byName [appConfig "url: "]) 1) =
        [appConfig "url: http://web.ns1.example.com\n\n"] := by
  have hfirst : changed {} feeding (Resource.byName [appConfig "url: "]) =
      [appConfig "url: http://web.ns1.example.com\n"] :=
    changed_feeding (by decide) (by decide) (by decide)
  have hafter : afterRounds {} feeding (Resource.byName [appConfig "url: "]) 1 =
      Resource.byName [appConfig "url: http://web.ns1.example.com\n"] := by
    simp only [afterRounds, hfirst]
    rfl
  rw [hafter]
  exact ⟨hfirst, changed_feeding (by decide) (by decide) (by decide)⟩

end ServiceExposure
