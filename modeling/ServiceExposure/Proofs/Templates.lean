import Mathlib.Data.List.Chain
import ServiceExposure.Proofs.Cuts
import ServiceExposure.Template

/-! # Templates, read and printed

A template is read from left to right: a placeholder starts at the first two opening braces and ends
at the first two closing braces behind them. How a text is read is described once, by
`Template.Reads`; parsing finds exactly this reading. What is read has a normal form, in which no
literal touches the braces of the next placeholder, and this is why the printed template is read as
the same template again. -/

namespace ServiceExposure

/-! ## Blanks -/

namespace Text

/-- Whether a text has no characters but blanks. -/
def AllBlank (s : String) : Prop := ∀ c ∈ s.toList, isBlank c

instance (s : String) : Decidable (AllBlank s) := List.decidableBAll _ s.toList

theorem dropWhile_blanks {left cs : List Char} (hleft : ∀ c ∈ left, isBlank c)
    (hcs : ∀ c ∈ cs.head?, ¬isBlank c) :
    (left ++ cs).dropWhile isBlank = cs := by
  rw [List.dropWhile_append_of_pos hleft]
  cases cs with
  | nil => rfl
  | cons c cs => exact List.dropWhile_cons_of_neg (hcs c rfl)

theorem trimChars_between {left cs right : List Char} (hleft : ∀ c ∈ left, isBlank c)
    (hright : ∀ c ∈ right, isBlank c) (hne : cs ≠ []) (hfirst : ∀ c ∈ cs.head?, ¬isBlank c)
    (hlast : ∀ c ∈ cs.getLast?, ¬isBlank c) :
    trimChars (left ++ cs ++ right) = cs := by
  have hstart : (left ++ (cs ++ right)).dropWhile isBlank = cs ++ right := by
    refine dropWhile_blanks hleft fun c hc => hfirst c ?_
    obtain ⟨a, rest, rfl⟩ := List.exists_cons_of_ne_nil hne
    exact hc
  have hend : (right.reverse ++ cs.reverse).dropWhile isBlank = cs.reverse := by
    refine dropWhile_blanks (fun c hc => hright c (List.mem_reverse.1 hc)) ?_
    rwa [List.head?_reverse]
  rw [trimChars, List.append_assoc, hstart, List.reverse_append, hend, List.reverse_reverse]

/-- What is trimmed stands between blanks. -/
theorem exists_blanks_trimChars (cs : List Char) :
    ∃ left right, cs = left ++ trimChars cs ++ right ∧ (∀ c ∈ left, isBlank c) ∧
      ∀ c ∈ right, isBlank c := by
  have hstart : cs.takeWhile isBlank ++ cs.dropWhile isBlank = cs := List.takeWhile_append_dropWhile
  have hend : trimChars cs ++ ((cs.dropWhile isBlank).reverse.takeWhile isBlank).reverse =
      cs.dropWhile isBlank := by
    rw [trimChars, ← List.reverse_append, List.takeWhile_append_dropWhile, List.reverse_reverse]
  refine ⟨cs.takeWhile isBlank,
    ((cs.dropWhile isBlank).reverse.takeWhile isBlank).reverse, ?_, ?_, ?_⟩
  · rw [List.append_assoc, hend, hstart]
  · exact List.all_eq_true.1 List.all_takeWhile
  · intro c hc
    exact List.all_eq_true.1 List.all_takeWhile c (List.mem_reverse.1 hc)

theorem isEmpty_trim_iff {s : String} : (trim s).isEmpty ↔ AllBlank s := by
  have hchars : (trim s).isEmpty ↔ trimChars s.toList = [] := by
    rw [String.isEmpty_iff, ← String.toList_inj, toList_trim]
    rfl
  rw [hchars]
  constructor
  · intro h
    obtain ⟨left, right, hs, hleft, hright⟩ := exists_blanks_trimChars s.toList
    rw [h, List.append_nil] at hs
    intro c hc
    rw [hs] at hc
    exact (List.mem_append.1 hc).elim (hleft c) (hright c)
  · intro h
    have hnone : (s.toList ++ []).dropWhile isBlank = [] := dropWhile_blanks h (by simp)
    rw [List.append_nil] at hnone
    rw [trimChars, hnone]
    rfl

end Text

namespace Template

/-! ## Braces -/

theorem toList_opening : opening.toList = ['\x7b', '\x7b'] := rfl

theorem toList_closing : closing.toList = ['\x7d', '\x7d'] := rfl

/-- Two braces start neither in a text nor at its end. -/
theorem not_double_infix_iff {b : Char} {cs : List Char} :
    ¬[b, b] <:+: cs ++ [b] ↔ ¬[b, b] <:+: cs ∧ cs.getLast? ≠ some b := by
  have hend : [b, b] <:+ cs ++ [b] ↔ cs.getLast? = some b := by
    have hlast : [b] ++ [b] <:+ cs ++ [b] ↔ [b] <:+ cs := List.suffix_append_self_iff
    rw [← List.singleton_suffix_iff_getLast?_eq_some]
    exact hlast
  rw [List.infix_concat_iff, hend, not_or, and_comm]

theorem not_opening_infix_iff {cs : List Char} :
    ¬opening.toList <:+: cs ++ ['\x7b'] ↔ ¬opening.toList <:+: cs ∧ cs.getLast? ≠ some '\x7b' :=
  toList_opening ▸ not_double_infix_iff

theorem not_opening_infix_nil : ¬opening.toList <:+: [] ++ ['\x7b'] := by decide

theorem not_closing_infix_of_not_mem {cs : List Char} (h : '\x7d' ∉ cs) :
    ¬closing.toList <:+: cs ++ ['\x7d'] := by
  rw [toList_closing, not_double_infix_iff]
  refine ⟨fun hwithin => h (hwithin.subset List.mem_cons_self), fun hlast => h ?_⟩
  exact List.mem_of_getLast? hlast

/-! ## Segments -/

/-- The name of a placeholder. -/
def Segment.name? : Segment → Option String
  | .literal _ => none
  | .service => some ".Service"
  | .inNamespace => some ".Namespace"
  | .domain => some ".Domain"

theorem placeholder?_eq_ok_iff {name : String} {p : Segment} :
    placeholder? name = .ok p ↔ p.name? = some name := by
  unfold placeholder?
  split
  · next h => cases p <;> simp [Segment.name?, h]
  · split
    · next h => cases p <;> simp [Segment.name?, h]
    · split
      · next h => cases p <;> simp [Segment.name?, h]
      · cases p <;> simp [Segment.name?, eq_comm, *]

theorem Segment.print_of_name? {p : Segment} {name : String} (h : p.name? = some name) :
    p.print = opening ++ name ++ closing := by
  cases p with
  | literal text => cases h
  | service | inNamespace | domain => obtain rfl := Option.some.inj h; rfl

/-- Names of placeholders have neither blanks at their ends nor braces. -/
theorem Segment.trimChars_name {p : Segment} {name : String} (h : p.name? = some name)
    {left right : List Char} (hleft : ∀ c ∈ left, Text.isBlank c)
    (hright : ∀ c ∈ right, Text.isBlank c) :
    Text.trimChars (left ++ name.toList ++ right) = name.toList := by
  cases p with
  | literal text => cases h
  | service | inNamespace | domain =>
    obtain rfl := Option.some.inj h
    exact Text.trimChars_between hleft hright (by decide)
      (fun c hc => Option.some.inj hc ▸ by decide)
      fun c hc => Option.some.inj hc ▸ by decide

theorem Segment.closing_not_mem_name {p : Segment} {name : String} (h : p.name? = some name) :
    '\x7d' ∉ name.toList := by
  cases p with
  | literal text => cases h
  | service | inNamespace | domain => obtain rfl := Option.some.inj h; decide

/-! ## Reading -/

/-- How a text is read: up to the first two opening braces it is a literal, up to the first two
closing braces behind them the name of a placeholder with blanks around it, and so on. -/
inductive Reads : List Char → List Segment → Prop
  | last {cs : List Char} (hopening : ¬opening.toList <:+: cs) : Reads cs (literal cs)
  | next {before name after : List Char} {p : Segment} {segments : List Segment}
      (hopening : ¬opening.toList <:+: before ++ ['\x7b'])
        (hclosing : ¬closing.toList <:+: name ++ ['\x7d'])
      (hname : p.name? = some (Text.trim (.ofList name))) (hafter : Reads after segments) :
      Reads (before ++ (opening.toList ++ (name ++ (closing.toList ++ after))))
        (literal before ++ p :: segments)

theorem cutChars?_opening {cs before opened : List Char} :
    Text.cutChars? ['\x7b', '\x7b'] cs = some (before, opened) ↔
      cs = before ++ (opening.toList ++ opened) ∧ ¬opening.toList <:+: before ++ ['\x7b'] :=
  Text.cutChars?_eq_some_iff (List.cons_ne_nil _ _)

theorem cutChars?_closing {cs name after : List Char} :
    Text.cutChars? ['\x7d', '\x7d'] cs = some (name, after) ↔
      cs = name ++ (closing.toList ++ after) ∧ ¬closing.toList <:+: name ++ ['\x7d'] :=
  Text.cutChars?_eq_some_iff (List.cons_ne_nil _ _)

theorem cutChars?_opening_eq_none_iff {cs : List Char} :
    Text.cutChars? ['\x7b', '\x7b'] cs = none ↔ ¬opening.toList <:+: cs :=
  Text.cutChars?_eq_none_iff (List.cons_ne_nil _ _)

variable {whole : String} {cs : List Char} {segments : List Segment}

theorem reads_of_parseSegments (h : parseSegments whole cs = .ok segments) : Reads cs segments := by
  fun_induction parseSegments whole cs generalizing segments with
  | case1 cs hcut =>
    obtain rfl := Except.ok.inj h
    exact .last (cutChars?_opening_eq_none_iff.1 hcut)
  | case2 => cases h
  | case3 cs before opened hopened name after hclosed ih =>
    obtain ⟨rfl, hopening⟩ := cutChars?_opening.1 hopened
    obtain ⟨rfl, hclosing⟩ := cutChars?_closing.1 hclosed
    cases hname : placeholder? (Text.trim (.ofList name)) with
    | error e =>
      rw [hname] at h
      cases h
    | ok p =>
      cases hafter : parseSegments whole after with
      | error e =>
        rw [hname, hafter] at h
        cases h
      | ok rest =>
        rw [hname, hafter] at h
        obtain rfl := Except.ok.inj h
        exact .next hopening hclosing (placeholder?_eq_ok_iff.1 hname) (ih hafter)

theorem parseSegments_of_cuts {before opened name after : List Char}
    (hopened : Text.cutChars? ['\x7b', '\x7b'] cs = some (before, opened))
    (hclosed : Text.cutChars? ['\x7d', '\x7d'] opened = some (name, after)) (whole : String) :
    parseSegments whole cs = (do
      let p ← placeholder? (Text.trim (.ofList name))
      let segments ← parseSegments whole after
      return literal before ++ p :: segments) := by
  fun_cases parseSegments whole cs with
  | case1 hcut => cases hopened.symm.trans hcut
  | case2 before' opened' hopened' hcut =>
    cases hopened.symm.trans hopened'
    cases hclosed.symm.trans hcut
  | case3 before' opened' hopened' name' after' hclosed' =>
    cases hopened.symm.trans hopened'
    cases hclosed.symm.trans hclosed'
    rfl

theorem parseSegments_of_reads (h : Reads cs segments) (whole : String) :
    parseSegments whole cs = .ok segments := by
  induction h with
  | last hopening =>
    have hcut := cutChars?_opening_eq_none_iff.2 hopening
    rw [parseSegments]
    split
    · rfl
    · next hcut' => cases hcut.symm.trans hcut'
  | next hopening hclosing hname hafter ih =>
    rw [parseSegments_of_cuts (cutChars?_opening.2 ⟨rfl, hopening⟩)
      (cutChars?_closing.2 ⟨rfl, hclosing⟩), placeholder?_eq_ok_iff.2 hname, ih]
    rfl

/-- A placeholder is read with blanks around its name. -/
theorem Reads.named {before left right after : List Char} {p : Segment} {name : String}
    (hopening : ¬opening.toList <:+: before ++ ['\x7b']) (hname : p.name? = some name)
    (hleft : ∀ c ∈ left, Text.isBlank c) (hright : ∀ c ∈ right, Text.isBlank c)
    (hafter : Reads after segments) :
    Reads
      (before ++ (opening.toList ++ (left ++ name.toList ++ right ++ (closing.toList ++ after))))
      (literal before ++ p :: segments) := by
  have htrim : Text.trim (.ofList (left ++ name.toList ++ right)) = name := by
    rw [← String.toList_inj, Text.toList_trim, String.toList_ofList,
      Segment.trimChars_name hname hleft hright]
  have hbrace {blanks : List Char} (hblanks : ∀ c ∈ blanks, Text.isBlank c) : '\x7d' ∉ blanks := by
    intro hmem
    exact absurd (hblanks _ hmem) (by decide)
  refine .next hopening (not_closing_infix_of_not_mem ?_) (htrim.symm ▸ hname) hafter
  simp only [List.mem_append, hbrace hleft, hbrace hright, Segment.closing_not_mem_name hname,
    or_false, not_false_eq_true]

/-! ## Normal forms -/

/-- A literal has some text and opens no placeholder. -/
def Segment.IsPlain : Segment → Prop
  | .literal text => text ≠ "" ∧ ¬opening.toList <:+: text.toList
  | .service | .inNamespace | .domain => True

instance : DecidablePred Segment.IsPlain
  | .literal text => inferInstanceAs (Decidable (text ≠ "" ∧ ¬opening.toList <:+: text.toList))
  | .service | .inNamespace | .domain => .isTrue trivial

/-- What may stand behind a segment: no literal behind a literal, and no placeholder behind a
literal that ends in a brace, as this brace would be taken for one of the placeholder's. -/
def Segment.MayPrecede : Segment → Segment → Prop
  | .literal _, .literal _ => False
  | .literal text, .service | .literal text, .inNamespace | .literal text, .domain =>
    text.toList.getLast? ≠ some '\x7b'
  | .service, _ | .inNamespace, _ | .domain, _ => True

instance : DecidableRel Segment.MayPrecede
  | .literal _, .literal _ => .isFalse id
  | .literal text, .service | .literal text, .inNamespace | .literal text, .domain =>
    inferInstanceAs (Decidable (text.toList.getLast? ≠ some '\x7b'))
  | .service, _ | .inNamespace, _ | .domain, _ => .isTrue trivial

/-- Segments that can be told apart once they are printed. -/
structure Separate (segments : List Segment) : Prop where
  plain : ∀ s ∈ segments, s.IsPlain
  chain : segments.IsChain Segment.MayPrecede

structure Normal (t : Template) : Prop extends Separate t.segments where
  ne_nil : t.segments ≠ []

theorem Segment.isPlain_of_name? {p : Segment} {name : String} (h : p.name? = some name) :
    p.IsPlain := by
  cases p with
  | literal text => cases h
  | service | inNamespace | domain => trivial

theorem Segment.mayPrecede_of_name? {p : Segment} {name : String} (h : p.name? = some name)
    (s : Segment) :
    p.MayPrecede s := by
  cases p with
  | literal text => cases h
  | service | inNamespace | domain => cases s <;> trivial

theorem Segment.literal_mayPrecede_iff {p : Segment} {name text : String}
    (h : p.name? = some name) :
    (Segment.literal text).MayPrecede p ↔ text.toList.getLast? ≠ some '\x7b' := by
  cases p with
  | literal text => cases h
  | service | inNamespace | domain => rfl

theorem Separate.tail {s : Segment} (h : Separate (s :: segments)) : Separate segments where
  plain s' hs' := h.plain s' (List.mem_cons_of_mem _ hs')
  chain := h.chain.of_cons

theorem Separate.placeholder (h : Separate segments) {p : Segment} {name : String}
    (hname : p.name? = some name) :
    Separate (p :: segments) where
  plain := List.forall_mem_cons.2 ⟨Segment.isPlain_of_name? hname, h.plain⟩
  chain := by
    cases segments with
    | nil => exact .singleton p
    | cons s segments => exact .cons_cons (Segment.mayPrecede_of_name? hname s) h.chain

/-- What is read is normal. -/
theorem Reads.separate (h : Reads cs segments) : Separate segments := by
  induction h with
  | @last cs hopening =>
    cases cs with
    | nil => exact ⟨by simp [literal], .nil⟩
    | cons c cs =>
      refine ⟨fun s hs => ?_, .singleton _⟩
      obtain rfl := List.mem_singleton.1 hs
      exact ⟨by simp [← String.toList_inj], by simpa using hopening⟩
  | @next before name after p segments hopening hclosing hname hafter ih =>
    have hplaced := ih.placeholder hname
    cases before with
    | nil => exact hplaced
    | cons c before =>
      obtain ⟨hplain, hbrace⟩ := not_opening_infix_iff.1 hopening
      refine ⟨List.forall_mem_cons.2 ⟨⟨by simp [← String.toList_inj], by simpa using hplain⟩,
        hplaced.plain⟩, ?_⟩
      exact .cons_cons ((Segment.literal_mayPrecede_iff hname).2 (by simpa using hbrace))
        hplaced.chain

theorem Reads.ne_nil (h : Reads cs segments) (hcs : cs ≠ []) : segments ≠ [] := by
  cases h with
  | last hopening =>
    obtain ⟨c, rest, rfl⟩ := List.exists_cons_of_ne_nil hcs
    exact List.cons_ne_nil _ _
  | next => simp

/-! ## Printing -/

/-- The characters that segments are printed as. -/
def printed (segments : List Segment) : List Char := segments.flatMap fun s => s.print.toList

theorem toList_print (t : Template) : t.print.toList = printed t.segments := by
  rw [print, String.toList_join, List.flatMap_map]
  rfl

theorem printed_placeholder {p : Segment} {name : String} (h : p.name? = some name)
    (segments : List Segment) :
    printed (p :: segments) = opening.toList ++
      (name.toList ++ (closing.toList ++ printed segments)) := by
  rw [printed, List.flatMap_cons, Segment.print_of_name? h, String.toList_append,
    String.toList_append]
  simp only [List.append_assoc, printed]

/-- Whatever becomes of segments, if literals stay as they are. -/
theorem flatMap_literal {f : Segment → List Char} (hf : ∀ text, f (.literal text) = text.toList)
    (cs : List Char) (segments : List Segment) :
    (literal cs ++ segments).flatMap f = cs ++ segments.flatMap f := by
  cases cs with
  | nil => rfl
  | cons c cs => simp [literal, hf]

theorem flatMap_literal_alone {f : Segment → List Char}
    (hf : ∀ text, f (.literal text) = text.toList) (cs : List Char) :
    (literal cs).flatMap f = cs := by
  have hcs := flatMap_literal hf cs []
  rwa [List.append_nil, List.flatMap_nil, List.append_nil] at hcs

theorem printed_literal (cs : List Char) (segments : List Segment) :
    printed (literal cs ++ segments) = cs ++ printed segments :=
  flatMap_literal (fun _ => rfl) cs segments

theorem printed_literal_alone (cs : List Char) : printed (literal cs) = cs :=
  flatMap_literal_alone (fun _ => rfl) cs

theorem literal_toList {text : String} (h : text ≠ "") : literal text.toList = [.literal text] := by
  rw [literal, if_neg (by simpa using h), String.ofList_toList]

theorem Reads.behind {before : List Char} {p : Segment} {name : String}
    (hopening : ¬opening.toList <:+: before ++ ['\x7b']) (hname : p.name? = some name)
    (h : Reads (printed segments) segments) :
    Reads (before ++ printed (p :: segments)) (literal before ++ p :: segments) := by
  have hread :
      Reads (before ++
        (opening.toList ++ ([] ++ name.toList ++ [] ++ (closing.toList ++ printed segments))))
      (literal before ++ p :: segments) := .named hopening hname (by simp) (by simp) h
  rwa [List.nil_append, List.append_nil, ← printed_placeholder hname] at hread

theorem Reads.placeholder {p : Segment} {name : String} (h : Reads (printed segments) segments)
    (hname : p.name? = some name) : Reads (printed (p :: segments)) (p :: segments) := by
  have hread := Reads.behind not_opening_infix_nil hname h
  exact hread

/-- What is printed of segments that can be told apart is read as these segments. -/
theorem Separate.reads :
    {segments : List Segment} → Separate segments → Reads (printed segments) segments
  | [], _ => .last (by decide)
  | [.literal text], h => by
    obtain ⟨hne, hopening⟩ := h.plain _ List.mem_cons_self
    rw [← literal_toList hne, printed_literal_alone]
    exact .last hopening
  -- a literal is read together with the placeholder behind it
  | .literal text :: p :: segments, h => by
    obtain ⟨hne, hopening⟩ := h.plain _ List.mem_cons_self
    have hnext := h.chain.rel
    cases hname : p.name? with
    | none => cases p <;> first | exact absurd hnext id | cases hname
    | some name =>
      have hbrace := (Segment.literal_mayPrecede_iff hname).1 hnext
      have hread :=
        Reads.behind (not_opening_infix_iff.2 ⟨hopening, hbrace⟩) hname h.tail.tail.reads
      rwa [← printed_literal, literal_toList hne] at hread
  | .service :: _, h | .inNamespace :: _, h | .domain :: _, h =>
    h.tail.reads.placeholder rfl

/-- What has placeholders or text to it is not printed as blanks. -/
theorem Reads.not_blank (h : Reads cs segments) (hcs : ∃ c ∈ cs, ¬Text.isBlank c) :
    ∃ c ∈ printed segments, ¬Text.isBlank c := by
  cases h with
  | last hopening => rwa [printed_literal_alone]
  | next hopening hclosing hname hafter =>
    refine ⟨'\x7b', ?_, by decide⟩
    rw [printed_literal, printed_placeholder hname]
    exact List.mem_append_right _ (List.mem_append_left _ (by decide))

/-! ## Filling -/

/-- Whether one text comes from another by putting texts in the places of the placeholders. A
placeholder is a name between double braces, with blanks around it; all other text stays as it
is. -/
inductive Filled (service inNamespace domain : String) : List Char → List Char → Prop
  | nil : Filled service inNamespace domain [] []
  | char {c : Char} {cs out : List Char} (hopening : ¬opening.toList <+: c :: cs)
      (hrest : Filled service inNamespace domain cs out) :
      Filled service inNamespace domain (c :: cs) (c :: out)
  | placeholder {left right cs out : List Char} {p : Segment} {name : String}
      (hname : p.name? = some name)
      (hleft : ∀ c ∈ left, Text.isBlank c) (hright : ∀ c ∈ right, Text.isBlank c)
      (hrest : Filled service inNamespace domain cs out) :
      Filled service inNamespace domain
        (opening.toList ++ (left ++ name.toList ++ right ++ (closing.toList ++ cs)))
        ((p.render service inNamespace domain).toList ++ out)

/-- The characters that segments are rendered as. -/
def rendered (service inNamespace domain : String) (segments : List Segment) : List Char :=
  segments.flatMap fun s => (s.render service inNamespace domain).toList

theorem toList_render (t : Template) (service inNamespace domain : String) :
    (t.render service inNamespace domain).toList =
      rendered service inNamespace domain t.segments := by
  rw [render, String.toList_join, List.flatMap_map]
  rfl

variable {service inNamespace domain : String} {out : List Char}

theorem rendered_literal (service inNamespace domain : String) (cs : List Char)
    (segments : List Segment) :
    rendered service inNamespace domain (literal cs ++ segments) = cs ++
      rendered service inNamespace domain segments :=
  flatMap_literal (fun _ => rfl) cs segments

theorem rendered_literal_alone (service inNamespace domain : String) (cs : List Char) :
    rendered service inNamespace domain (literal cs) = cs := flatMap_literal_alone (fun _ => rfl) cs

/-- Literal text stays as it is, up to the next placeholder or the end. -/
theorem Filled.behind {before : List Char} (hopening : ¬opening.toList <:+: before ++ ['\x7b'])
    (h : Filled service inNamespace domain (opening.toList ++ cs) out) :
    Filled service inNamespace domain (before ++ (opening.toList ++ cs)) (before ++ out) := by
  induction before with
  | nil => exact h
  | cons c before ih =>
    rw [List.cons_append, List.infix_cons_iff, not_or] at hopening
    exact .char (fun hprefix => hopening.1 (Text.prefix_cons_append_iff.1 hprefix)) (ih hopening.2)

theorem Filled.of_not_opening (hopening : ¬opening.toList <:+: cs) :
    Filled service inNamespace domain cs cs := by
  induction cs with
  | nil => exact .nil
  | cons c cs ih =>
    rw [List.infix_cons_iff, not_or] at hopening
    exact .char hopening.1 (ih hopening.2)

theorem Reads.filled (h : Reads cs segments) :
    Filled service inNamespace domain cs (rendered service inNamespace domain segments) := by
  induction h with
  | last hopening =>
    rw [rendered_literal_alone]
    exact .of_not_opening hopening
  | @next before name after p segments hopening hclosing hname hafter ih =>
    obtain ⟨left, right, hblanks, hleft, hright⟩ := Text.exists_blanks_trimChars name
    rw [rendered_literal]
    refine .behind hopening ?_
    have hfilled := Filled.placeholder hname hleft hright ih
    rw [Text.toList_trim, String.toList_ofList, ← hblanks] at hfilled
    exact hfilled

theorem exists_reads_cons {c : Char} (hopening : ¬opening.toList <+: c :: cs)
    (h : Reads cs segments) :
    ∃ segments', Reads (c :: cs) segments' ∧
      rendered service inNamespace domain segments' = c ::
        rendered service inNamespace domain segments := by
  cases h with
  | last hlast =>
    refine ⟨_, .last (mt List.infix_cons_iff.1 (not_or.2 ⟨hopening, hlast⟩)), ?_⟩
    rw [rendered_literal_alone, rendered_literal_alone]
  | @next before name after p segments hnext hclosing hname hafter =>
    have hnext' : ¬opening.toList <:+: c :: before ++ ['\x7b'] :=
      mt List.infix_cons_iff.1 (not_or.2 ⟨mt Text.prefix_cons_append_iff.2 hopening, hnext⟩)
    refine ⟨_, .next hnext' hclosing hname hafter, ?_⟩
    rw [rendered_literal, rendered_literal]
    rfl

theorem Filled.exists_reads (h : Filled service inNamespace domain cs out) :
    ∃ segments, Reads cs segments ∧ rendered service inNamespace domain segments = out := by
  induction h with
  | nil => exact ⟨[], .last (by decide), rfl⟩
  | char hopening hrest ih =>
    obtain ⟨segments, hreads, rfl⟩ := ih
    exact exists_reads_cons hopening hreads
  | placeholder hname hleft hright hrest ih =>
    obtain ⟨segments, hreads, rfl⟩ := ih
    exact ⟨_, .named not_opening_infix_nil hname hleft hright hreads, rfl⟩

theorem filled_iff : Filled service inNamespace domain cs out ↔
    ∃ segments, Reads cs segments ∧ rendered service inNamespace domain segments = out := by
  constructor
  · exact Filled.exists_reads
  · rintro ⟨segments, hreads, rfl⟩
    exact hreads.filled

/-! ## Templates -/

theorem parse_of_not_blank {text : String} (h : ¬Text.AllBlank text) (t : Template) :
    parse text = .ok t ↔ Reads text.toList t.segments := by
  rw [parse, if_neg (mt Text.isEmpty_trim_iff.1 h)]
  constructor
  · intro hparse
    cases hsegments : parseSegments text text.toList with
    | error e =>
      rw [hsegments] at hparse
      cases hparse
    | ok segments =>
      rw [hsegments] at hparse
      obtain rfl := Except.ok.inj hparse
      exact reads_of_parseSegments hsegments
  · intro hreads
    rw [parseSegments_of_reads hreads]
    rfl

theorem normal_standard : standard.Normal where
  plain := by decide
  chain := by decide
  ne_nil := by decide

/-- What is parsed is normal, and has more to it than blanks. -/
theorem normal_of_parse {text : String} {t : Template} (h : parse text = .ok t) :
    t.Normal ∧ ¬Text.AllBlank t.print := by
  by_cases hblank : Text.AllBlank text
  · rw [parse, if_pos (Text.isEmpty_trim_iff.2 hblank)] at h
    obtain rfl := Except.ok.inj h
    exact ⟨normal_standard, by decide⟩
  · have hreads := (parse_of_not_blank hblank t).1 h
    obtain ⟨c, hc, hvisible⟩ : ∃ c ∈ text.toList, ¬Text.isBlank c := by
      simpa [Text.AllBlank] using hblank
    refine ⟨⟨hreads.separate, hreads.ne_nil (List.ne_nil_of_mem hc)⟩, fun hprint => ?_⟩
    obtain ⟨c', hc', hvisible'⟩ := hreads.not_blank ⟨c, hc, hvisible⟩
    exact hvisible' (hprint c' (toList_print t ▸ hc'))

theorem parse_print_of_normal {t : Template} (h : t.Normal) (hblank : ¬Text.AllBlank t.print) :
    parse t.print = .ok t := by
  rw [parse_of_not_blank hblank, toList_print]
  exact h.reads

end Template

/-! ## Reading back -/

open Template

/-- Templates are read back as they are printed: what is parsed is normal, and a normal template,
printed, is parsed as itself unless it is all blank. A text that is not all blank is parsed and
rendered as the text with its placeholders filled in, and if it cannot be filled in so, it is not
parsed. -/
theorem templates_read_back :
    (∀ text t, parse text = .ok t → t.Normal ∧ parse t.print = .ok t) ∧
    (∀ t : Template, t.Normal → ¬Text.AllBlank t.print → parse t.print = .ok t) ∧
    ∀ text, ¬Text.AllBlank text → ∀ service inNamespace domain out,
      Filled service inNamespace domain text.toList out.toList ↔
        ∃ t, parse text = .ok t ∧ t.render service inNamespace domain = out := by
  refine ⟨fun text t h => ?_, fun t => parse_print_of_normal,
    fun text htext service inNamespace domain out => ?_⟩
  · obtain ⟨hnormal, hblank⟩ := normal_of_parse h
    exact ⟨hnormal, parse_print_of_normal hnormal hblank⟩
  · rw [filled_iff]
    constructor
    · rintro ⟨segments, hreads, hrendered⟩
      refine ⟨⟨segments⟩, (parse_of_not_blank htext _).2 hreads, String.toList_inj.1 ?_⟩
      rw [toList_render, hrendered]
    · rintro ⟨t, hparse, rfl⟩
      exact ⟨t.segments, (parse_of_not_blank htext t).1 hparse, (toList_render t _ _ _).symm⟩

/-- Blanks in braces are dropped, and a brace behind a placeholder is text. -/
theorem templates_read_back_spaced :
    parse "\x7b\x7b .Service \x7d\x7d\x7d-\x7b\x7b.Domain\x7d\x7d" =
      .ok ⟨[.service, .literal "\x7d-", .domain]⟩ ∧
      parse "\x7b\x7b.Service\x7d\x7d\x7d-\x7b\x7b.Domain\x7d\x7d" =
        .ok ⟨[.service, .literal "\x7d-", .domain]⟩ ∧
      Filled "web" "ns1" "example.com"
        "\x7b\x7b .Service \x7d\x7d\x7d-\x7b\x7b.Domain\x7d\x7d".toList
        "web\x7d-example.com".toList := by
  have hdomain : Reads (['\x7d', '-'] ++ printed [.domain]) (literal ['\x7d', '-'] ++ [.domain]) :=
    .behind (by decide) rfl (.last (by decide))
  have hblank : ∀ c ∈ [' '], Text.isBlank c := List.forall_mem_singleton.2 rfl
  have hservice : Reads
      ([] ++ (opening.toList ++ ([' '] ++ ".Service".toList ++ [' '] ++
        (closing.toList ++ (['\x7d', '-'] ++ printed [.domain])))))
      (literal [] ++ .service :: (literal ['\x7d', '-'] ++ [.domain])) :=
    .named not_opening_infix_nil rfl hblank hblank hdomain
  have hparse : parse "\x7b\x7b .Service \x7d\x7d\x7d-\x7b\x7b.Domain\x7d\x7d" =
      .ok ⟨[.service, .literal "\x7d-", .domain]⟩ := (parse_of_not_blank (by decide) _).2 hservice
  obtain ⟨hread, -, hfilled⟩ := templates_read_back
  refine ⟨hparse, (hread _ _ hparse).2, ?_⟩
  exact (hfilled _ (by decide) "web" "ns1" "example.com" "web\x7d-example.com").2
    ⟨_, hparse, by decide⟩

end ServiceExposure
