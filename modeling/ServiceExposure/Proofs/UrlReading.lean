import Mathlib.Data.List.TakeWhile
import ServiceExposure.Proofs.Cuts
import ServiceExposure.Url

/-! # Reading URLs

A URL of a special scheme has a host. Whatever is read in front of its path is passed over up to the
first mark of a query or of a fragment, so that it has a query or a fragment exactly if there is
such a mark anywhere in its text. -/

namespace ServiceExposure.Url

/-! ## Marks -/

/-- The characters that a query and a fragment start with. -/
def IsMark (c : Char) : Prop := c = '?' ∨ c = '#'

section

variable {c : Char} {cs : List Char} {passed : Char → Bool} (h : passed c = false)
include h

theorem not_mem_takeWhile : c ∉ cs.takeWhile passed := fun hmem => by
  simpa [h] using List.mem_takeWhile_imp hmem

theorem mem_dropWhile_iff : c ∈ cs.dropWhile passed ↔ c ∈ cs := by
  conv_rhs => rw [← List.takeWhile_append_dropWhile (p := passed) (l := cs), List.mem_append]
  exact (or_iff_right (not_mem_takeWhile h)).symm

end

section

variable {c : Char} (hmark : IsMark c)
include hmark

theorem IsMark.endsAuthority (special : Bool) : endsAuthority special c := by
  rcases hmark with rfl | rfl <;> cases special <;> decide

theorem IsMark.ne_colon : c ≠ ':' := by
  rcases hmark with rfl | rfl <;> decide

variable {cs rest : List Char}

theorem mem_scheme?_iff {scheme : List Char} (h : scheme? cs = some (scheme, rest)) :
    c ∈ rest ↔ c ∈ cs := by
  have hscheme : isSchemeChar c = false := by rcases hmark with rfl | rfl <;> decide
  rw [scheme?] at h
  split at h
  · next letter letters after hcut =>
    split at h
    · next hall =>
      cases h
      rw [Bool.and_eq_true, List.all_eq_true] at hall
      have hletter : c ≠ letter := by
        rintro rfl
        simp [isSchemeChar, Char.isAlphanum, hall.1] at hscheme
      have hletters : c ∉ letters := fun hmem => by simp [hall.2 c hmem] at hscheme
      simp [Text.eq_append_of_cutChars? hcut, hletter, hletters, hmark.ne_colon]
    · cases h
  · cases h

theorem mem_readCredentials_iff {special : Bool} {credentials : List Char}
    (h : readCredentials special cs = .ok (credentials, rest)) : c ∈ rest ↔ c ∈ cs := by
  -- no mark stands in the authority, of which the credentials are a part
  have hends : (!Url.endsAuthority special c) = false := by simp [hmark.endsAuthority special]
  have hfront : c ∉ cs.takeWhile (!Url.endsAuthority special ·) := not_mem_takeWhile hends
  have hbehind : c ∈ cs.dropWhile (!Url.endsAuthority special ·) ↔ c ∈ cs := mem_dropWhile_iff hends
  simp only [readCredentials, List.span_eq_takeWhile_dropWhile] at h
  split at h
  · cases h
    rfl
  · split at h
    · next hempty =>
      cases h
      rw [← hbehind, List.isEmpty_iff.1 hempty]
    · cases h
  · next hcut =>
    cases h
    rw [(Text.eq_append_of_cutLastChars? hcut).1] at hfront
    simp only [List.mem_append, List.mem_cons, not_or] at hfront
    rw [← hbehind, List.mem_append, or_iff_right hfront.2.2]

theorem mem_spanHost_iff {special bracketed : Bool} :
    c ∈ (spanHost special bracketed cs).2 ↔ c ∈ cs := by
  induction cs generalizing bracketed with
  | nil => rfl
  | cons d cs ih =>
    rw [spanHost]
    split
    · rfl
    · next hends =>
      have hne : c ≠ d := by
        rintro rfl
        simp [hmark.endsAuthority special] at hends
      rw [List.mem_cons, or_iff_right hne]
      exact ih

theorem mem_readPort_iff {usual port : Option Nat} (h : readPort usual cs = .ok (port, rest)) :
    c ∈ rest ↔ c ∈ cs := by
  have hdigit : c.isDigit = false := by rcases hmark with rfl | rfl <;> decide
  have hbehind : c ∈ cs.dropWhile Char.isDigit ↔ c ∈ cs := mem_dropWhile_iff hdigit
  simp only [readPort, List.span_eq_takeWhile_dropWhile] at h
  split at h
  · cases h
  · split at h
    · cases h
    · split at h <;> cases h <;> exact hbehind

end

/-! ## Authorities -/

theorem Host.special_ne_empty {cs : List Char} {host : Host} (h : Host.special cs = .ok host) :
    host ≠ .domain [] := by
  rintro rfl
  unfold Host.special at h
  split at h
  · unfold Host.bracketed at h
    split at h <;> cases h
  · split at h
    · cases h
    · cases h
    · next name hne _ =>
      split at h
      · cases hip : Host.ipv4? name <;> rw [hip] at h <;> cases h
      · cases h
        exact hne rfl

theorem bind_eq_ok_iff {ε α β : Type} {x : Except ε α} {f : α → Except ε β} {b : β} :
    x >>= f = .ok b ↔ ∃ a, x = .ok a ∧ f a = .ok b := by
  cases x <;> simp [bind, Except.bind]

theorem exists_host_of_readAuthority {scheme cs rest : List Char} {a : Authority}
    (hspecial : isSpecial scheme) (h : readAuthority scheme cs = .ok (a, rest)) :
    (∃ host, a.host = some host) ∧ ∀ c, IsMark c → (c ∈ rest ↔ c ∈ cs) := by
  simp only [readAuthority, hspecial, Bool.true_and, if_true] at h
  obtain ⟨⟨credentials, afterCredentials⟩, hcredentials, h⟩ := bind_eq_ok_iff.1 h
  split at h
  · cases h
  obtain ⟨host, hhost, h⟩ := bind_eq_ok_iff.1 h
  simp only [if_neg (Host.special_ne_empty hhost), Option.isNone_some, Bool.false_and,
    Bool.false_eq_true, if_false] at h
  have hname (c : Char) (hmark : IsMark c) :
      c ∈ (spanHost true false afterCredentials).2 ↔ c ∈ cs :=
    (mem_spanHost_iff hmark).trans (mem_readCredentials_iff hmark hcredentials)
  split at h
  · next after hafter =>
    obtain ⟨port, hport, h⟩ := bind_eq_ok_iff.1 h
    cases h
    refine ⟨⟨host, rfl⟩, fun c hmark => ?_⟩
    rw [← hname c hmark, hafter, List.mem_cons, or_iff_right hmark.ne_colon]
    exact mem_readPort_iff hmark hport
  · cases h
    exact ⟨⟨host, rfl⟩, hname⟩

/-! ## Queries and fragments -/

theorem spanPath_eq_path_iff {cs : List Char} :
    (spanPath cs).2 = (none, none) ↔ '?' ∉ cs ∧ '#' ∉ cs := by
  rw [← Text.cutChars?_singleton_eq_none_iff, ← Text.cutChars?_singleton_eq_none_iff]
  unfold spanPath
  cases hfragment : Text.cutChars? ['#'] cs with
  | none => cases hquery : Text.cutChars? ['?'] cs <;> simp [hquery]
  | some parts => cases hquery : Text.cutChars? ['?'] parts.1 <;> simp [hquery]

/-! ## Schemes -/

variable {scheme cs : List Char} {u : Url}

theorem exists_of_readHierarchical (h : readHierarchical scheme cs = .ok u) :
    ∃ a rest path, readAuthority scheme cs = .ok (a, rest) ∧
      u = finish scheme (some a) path (spanPath rest).2.1 (spanPath rest).2.2 := by
  rw [readHierarchical] at h
  obtain ⟨⟨a, rest⟩, hauthority, h⟩ := bind_eq_ok_iff.1 h
  exact ⟨a, rest, _, hauthority, (Except.ok.inj h).symm⟩

theorem scheme_readOther (h : readOther scheme cs = .ok u) : u.scheme = scheme := by
  unfold readOther at h
  split at h
  · obtain ⟨a, rest, path, -, rfl⟩ := exists_of_readHierarchical h
    rfl
  · cases h
    rfl
  · cases h
    rfl

theorem scheme_readFile (h : readFile cs = .ok u) : u.scheme = "file".toList := by
  simp only [readFile] at h
  repeat' split at h
  all_goals
    obtain ⟨⟨host, path⟩, -, h⟩ := bind_eq_ok_iff.1 h
    cases h
    rfl

/-! ## URLs -/

/-- A URL of a special scheme has a host, and no query and no fragment exactly if there is no mark
in its text. -/
theorem host_and_marks_of_read {s : String} (h : read s = .ok u) (hspecial : isSpecial u.scheme) :
    (∃ a host, u.authority = some a ∧ a.host = some host) ∧
      (u.query = none ∧ u.fragment = none ↔ '?' ∉ s.toList ∧ '#' ∉ s.toList) := by
  simp only [read] at h
  split at h
  · cases h
  · next scheme rest hscheme =>
    split at h
    · next hhierarchical =>
      obtain ⟨a, tail, path, hauthority, rfl⟩ := exists_of_readHierarchical h
      obtain ⟨⟨host, hhost⟩, htail⟩ := exists_host_of_readAuthority hhierarchical hauthority
      have hmem (c : Char) (hmark : IsMark c) : c ∈ tail ↔ c ∈ s.toList := by
        have hblank : isOuterBlank c = false := by rcases hmark with rfl | rfl <;> decide
        have hgap : Path.isGap c = false := by rcases hmark with rfl | rfl <;> decide
        have hslash : isSlash c = false := by rcases hmark with rfl | rfl <;> decide
        rw [htail c hmark, mem_dropWhile_iff hslash, mem_scheme?_iff hmark hscheme]
        simp [Path.withoutGaps, hgap, mem_dropWhile_iff hblank]
      refine ⟨⟨a, host, rfl, hhost⟩, ?_⟩
      rw [← hmem '?' (.inl rfl), ← hmem '#' (.inr rfl), ← spanPath_eq_path_iff]
      simp [finish, Prod.ext_iff]
    · split at h
      · rw [scheme_readFile h] at hspecial
        cases hspecial
      · rw [scheme_readOther h] at hspecial
        contradiction

end ServiceExposure.Url
