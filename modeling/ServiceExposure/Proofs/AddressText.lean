import ServiceExposure.Address
import ServiceExposure.Proofs.Cuts

/-! # Addresses as text

What the text of an address tells about its parts: no IP address has a slash in it, a path is joined
to a host by putting it behind, and the scheme of a URL is what stands in front. -/

namespace ServiceExposure

/-! ## IP addresses -/

namespace Net

section

variable {c : Char} (hhex : isHexDigit c = false)
include hhex

theorem not_mem_of_isDecimal {cs : List Char} (h : isDecimal cs) : c ∉ cs := by
  intro hc
  have hdigit : c.isDigit := List.all_eq_true.1 (Bool.and_eq_true_iff.1 h).2 c hc
  simp [isHexDigit, hdigit] at hhex

theorem not_mem_of_group? {cs : List Char} (h : (group? cs).isSome) : c ∉ cs := by
  intro hc
  rw [group?] at h
  split at h
  · next hgroup =>
    have hall : cs.all isHexDigit := by simp_all
    exact absurd (List.all_eq_true.1 hall c hc) (by simp [hhex])
  · exact absurd h Bool.false_ne_true

theorem not_mem_of_octet? {cs : List Char} (h : (octet? cs).isSome) : c ∉ cs := by
  rw [octet?] at h
  split at h
  · next hoctet => exact not_mem_of_isDecimal hhex (by simp_all)
  · exact absurd h Bool.false_ne_true

variable (hdot : c ≠ '.')
include hdot

theorem not_mem_of_ipv4? {cs : List Char} (h : (ipv4? cs).isSome) : c ∉ cs := by
  intro hc
  obtain ⟨piece, hpiece, hmem⟩ := Text.exists_mem_splitChars hdot hc
  rw [ipv4?] at h
  split at h
  · next p q r s hpieces =>
    rw [hpieces] at hpiece
    -- each of the four pieces is an octet
    have hoctets : (octet? p).isSome ∧ (octet? q).isSome ∧ (octet? r).isSome ∧
        (octet? s).isSome := by
      cases hp : octet? p <;> cases hq : octet? q <;> cases hr : octet? r <;>
        cases hs : octet? s <;>
        simp [hp, hq, hr, hs] at h ⊢
    have hoctet : (octet? piece).isSome := by
      simp only [List.mem_cons, List.not_mem_nil, or_false] at hpiece
      obtain ⟨hp, hq, hr, hs⟩ := hoctets
      rcases hpiece with rfl | rfl | rfl | rfl <;> assumption
    exact not_mem_of_octet? hhex hoctet hmem
  · exact absurd h Bool.false_ne_true

theorem not_mem_of_groups? {ipv4Last : Bool} {pieces : List (List Char)}
    (h : (groups? ipv4Last pieces).isSome) :
    ∀ piece ∈ pieces, c ∉ piece := by
  induction pieces with
  | nil => exact fun piece hpiece => absurd hpiece List.not_mem_nil
  | cons cs rest ih =>
    cases rest with
    | nil =>
      intro piece hpiece
      rw [List.mem_singleton.1 hpiece]
      rw [groups?] at h
      cases hgroup : group? cs with
      | some g => exact not_mem_of_group? hhex (hgroup ▸ rfl)
      | none =>
        simp only [hgroup] at h
        split at h
        · exact not_mem_of_ipv4? hhex hdot (by simpa using h)
        · exact absurd h Bool.false_ne_true
    | cons next rest =>
      have hboth : (group? cs).isSome ∧ (groups? ipv4Last (next :: rest)).isSome := by
        rw [groups?] at h
        · cases hgroup : group? cs <;> cases hgroups : groups? ipv4Last (next :: rest) <;>
            simp [hgroup, hgroups] at h ⊢
        · simp
      refine List.forall_mem_cons.2 ⟨?_, ih hboth.2⟩
      exact not_mem_of_group? hhex hboth.1

variable (hcolon : c ≠ ':')
include hcolon

theorem not_mem_of_side? {ipv4Last : Bool} {cs : List Char} (h : (side? ipv4Last cs).isSome) :
    c ∉ cs := by
  intro hc
  obtain ⟨piece, hpiece, hmem⟩ := Text.exists_mem_splitChars hcolon hc
  rw [side?] at h
  split at h
  · next hempty => exact absurd (List.isEmpty_iff.1 hempty ▸ hc) List.not_mem_nil
  · exact not_mem_of_groups? hhex hdot h piece hpiece hmem

/-- IPv6 addresses have no characters but hexadecimal digits, colons and dots. -/
theorem not_mem_of_ipv6? {cs : List Char} (h : (ipv6? cs).isSome) : c ∉ cs := by
  intro hc
  rw [ipv6?] at h
  split at h
  · obtain ⟨piece, hpiece, hmem⟩ := Text.exists_mem_splitChars hcolon hc
    cases hgroups : groups? true (Text.splitChars ':' cs) with
    | none => simp [hgroups] at h
    | some groups => exact not_mem_of_groups? hhex hdot (by rw [hgroups]; rfl) piece hpiece hmem
  · next before after hcut =>
    have hsides : (side? false before).isSome ∧ (side? true after).isSome := by
      cases hbefore : side? false before <;> cases hafter : side? true after <;>
        simp [hbefore, hafter] at h ⊢
    rw [Text.eq_append_of_cutChars? hcut] at hc
    rcases List.mem_append.1 hc with hc | hc
    · rcases List.mem_append.1 hc with hc | hc
      · exact not_mem_of_side? hhex hdot hcolon hsides.1 hc
      · simp [hcolon] at hc
    · exact not_mem_of_side? hhex hdot hcolon hsides.2 hc

end

end Net

/-! ## Hosts and paths -/

namespace Address

theorem join_ne_empty (first second : String) (rest : List String) :
    join (first :: second :: rest) ≠ "" := by
  intro h
  have hlength := congrArg String.length h
  cases rest <;> simp [join, joinTail, String.length_append] at hlength

/-- A host with a path is no bare IPv6 address. -/
theorem bracketed_of_slash_mem {s : String} (h : '/' ∈ s.toList) : bracketed s = s := by
  have hip : ¬Net.isIpv6 s :=
    fun hip => Net.not_mem_of_ipv6? (by decide) (by decide) (by decide) hip h
  rw [bracketed, if_neg hip]

/-- A host and a path that starts with a slash have that one slash between them. -/
theorem join_host_path (host : String) {path : String} (h : path.toList.head? = some '/') :
    join [host, path] = Text.withoutLast '/' host ++ path := by
  obtain ⟨rest, hrest⟩ := List.head?_eq_some_iff.1 h
  have hpath : "/" ++ Text.withoutFirst '/' path = path := by
    apply String.toList_inj.1
    simp [Text.withoutFirst, hrest, String.toList_append]
  simp only [join, joinTail, hpath]

/-- A path from the root starts with a slash. -/
theorem head?_join_root (first second : String) (rest : List String) :
    (join ("/" :: first :: second :: rest)).toList.head? = some '/' := by
  have hroot : Text.withoutLast '/' "/" = "" := by decide
  simp [join, joinTail, hroot, String.toList_append]

/-- The scheme of a URL is what stands in front of its host. -/
theorem scheme?_eq {scheme : String} (hne : scheme ≠ "") (hcolon : ':' ∉ scheme.toList)
    (address : String) :
    scheme? (scheme ++ "://" ++ address) = some scheme := by
  have hcut : Text.cut? "://" (scheme ++ "://" ++ address) = some (scheme, address) := by
    have hsep : "://".toList = [':', '/', '/'] := rfl
    have hchars :
        Text.cutChars? [':', '/', '/'] (scheme.toList ++ [':', '/', '/'] ++ address.toList) =
        some (scheme.toList, address.toList) := Text.cutChars?_append hcolon
    rw [Text.cut?, String.toList_append, String.toList_append, hsep, hchars]
    simp
  rw [scheme?, hcut]
  simp [hne]

end Address

end ServiceExposure
