import ServiceExposure.Proofs.HostPorts
import ServiceExposure.Proofs.UrlReading
import ServiceExposure.Propagation.UrlForm

/-! # Forms of a URL, compared

The forms that keep the path are cut out of the text of the URL, and differ by the scheme in front
and a slash at the end only. The form without the path is written anew from what is read of the URL:
its scheme and host, a slash, and the query and the fragment if there are any. -/

namespace ServiceExposure

/-! ## Forms with the path -/

namespace Address

/-- A scheme is taken off once, whatever follows it. -/
theorem withoutHttpScheme_append {scheme : String} (h : scheme = "http" ∨ scheme = "https")
    (rest : String) :
    withoutHttpScheme (scheme ++ "://" ++ rest) = rest := by
  rcases h with rfl | rfl
  · have hafter : Text.after? "http://" ("http" ++ "://" ++ rest) = some rest :=
      Text.after?_eq_some_iff.2 rfl
    rw [withoutHttpScheme, hafter]
    rfl
  · have hother : Text.after? "http://" ("https" ++ "://" ++ rest) = none := by
      have hsecure : ("https" ++ "://" ++ rest).toList = "https://".toList ++ rest.toList := by simp
      rw [Text.after?, hsecure]
      rfl
    have hafter : Text.after? "https://" ("https" ++ "://" ++ rest) = some rest :=
      Text.after?_eq_some_iff.2 rfl
    rw [withoutHttpScheme, hother, hafter]
    rfl

end Address

namespace UrlForm

variable {scheme rest : String}

/-- The forms of a URL that is a scheme and some rest. -/
theorem render?_of_scheme (hscheme : scheme = "http" ∨ scheme = "https") (hrest : rest ≠ "") :
    plain.render? (scheme ++ "://" ++ rest) = some (scheme ++ "://" ++ Text.withoutLast '/' rest) ∧
    full.render? (scheme ++ "://" ++ rest) =
      some (scheme ++ "://" ++ Text.withoutLast '/' rest ++ "/") ∧
    noProtocol.render? (scheme ++ "://" ++ rest) = some (Text.withoutLast '/' rest) ∧
    fullNoProtocol.render? (scheme ++ "://" ++ rest) = some (Text.withoutLast '/' rest ++ "/") ∧
    protocol.render? (scheme ++ "://" ++ rest) = some scheme := by
  have htrimmed : Text.withoutLast '/' (scheme ++ "://" ++ rest) = scheme ++ "://" ++
      Text.withoutLast '/' rest :=
    Text.withoutLast_append '/' _ hrest
  refine ⟨congrArg some htrimmed, ?_, ?_, ?_, ?_⟩
  · rw [render?, htrimmed]
  · rw [render?, htrimmed, Address.withoutHttpScheme_append hscheme]
  · rw [render?, htrimmed, String.append_assoc, Address.withoutHttpScheme_append hscheme]
  · refine Address.scheme?_eq ?_ ?_ rest <;> rcases hscheme with rfl | rfl <;> decide

end UrlForm

/-- The forms that keep the path can be put together from one another, and a slash at the end of the
URL makes no difference to any form but the one without the path. -/
theorem url_forms_fit_together {scheme rest url : String} (hurl : url = scheme ++ "://" ++ rest)
    (hscheme : scheme = "http" ∨ scheme = "https") (hrest : rest ≠ "") :
    ∃ plain full bare fullBare : String,
      (UrlForm.plain.render? url = some plain ∧ UrlForm.full.render? url = some full ∧
        UrlForm.noProtocol.render? url = some bare ∧
        UrlForm.fullNoProtocol.render? url = some fullBare ∧
        UrlForm.protocol.render? url = some scheme) ∧
      (plain = scheme ++ "://" ++ bare ∧ full = plain ++ "/" ∧ full = scheme ++ "://" ++ fullBare ∧
        fullBare = bare ++ "/" ∧ bare = Text.withoutLast '/' rest) ∧
      ∀ form ≠ UrlForm.noPath, form.render? full = form.render? url := by
  subst hurl
  obtain ⟨hplain, hfull, hbare, hfullBare, hprotocol⟩ := UrlForm.render?_of_scheme hscheme hrest
  refine ⟨_, _, _, _, ⟨hplain, hfull, hbare, hfullBare, hprotocol⟩,
    ⟨rfl, rfl, String.append_assoc .., rfl, rfl⟩, ?_⟩
  -- with the slash at its end, the URL is of the same scheme and has the same rest but for that
  -- slash
  have hslash : Text.withoutLast '/' rest ++ "/" ≠ "" := by simp
  have hagain :
      Text.withoutLast '/' (Text.withoutLast '/' rest ++ "/") = Text.withoutLast '/' rest :=
    Text.withoutLast_append_last '/' _
  have hforms := UrlForm.render?_of_scheme hscheme hslash
  rw [hagain, ← String.append_assoc] at hforms
  obtain ⟨hplain', hfull', hbare', hfullBare', hprotocol'⟩ := hforms
  intro form hform
  cases form with
  | plain => exact hplain'.trans hplain.symm
  | full => exact hfull'.trans hfull.symm
  | noProtocol => exact hbare'.trans hbare.symm
  | fullNoProtocol => exact hfullBare'.trans hfullBare.symm
  | noPath => exact absurd rfl hform
  | protocol => exact hprotocol'.trans hprotocol.symm

/-- The rest may look like a URL itself. -/
theorem url_forms_fit_together_nested :
    let url := "https://http://web/"
    UrlForm.noProtocol.render? url = some "http://web" ∧
      UrlForm.full.render? url = some "https://http://web/" ∧
      ∃ full, UrlForm.full.render? url = some full ∧
        UrlForm.plain.render? full = UrlForm.plain.render? url := by
  have hurl : "https://http://web/" = "https" ++ "://" ++ "http://web/" := by decide
  obtain ⟨plain, full, bare, fullBare, ⟨-, hfull, hbare, -, -⟩,
      ⟨hplain, hfull', -, -, hrest⟩, hagain⟩ :=
    url_forms_fit_together hurl (.inr rfl) (by decide)
  subst hfull' hplain hrest
  exact ⟨hbare, hfull, _, hfull, hagain .plain (by decide)⟩

/-! ## The form without the path -/

namespace Url

variable {s : String} {u : Url} {a : Authority} {host : Host}

theorem hostOf?_of_read (h : read s = .ok u) (hauthority : u.authority = some a)
    (hhost : a.host = some host) :
    hostOf? s = some (.ofList (host.text ++ a.portText)) := by
  obtain ⟨scheme, authority, path, query, fragment⟩ := u
  cases hauthority
  rw [hostOf?, h]
  exact congrArg (Option.map _) hhost

theorem rootOf_of_read (h : read s = .ok u) (hauthority : u.authority = some a) :
    rootOf s = .ok (.ofList (u.beforePath ++ ['/'] ++ u.afterPath)) := by
  have hopaque : u.isOpaque = false := by
    rw [isOpaque, hauthority, Option.isNone_some, Bool.false_and]
  rw [rootOf, h, Except.map, hopaque]
  rfl

theorem beforePath_of_host (hauthority : u.authority = some a) (hcredentials : a.credentials = [])
    (hhost : a.host = some host) :
    u.beforePath = u.scheme ++ "://".toList ++ (host.text ++ a.portText) := by
  simp [beforePath, hauthority, Authority.text, Authority.hostText, hcredentials, hhost]

theorem afterPath_eq_nil_iff : u.afterPath = [] ↔ u.query = none ∧ u.fragment = none := by
  cases hquery : u.query <;> cases hfragment : u.fragment <;> simp [afterPath, hquery, hfragment]

end Url

/-- The form without the path is the scheme, the host and a slash, and whatever query and fragment
the URL has. So there is nothing behind the slash only if the URL has no question mark and no hash
in it. -/
theorem query_and_fragment_kept {s : String} {u : Url} (h : Url.read s = .ok u)
    (hscheme : u.scheme = "http".toList ∨ u.scheme = "https".toList)
    (hcredentials : ∀ a, u.authority = some a → a.credentials = []) :
    ∃ host, Url.hostOf? s = some host ∧
      UrlForm.noPath.render? s =
        some (.ofList u.scheme ++ "://" ++ host ++ "/" ++ .ofList u.afterPath) ∧
      (UrlForm.noPath.render? s = some (.ofList u.scheme ++ "://" ++ host ++ "/") ↔
        '?' ∉ s.toList ∧ '#' ∉ s.toList) := by
  have hspecial : Url.isSpecial u.scheme := by
    rcases hscheme with hscheme | hscheme <;> rw [hscheme] <;> decide
  obtain ⟨⟨a, host, hauthority, hhost⟩, hmarks⟩ := Url.host_and_marks_of_read h hspecial
  have hform : UrlForm.noPath.render? s =
      some (.ofList u.scheme ++ "://" ++ .ofList (host.text ++ a.portText) ++ "/" ++
        .ofList u.afterPath) := by
    rw [UrlForm.render?, Url.rootOf_of_read h hauthority,
      Url.beforePath_of_host hauthority (hcredentials a hauthority) hhost]
    apply congrArg some
    apply String.toList_inj.1
    simp
  refine ⟨_, Url.hostOf?_of_read h hauthority hhost, hform, ?_⟩
  rw [hform, ← hmarks, ← Url.afterPath_eq_nil_iff, Option.some.injEq, ← String.toList_inj]
  simp

theorem query_and_fragment_kept_docs :
    let url := "https://[fd00::1]:443/docs/?tenant=a b#top"
    let u : Url := {
      scheme := "https".toList
      authority := some { host := some (.ipv6 [0xfd00, 0, 0, 0, 0, 0, 0, 1]) }
      path := "/docs/".toList
      query := some "tenant=a%20b".toList
      fragment := some "top".toList }
    Url.read url = .ok u ∧ UrlForm.noPath.render? url = some "https://[fd00::1]/?tenant=a%20b#top" ∧
      UrlForm.noPath.render? url ≠ some "https://[fd00::1]/" := by
  intro url u
  have hread : Url.read url = .ok u := by decide +kernel
  have hhost : Url.hostOf? url = some "[fd00::1]" := by decide +kernel
  obtain ⟨host, hhost', hform, hbare⟩ :=
    query_and_fragment_kept hread (.inr rfl) (by rintro a ⟨⟩; rfl)
  cases hhost'.symm.trans hhost
  exact ⟨hread, hform, mt hbare.1 fun hmarks => hmarks.1 (by decide)⟩

open Sample in
/-- A service on a node of IPv6 whose API is served under a path with a query is exposed at a URL
whose form without the path has the query in it. -/
theorem query_in_form_without_path :
    let url := "http://[fd00::1]:30080/docs?tenant=a"
    (∃ e, (Strategy.nodePort "fd00::1").add
      (atNode (.ofList [( Annotation.apiServicePath, "/docs?tenant=a")])) {} = .ok e ∧
      e.service.exposedUrl? = some url) ∧
    (∃ u, Url.read url = .ok u ∧ u.scheme = "http".toList ∧
      u.authority.map (·.credentials) = some []) ∧
    Url.hostOf? url = some "[fd00::1]:30080" ∧
    UrlForm.noPath.render? url = some "http://[fd00::1]:30080/?tenant=a" ∧
    UrlForm.noPath.render? url ≠ some ("http" ++ "://" ++ "[fd00::1]:30080" ++ "/") := by
  refine ⟨⟨_, Strategy.add_eq_ok_iff.2 ⟨[], rfl, rfl⟩, by decide⟩, ⟨_, rfl, ?_⟩, ?_⟩
  · decide +kernel
  · decide +kernel

end ServiceExposure
