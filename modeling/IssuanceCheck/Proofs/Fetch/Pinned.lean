import IssuanceCheck.Proofs.Fetch.Dial
import IssuanceCheck.Proofs.Fetch.Findings
import IssuanceCheck.Proofs.Fetch.Safety
import IssuanceCheck.Proofs.Url.Reference

namespace IssuanceCheck.Fetch

open Url (Host)

variable {url : Url} {pin : Pin} {peer : Peer} {max hop : Nat}
  {es : List Exchange} {ending : Ending}

/-- The addresses that an HTTP client dials for a URL, in turn, until one accepts. -/
abbrev Dialer := Resolver → Url → List IpAddr

/-- A client that dials an address in a URL as it is, and asks its resolver for all other hosts. -/
structure Dialer.IsDirect (dialer : Dialer) : Prop where
  address (resolver : Resolver) (url : Url) (ip : IpAddr) :
    url.host? = some (Host.ofAddress ip) → dialer resolver url = [ip]
  name (resolver : Resolver) (url : Url) (n : String) :
    url.host? = some (.name n) → dialer resolver url = (resolver n).map Pin.ip

theorem Dialer.IsDirect.apply {dialer : Dialer} (hd : dialer.IsDirect) (pin : Pin)
    (h : url.host?.isSome) : dialer pin.resolver (pin.apply url).1 = [pin.ip] := by
  obtain ⟨host, hh⟩ := Option.isSome_iff_exists.1 h
  rcases host.name_or_address with ⟨n, rfl⟩ | ⟨literal, rfl⟩
  · rw [pin.apply_of_name hh, hd.name _ _ n hh]
    rfl
  · exact hd.address _ _ pin.ip (pin.host?_apply hh)

theorem clean_startText (domain : String) :
    Url.clean (s!"http://{domain}{challengePath}").toList =
      "http".toList ++ ':' :: '/' :: '/' ::
        (Url.unbroken domain.toList ++ challengePath.toList) := by
  let text := "http://".toList ++ domain.toList ++ challengePath.toList
  have htext : (s!"http://{domain}{challengePath}").toList = [] ++ (text ++ []) := by
    simp [text, String.toList_append, toString]
  have hlast : text.getLast? = some 't' := by
    rw [List.getLast?_append]
    rfl
  have hpath : Url.unbroken challengePath.toList = challengePath.toList := rfl
  have hnil : Url.unbroken (Text.dropEndWhile (fun c => c.toNat ≤ 0x20) []) = [] := rfl
  rw [htext, Url.clean_eq (by simp) rfl (by decide) hlast (by decide)]
  simp only [text, Url.unbroken_append, hpath, hnil, List.append_nil, List.append_assoc]
  rfl

theorem startUrl_eq (domain : String) :
    startUrl domain = Url.afterDoubleSlash "http"
      ((Url.unbroken domain.toList ++ challengePath.toList).dropWhile (Url.isSlash true)) := by
  let behind := Url.unbroken domain.toList ++ challengePath.toList
  have hsplit : Url.splitScheme? ("http".toList ++ ':' :: '/' :: '/' :: behind) =
      some ("http", '/' :: '/' :: behind) := Url.splitScheme?_append rfl rfl _
  rw [startUrl, Url.parse, Url.parseChars, clean_startText, hsplit]
  rfl

theorem startUrl_scheme {domain : String} (h : startUrl domain = .ok url) :
    url.scheme = "http" := by
  rw [startUrl_eq] at h
  exact (Url.afterDoubleSlash_eq_ok h).1

structure IsAskable (u : Url) : Prop where
  scheme : u.scheme = "http" ∨ u.scheme = "https"
  host : u.host?.isSome
  port : u.OmitsDefaultPort

theorem IsAskable.start {domain : String} (h : startUrl domain = .ok url) : IsAskable url := by
  have hs := startUrl_scheme h
  refine ⟨.inl hs, Url.parse_isHosted h ?_, Url.parse_omitsDefaultPort h⟩
  rw [hs]
  rfl

theorem IsAskable.next {e : Exchange} {next : Url} (h : IsAskable e.url)
    (hl : e.LeadsTo max hop next) : IsAskable next := by
  have hsafe := hl.isSafe
  obtain ⟨r, target, _, hto, _, rfl⟩ := hl
  have hosted := hto.isHosted fun _ => h.host
  obtain ⟨_, _, text, _, _, hr⟩ := hto
  obtain ⟨next, hj, rfl⟩ := resolve_eq_ok_iff.1 hr
  -- A URL of the schemes that the policy lets through always has a host.
  refine ⟨hsafe.scheme, ?_, Url.join_omitsDefaultPort h.port hj⟩
  have hsome := hsafe.hostText_isSome hosted
  rwa [Url.hostText?, Option.isSome_map] at hsome

end IssuanceCheck.Fetch
