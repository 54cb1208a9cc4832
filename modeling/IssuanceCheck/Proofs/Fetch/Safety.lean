import IssuanceCheck.Proofs.Fetch.Run
import IssuanceCheck.Proofs.Url.Hosted

namespace IssuanceCheck.Fetch

variable {peer : Peer} {pin : Pin} {max hop : Nat} {url : Url} {es : List Exchange}
  {ending : Ending}

theorem Response.RedirectsTo.isHosted {r : Response} {current : Url} {target : Target}
    (h : r.RedirectsTo current target) (hc : current.IsHosted) : target.url.IsHosted := by
  obtain ⟨_, location, text, _, _, hr⟩ := h
  obtain ⟨url, hj, rfl⟩ := resolve_eq_ok_iff.1 hr
  exact Url.join_isHosted hc hj

theorem Run.isHosted (h : Run peer pin max hop url es ending) (hu : url.IsHosted) :
    ∀ e ∈ es, e.url.IsHosted := by
  refine h.forall_url hu fun e _ next he hl => ?_
  obtain ⟨r, target, _, hto, _, rfl⟩ := hl
  exact hto.isHosted he

/-- What the policy makes sure of about a URL that is asked for behind a redirect. -/
structure IsSafe (u : Url) : Prop where
  scheme : u.scheme = "http" ∨ u.scheme = "https"
  port : u.effectivePort? = some 80 ∨ u.effectivePort? = some 443
  host : ∀ host, u.hostText? = some host → ¬".well-known".toList <:+ host.toList

theorem Exchange.LeadsTo.isSafe {e : Exchange} {next : Url} (h : e.LeadsTo max hop next) :
    IsSafe next := by
  obtain ⟨r, target, _, hto, hv, rfl⟩ := h
  exact ⟨(violation?_eq_none_iff.1 hv).2.2.1, effectivePort_of_allowed hto hv,
    fun _ => hostText_of_allowed hv⟩

theorem IsSafe.hostText_isSome {u : Url} (h : IsSafe u) (hu : u.IsHosted) : u.hostText?.isSome := by
  have hw : Url.Kind.ofScheme u.scheme = .web := by
    rcases h.scheme with hs | hs <;> rw [hs] <;> decide
  rw [Url.hostText?, Option.isSome_map]
  exact hu hw

end IssuanceCheck.Fetch
