import IssuanceCheck.Fetch.Finding
import IssuanceCheck.Proofs.Fetch.Redirect

namespace IssuanceCheck.Fetch

inductive Rule where
  | count
  | port
  | scheme
  | host
deriving DecidableEq, Repr

namespace Rule

variable {target : Target} {hop max : Nat} {rule other : Rule} {violation : Violation}

def rank : Rule → Nat
  | count => 0
  | port => 1
  | scheme => 2
  | host => 3

def IsBroken (target : Target) (hop max : Nat) : Rule → Prop
  | count => max < hop
  | port => ∃ number, target.explicitPort = some number ∧ number ≠ 80 ∧ number ≠ 443
  | scheme => target.url.scheme ≠ "http" ∧ target.url.scheme ≠ "https"
  | host => ∃ name, target.url.hostText? = some name ∧ ".well-known".toList <:+ name.toList

/-- That a rule is broken and none before it is. -/
structure IsFirst (target : Target) (hop max : Nat) (rule : Rule) : Prop where
  broken : rule.IsBroken target hop max
  kept : ∀ other : Rule, other.rank < rule.rank → ¬other.IsBroken target hop max

/-- What the policy says of a target that breaks a rule. -/
inductive Reports (target : Target) (hop : Nat) : Rule → Violation → Prop
  | count : Reports target hop count (.tooManyRedirects (hop - 1) target.url.text)
  | port {number} : target.explicitPort = some number →
      Reports target hop port (.badPort target.url.text number)
  | scheme : Reports target hop scheme (.badScheme target.url.text target.url.scheme)
  | host : Reports target hop host (.missingTrailingSlash target.url.text)

theorem exists_isFirst (h : rule.IsBroken target hop max) :
    ∃ first : Rule, first.IsFirst target hop max := by
  -- Induction on the rank: a broken rule is the first, or there is one before it.
  induction hn : rule.rank using Nat.strongRecOn generalizing rule with
  | ind n ih =>
      by_cases hbefore : ∃ other : Rule, other.rank < rule.rank ∧ other.IsBroken target hop max
      · obtain ⟨other, hlt, hother⟩ := hbefore
        exact ih other.rank (hn ▸ hlt) hother rfl
      · exact ⟨rule, h, fun other hlt hother => hbefore ⟨other, hlt, hother⟩⟩

theorem isFirst_host_iff :
    host.IsFirst target hop max ↔ ∀ rule : Rule, rule.IsBroken target hop max ↔ rule = host := by
  constructor
  · intro h rule
    refine ⟨fun hbroken => ?_, fun heq => heq ▸ h.broken⟩
    cases rule with
    | host => rfl
    | count | port | scheme => exact absurd hbroken (h.kept _ (by decide))
  · intro h
    refine ⟨(h host).2 rfl, fun other hlt hother => ?_⟩
    rw [(h other).1 hother] at hlt
    exact Nat.lt_irrefl _ hlt

theorem Reports.unique {v w : Violation} (hv : rule.Reports target hop v)
    (hw : rule.Reports target hop w) : v = w := by
  cases hv with
  | count | scheme | host => cases hw; rfl
  | port hnumber =>
      cases hw with
      | port hother => rw [Option.some.inj (hnumber.symm.trans hother)]

theorem filter_of_broken {number : Nat} (hnumber : target.explicitPort = some number)
    (h80 : number ≠ 80) (h443 : number ≠ 443) :
    target.explicitPort.filter (· ∉ allowedPorts) = some number :=
  Option.filter_eq_some_iff.2 ⟨hnumber, by simp [allowedPorts, h80, h443]⟩

theorem filter_of_kept (h : ¬port.IsBroken target hop max) :
    target.explicitPort.filter (· ∉ allowedPorts) = none := by
  refine Option.filter_eq_none_iff.2 fun number hnumber hrefused => h ⟨number, hnumber, ?_⟩
  simpa [allowedPorts] using hrefused

theorem endsInWellKnown_iff : endsInWellKnown target.url = true ↔ host.IsBroken target hop max := by
  simp only [endsInWellKnown, Option.any_eq_true, List.isSuffixOf_iff_suffix, IsBroken]
  rfl

theorem IsFirst.exists_reports (h : rule.IsFirst target hop max) :
    ∃ violation, violation? target hop max = some violation ∧
      rule.Reports target hop violation := by
  cases rule with
  | count => exact ⟨_, violation?_eq_some_of_lt h.broken, .count⟩
  | port =>
      have hcount : ¬max < hop := h.kept count (by decide)
      obtain ⟨number, hnumber, h80, h443⟩ := h.broken
      refine ⟨_, ?_, .port hnumber⟩
      rw [violation?, if_neg hcount, filter_of_broken hnumber h80 h443]
  | scheme =>
      have hcount : ¬max < hop := h.kept count (by decide)
      refine ⟨_, ?_, .scheme⟩
      rw [violation?, if_neg hcount, filter_of_kept (h.kept port (by decide))]
      exact if_pos h.broken
  | host =>
      have hcount : ¬max < hop := h.kept count (by decide)
      refine ⟨_, ?_, .host⟩
      rw [violation?, if_neg hcount, filter_of_kept (h.kept port (by decide))]
      exact (if_neg (h.kept scheme (by decide))).trans (if_pos (endsInWellKnown_iff.2 h.broken))

theorem violation?_of_kept (h : ∀ rule : Rule, ¬rule.IsBroken target hop max) :
    violation? target hop max = none := by
  have hcount : ¬max < hop := h count
  rw [violation?, if_neg hcount, filter_of_kept (h port)]
  exact (if_neg (h scheme)).trans (if_neg (mt endsInWellKnown_iff.1 (h host)))

theorem violation?_eq_some_iff : violation? target hop max = some violation ↔
    ∃ rule : Rule, rule.IsFirst target hop max ∧ rule.Reports target hop violation := by
  constructor
  · intro h
    by_cases hbroken : ∃ rule : Rule, rule.IsBroken target hop max
    · obtain ⟨rule, hrule⟩ := hbroken
      obtain ⟨first, hfirst⟩ := exists_isFirst hrule
      obtain ⟨other, hother, hreports⟩ := hfirst.exists_reports
      obtain rfl : violation = other := Option.some.inj (h.symm.trans hother)
      exact ⟨first, hfirst, hreports⟩
    · rw [violation?_of_kept fun rule hrule => hbroken ⟨rule, hrule⟩] at h
      cases h
  · rintro ⟨rule, hfirst, hreports⟩
    obtain ⟨other, hother, hreports'⟩ := hfirst.exists_reports
    rw [hother, hreports.unique hreports']

theorem exists_violation_iff : (∃ violation, violation? target hop max = some violation) ↔
    ∃ rule : Rule, rule.IsBroken target hop max := by
  simp only [violation?_eq_some_iff]
  constructor
  · rintro ⟨_, rule, hfirst, _⟩
    exact ⟨rule, hfirst.broken⟩
  · rintro ⟨rule, hbroken⟩
    obtain ⟨first, hfirst⟩ := exists_isFirst hbroken
    obtain ⟨violation, _, hreports⟩ := hfirst.exists_reports
    exact ⟨violation, first, hfirst, hreports⟩

theorem IsFirst.eq_host_iff (h : rule.IsFirst target hop max) :
    rule = host ↔ ∀ other : Rule, other.IsBroken target hop max ↔ other = host := by
  constructor
  · rintro rfl
    exact isFirst_host_iff.1 h
  · intro honly
    exact (honly rule).1 h.broken

theorem Reports.finding (h : rule.Reports target hop violation) (domain : String) (ip : IpAddr) :
    (FetchError.redirect violation).finding domain ip =
      if rule = Rule.host then redirectMissingTrailingSlash domain violation.message
      else badRedirect domain violation.message := by
  cases h with
  | host => rfl
  | count | port | scheme => rfl

end Rule

/-- The redirect policy refuses a target exactly if a rule is broken, and says which one is broken
first. The finding blames the trailing slash if nothing else is wrong with the target, and has the
text of the broken rule as it is, whatever the text holds and whichever address was dialed. -/
theorem violation_names_first_rule (target : Target) (hop max : Nat) (domain : String)
    (ip : IpAddr) :
    ((∃ violation, violation? target hop max = some violation) ↔
        ∃ rule : Rule, rule.IsBroken target hop max) ∧
      (∀ violation, violation? target hop max = some violation ↔
        ∃ rule : Rule, rule.IsFirst target hop max ∧ rule.Reports target hop violation) ∧
      ∀ violation, violation? target hop max = some violation →
        let finding := (FetchError.redirect violation).finding domain ip
        (finding.name = "RedirectMissingTrailingSlash" ↔
            ∀ rule : Rule, rule.IsBroken target hop max ↔ rule = .host) ∧
          (finding.name = "BadRedirect" ↔
            ∃ rule : Rule, rule.IsBroken target hop max ∧ rule ≠ .host) ∧
          finding.severity = .error ∧ finding.detail = violation.message ∧
          ∀ other : IpAddr, (FetchError.redirect violation).finding domain other = finding := by
  refine ⟨Rule.exists_violation_iff, fun _ => Rule.violation?_eq_some_iff,
    fun violation hv => ?_⟩
  obtain ⟨rule, hfirst, hreports⟩ := Rule.violation?_eq_some_iff.1 hv
  intro finding
  have hfinding : finding = _ := hreports.finding domain ip
  have hany (other : IpAddr) : (FetchError.redirect violation).finding domain other = finding :=
    (hreports.finding domain other).trans hfinding.symm
  by_cases hhost : rule = .host
  · rw [if_pos hhost] at hfinding
    have honly := hfirst.eq_host_iff.1 hhost
    have hname : finding.name = "RedirectMissingTrailingSlash" := congrArg Finding.name hfinding
    refine ⟨iff_of_true hname honly, iff_of_false (by simp [hname]) ?_,
      congrArg Finding.severity hfinding, congrArg Finding.detail hfinding, hany⟩
    rintro ⟨other, hbroken, hother⟩
    exact hother ((honly other).1 hbroken)
  · rw [if_neg hhost] at hfinding
    have hname : finding.name = "BadRedirect" := congrArg Finding.name hfinding
    exact ⟨iff_of_false (by simp [hname]) (mt hfirst.eq_host_iff.2 hhost),
      iff_of_true hname ⟨rule, hfirst.broken, hhost⟩,
      congrArg Finding.severity hfinding, congrArg Finding.detail hfinding, hany⟩

/-- A target with a signature in its text that breaks two rules is named by the first of them. -/
theorem violation_names_first_rule_signature :
    let host : Url.Host := .name "invalidcontenttype.well-known"
    let target : Target := .ofUrl ⟨"ftp", some ⟨"", "", some host, none⟩, .rooted [""], none, none⟩
    let violation : Violation := .badScheme "ftp://invalidcontenttype.well-known/" "ftp"
    let finding := (FetchError.redirect violation).finding "example.com" (.v4 ⟨0⟩)
    violation? target 1 10 = some violation ∧ isProtocolMismatch violation.message = true ∧
      finding.name = "BadRedirect" ∧ finding.detail = violation.message := by
  intro host target violation finding
  have hv : violation? target 1 10 = some violation := by decide +kernel
  obtain ⟨-, -, hfinding⟩ := violation_names_first_rule target 1 10 "example.com" (.v4 ⟨0⟩)
  obtain ⟨-, hname, -, hdetail, -⟩ := hfinding violation hv
  have hscheme : Rule.scheme.IsBroken target 1 10 := ⟨by decide, by decide⟩
  exact ⟨hv, by decide +kernel, hname.2 ⟨.scheme, hscheme, by decide⟩, hdetail⟩

end IssuanceCheck.Fetch
