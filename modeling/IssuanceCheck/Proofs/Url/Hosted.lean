import IssuanceCheck.Proofs.Url.Authority

namespace IssuanceCheck.Url

variable {u v b : Url} {scheme : String} {cs rest : List Char}

/-- A URL of a well-known scheme other than `file` has a host. Parsing never yields one without. -/
def IsHosted (u : Url) : Prop := Kind.ofScheme u.scheme = .web → u.host?.isSome

theorem readHost_isSome {host : Option Host} (h : readHost true cs = .ok host) : host.isSome := by
  rw [readHost, if_pos rfl] at h
  split at h
  · cases h
  · cases hp : Host.parse cs with
    | error e =>
        rw [hp] at h
        cases h
    | ok parsed =>
        rw [hp] at h
        cases h
        rfl

theorem afterDoubleSlash_isHosted (h : afterDoubleSlash scheme cs = .ok u) : u.IsHosted := by
  obtain ⟨hs, authority, rest, hu, ha⟩ := afterDoubleSlash_eq_ok h
  obtain ⟨cs', _, hh, _⟩ := readAuthority_eq_ok ha
  intro hw
  have hspecial : (Kind.ofScheme scheme).isSpecial = true := by
    rw [← hs, hw]
    rfl
  rw [hspecial] at hh
  rw [host?, hu]
  exact readHost_isSome hh

theorem IsHosted.congr (h : u.IsHosted) (hs : v.scheme = u.scheme)
    (ha : v.authority = u.authority) : v.IsHosted := by
  rw [IsHosted, host?] at h ⊢
  rwa [hs, ha]

theorem AuthorityFrom.isHosted {base : Option Url} (h : AuthorityFrom base u)
    (hb : ∀ b, base = some b → b.IsHosted) : u.IsHosted := by
  cases h with
  | base he hs ha => exact (hb _ he).congr hs ha
  | text h => exact afterDoubleSlash_isHosted h
  | portless hk _ => exact fun hw => absurd hw hk

theorem join_isHosted (hb : b.IsHosted) {reference : String} (h : b.join reference = .ok u) :
    u.IsHosted :=
  (parseChars_authorityFrom h).isHosted fun _ he => Option.some.inj he ▸ hb

theorem parse_isHosted {text : String} (h : parse text = .ok u) : u.IsHosted :=
  (parseChars_authorityFrom h).isHosted (by simp)

/-- A URL does not write the default port of its scheme. Parsing leaves it out. -/
def OmitsDefaultPort (u : Url) : Prop :=
  ∀ port, u.port? = some port → defaultPort? u.scheme ≠ some port

theorem afterDoubleSlash_omitsDefaultPort (h : afterDoubleSlash scheme cs = .ok u) :
    u.OmitsDefaultPort := by
  obtain ⟨hs, authority, rest, hu, ha⟩ := afterDoubleSlash_eq_ok h
  obtain ⟨cs', _, _, hp⟩ := readAuthority_eq_ok ha
  intro port hport
  rw [port?, hu, Option.bind_some] at hport
  rw [hs]
  rw [readPortBehind.eq_def] at hp
  split at hp
  · split at hp
    · cases hp
    · have hread := (readPort_eq_ok hp).2.2
      rw [hport, eq_comm, Option.filter_eq_some_iff] at hread
      exact of_decide_eq_true hread.2
  · rw [Except.ok.injEq, Prod.mk.injEq, hport] at hp
    cases hp.1

theorem AuthorityFrom.omitsDefaultPort {base : Option Url} (h : AuthorityFrom base u)
    (hb : ∀ b, base = some b → b.OmitsDefaultPort) : u.OmitsDefaultPort := by
  cases h with
  | base he hs ha =>
      intro port hport
      rw [port?, ha] at hport
      rw [hs]
      exact hb _ he port hport
  | text h => exact afterDoubleSlash_omitsDefaultPort h
  | portless _ hp =>
      intro port hport
      rw [hp] at hport
      cases hport

theorem join_omitsDefaultPort (hb : b.OmitsDefaultPort) {reference : String}
    (h : b.join reference = .ok u) : u.OmitsDefaultPort :=
  (parseChars_authorityFrom h).omitsDefaultPort fun _ he => Option.some.inj he ▸ hb

theorem parse_omitsDefaultPort {text : String} (h : parse text = .ok u) : u.OmitsDefaultPort :=
  (parseChars_authorityFrom h).omitsDefaultPort (by simp)

end IssuanceCheck.Url
