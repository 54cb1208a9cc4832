import IssuanceCheck.Finding

namespace IssuanceCheck.Finding

variable {findings : List Finding} {s : Severity}

/-- What the finding over a failed lookup says, word for word. -/
structure IsLookupFailure (f : Finding) (name type reason : String) : Prop where
  name_eq : f.name = "DNSLookupFailed"
  explanation_eq : f.explanation =
    s!"A fatal issue occurred during the DNS lookup process for {name}/{type}."
  detail_eq : f.detail = reason
  severity_eq : f.severity = .fatal

theorem isLookupFailure_dnsLookupFailed (name type reason : String) :
    (dnsLookupFailed name type reason).IsLookupFailure name type reason :=
  ⟨rfl, rfl, rfl, rfl⟩

theorem isBlocking_iff (f : Finding) :
    f.isBlocking = true ↔ f.severity = .error ∨ f.severity = .fatal := by
  simp only [isBlocking, decide_eq_true_eq]
  cases f.severity <;> decide

theorem severity_max_eq (a b : Severity) : a.max b = a ∨ a.max b = b := by
  rw [Severity.max]
  split
  · exact .inr rfl
  · exact .inl rfl

theorem worst_cons (f : Finding) (findings : List Finding) :
    worst (f :: findings) = some (findings.foldl (fun s f => s.max f.severity) f.severity) := by
  rw [worst]
  rw [List.foldl_cons]
  generalize f.severity = s
  induction findings generalizing s with
  | nil => rfl
  | cons f findings ih => exact ih (s.max f.severity)

theorem worst_eq_none_iff : worst findings = none ↔ findings = [] := by
  cases findings with
  | nil => exact iff_of_true rfl rfl
  | cons f findings => simp [worst_cons]

theorem foldl_max_mem (findings : List Finding) (s : Severity) :
    findings.foldl (fun s f => s.max f.severity) s = s ∨
      ∃ f ∈ findings, f.severity = findings.foldl (fun s f => s.max f.severity) s := by
  induction findings generalizing s with
  | nil => exact .inl rfl
  | cons f findings ih =>
      rw [List.foldl_cons]
      rcases ih (s.max f.severity) with h | ⟨g, hg, h⟩
      · rw [h]
        rcases severity_max_eq s f.severity with hs | hf
        · exact .inl hs
        · exact .inr ⟨f, List.mem_cons_self, hf.symm⟩
      · exact .inr ⟨g, List.mem_cons_of_mem f hg, h⟩

theorem exists_of_worst (h : worst findings = some s) : ∃ f ∈ findings, f.severity = s := by
  cases findings with
  | nil => exact absurd h (by simp [worst])
  | cons f findings =>
      rw [worst_cons, Option.some.injEq] at h
      rcases foldl_max_mem findings f.severity with hf | ⟨g, hg, hs⟩
      · exact ⟨f, List.mem_cons_self, hf.symm.trans h⟩
      · exact ⟨g, List.mem_cons_of_mem f hg, hs.trans h⟩

theorem rank_max (a b : Severity) : (a.max b).rank = max a.rank b.rank := by
  rw [Severity.max]
  split
  next h => exact (Nat.max_eq_right h).symm
  next h => exact (Nat.max_eq_left (Nat.le_of_not_le h)).symm

theorem rank_le_foldl_max (findings : List Finding) (s : Severity) :
    s.rank ≤ (findings.foldl (fun s f => s.max f.severity) s).rank ∧
      ∀ f ∈ findings,
        f.severity.rank ≤ (findings.foldl (fun s f => s.max f.severity) s).rank := by
  induction findings generalizing s with
  | nil => exact ⟨Nat.le_refl _, fun _ h => absurd h List.not_mem_nil⟩
  | cons f findings ih =>
      obtain ⟨hs, hfindings⟩ := ih (s.max f.severity)
      rw [rank_max, Nat.max_le] at hs
      exact ⟨hs.1, List.forall_mem_cons.2 ⟨hs.2, hfindings⟩⟩

theorem rank_le_of_worst (h : worst findings = some s) :
    ∀ f ∈ findings, f.severity.rank ≤ s.rank := by
  cases findings with
  | nil => exact fun _ hf => absurd hf List.not_mem_nil
  | cons f findings =>
      rw [worst_cons, Option.some.injEq] at h
      exact List.forall_mem_cons.2 (h ▸ rank_le_foldl_max findings f.severity)

end IssuanceCheck.Finding
