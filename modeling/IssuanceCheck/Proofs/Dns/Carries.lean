import IssuanceCheck.Dns.Addresses

namespace IssuanceCheck.Dns

variable {α β : Type}

/-- What the records of one kind in an answer carry, in their order. Records of other kinds are
passed over. -/
inductive Carries (kind : α → Record) : List Record → List α → Prop where
  | nil : Carries kind [] []
  | one {answer contents} (a : α) (h : Carries kind answer contents) :
      Carries kind (kind a :: answer) (a :: contents)
  | foreign {answer contents record} (hf : ∀ a, record ≠ kind a)
      (h : Carries kind answer contents) : Carries kind (record :: answer) contents

variable {kind : α → Record} {answer : List Record} {contents : List α}

theorem exists_carries (kind : α → Record) (answer : List Record) :
    ∃ contents, Carries kind answer contents := by
  induction answer with
  | nil => exact ⟨[], .nil⟩
  | cons record answer ih =>
      obtain ⟨contents, h⟩ := ih
      by_cases hk : ∃ a, record = kind a
      · obtain ⟨a, rfl⟩ := hk
        exact ⟨a :: contents, .one a h⟩
      · exact ⟨contents, .foreign (fun a ha => hk ⟨a, ha⟩) h⟩

namespace Carries

theorem filterMap (h : Carries kind answer contents) {read? : Record → Option β} {f : α → β}
    (hkind : ∀ a, read? (kind a) = some (f a))
    (hforeign : ∀ record, (∀ a, record ≠ kind a) → read? record = none) :
    answer.filterMap read? = contents.map f := by
  induction h with
  | nil => rfl
  | one a _ ih => rw [List.filterMap_cons_some (hkind a), ih, List.map_cons]
  | foreign hf _ ih => rw [List.filterMap_cons_none (hforeign _ hf), ih]

theorem mem_iff (hkind : Function.Injective kind) (h : Carries kind answer contents) {a : α} :
    a ∈ contents ↔ kind a ∈ answer := by
  induction h with
  | nil => simp
  | one b _ ih => rw [List.mem_cons, List.mem_cons, ih, hkind.eq_iff]
  | foreign hf _ ih => rw [List.mem_cons, ih, or_iff_right (hf a).symm]

theorem filterMap_caa? {records : List CaaRecord} (h : Carries .caa answer records) :
    answer.filterMap Record.caa? = records := by
  have hmap : answer.filterMap Record.caa? = records.map id :=
    h.filterMap (fun _ => rfl) fun record hf => by
      cases record with
      | caa r => exact absurd rfl (hf r)
      | _ => rfl
  rwa [List.map_id] at hmap

theorem filterMap_ipv6? {ips : List Ipv6} (h : Carries .aaaa answer ips) :
    answer.filterMap Record.ipv6? = ips.map .v6 :=
  h.filterMap (fun _ => rfl) fun record hf => by
    cases record with
    | aaaa ip => exact absurd rfl (hf ip)
    | _ => rfl

theorem filterMap_ipv4? {ips : List Ipv4} (h : Carries .a answer ips) :
    answer.filterMap Record.ipv4? = ips.map .v4 :=
  h.filterMap (fun _ => rfl) fun record hf => by
    cases record with
    | a ip => exact absurd rfl (hf ip)
    | _ => rfl

end Carries

theorem carries_caa_iff {records : List CaaRecord} :
    Carries .caa answer records ↔ answer.filterMap Record.caa? = records := by
  refine ⟨Carries.filterMap_caa?, ?_⟩
  rintro rfl
  obtain ⟨records, h⟩ := exists_carries Record.caa answer
  exact h.filterMap_caa? ▸ h

theorem filterMap_caa?_eq_nil_iff : answer.filterMap Record.caa? = [] ↔ ∀ r, .caa r ∉ answer := by
  obtain ⟨records, h⟩ := exists_carries Record.caa answer
  rw [h.filterMap_caa?, List.eq_nil_iff_forall_not_mem]
  exact forall_congr' fun r => not_congr (h.mem_iff fun _ _ he => Record.caa.inj he)

end IssuanceCheck.Dns
