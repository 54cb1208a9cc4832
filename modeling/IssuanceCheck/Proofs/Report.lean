import IssuanceCheck.Proofs.Finding
import IssuanceCheck.Proofs.Ip
import IssuanceCheck.Proofs.Json
import IssuanceCheck.Report.Json
import IssuanceCheck.Report.Reader

namespace IssuanceCheck

namespace Json

variable {α : Type} {write : α → Json} {read : Json → Option α}

@[simp] theorem bool?_bool (b : Bool) : bool? (bool b) = some b := rfl

@[simp] theorem number?_number (n : Nat) : number? (number n) = some n := rfl

@[simp] theorem string?_string (s : String) : string? (string s) = some s := rfl

@[simp] theorem field?_cons (name key : String) (value : Json) (fields : List (String × Json)) :
    field? name (object ((key, value) :: fields)) =
      if name == key then some value else field? name (object fields) := by
  rw [field?, List.lookup_cons]
  cases name == key <;> rfl

theorem list?_array (h : ∀ a, read (write a) = some a) (l : List α) :
    list? read (array (l.map write)) = some l :=
  mapM_map_of_inverse fun a _ => h a

theorem ofOption_eq_null_iff (h : ∀ a, write a ≠ null) {o : Option α} :
    ofOption write o = null ↔ o = none := by
  cases o with
  | none => exact iff_of_true rfl rfl
  | some a => exact iff_of_false (h a) (Option.some_ne_none a)

theorem option?_ofOption (h : ∀ a, read (write a) = some a) (hnull : ∀ a, write a ≠ null)
    (o : Option α) : option? read (ofOption write o) = some o := by
  cases o with
  | none => rfl
  | some a =>
      rw [ofOption, option?, h]
      · rfl
      · exact hnull a

end Json

theorem Finding.ofJson?_json (f : Finding) : ofJson? f.json = some f := by
  have hseverity : Severity.ofJson? (.string f.severity.text) = some f.severity :=
    f.severity.ofText?_text
  simp [ofJson?, json, hseverity]

theorem Fetch.Observation.ofJson?_json (o : Observation) : ofJson? o.json = some o := by
  have hip := IpAddr.ofString?_text o.ip
  have hserver : Json.option? Json.string? (.ofOption .string o.server) = some o.server :=
    Json.option?_ofOption Json.string?_string (fun _ h => by cases h) o.server
  have hstatus : Json.option? Json.number? (.ofOption .number o.status) = some o.status :=
    Json.option?_ofOption Json.number?_number (fun _ h => by cases h) o.status
  simp [ofJson?, json, hip, hserver, hstatus]

namespace Report

theorem Contents.ofJson?_json (r : Report) :
    Contents.ofJson? r.json =
      some ⟨r.domain, r.method, r.isBlocking, r.worst, r.findings, r.observations⟩ := by
  have hmethod := r.method.ofText?_text
  have hworst : Json.option? Severity.ofJson? (.ofOption (fun s => .string s.text) r.worst) =
      some r.worst := Json.option?_ofOption Severity.ofText?_text (fun _ h => by cases h) r.worst
  have hfindings := Json.list?_array Finding.ofJson?_json r.findings
  have hobservations := Json.list?_array Fetch.Observation.ofJson?_json r.observations
  simp [ofJson?, json, hmethod, hworst, hfindings, hobservations]

theorem renderJson_injective : Function.Injective renderJson := by
  intro r r' h
  have hjson : r.json = r'.json := by
    apply Option.some.inj
    rw [← Json.read?_pretty r.json, ← Json.read?_pretty r'.json]
    exact congrArg Json.read? h
  have hcontents := Contents.ofJson?_json r
  rw [hjson, Contents.ofJson?_json r', Option.some.injEq, Contents.mk.injEq] at hcontents
  cases r
  cases r'
  obtain ⟨rfl, rfl, -, -, rfl, rfl⟩ := hcontents
  rfl

/-- A rendered report is a document from which the domain, the method, whether the findings block,
the worst severity, the findings and the observations can be read. It tells reports apart. -/
theorem renderJson_faithful (r : Report) :
    Json.read? r.renderJson = some r.json ∧
    Contents.ofJson? r.json =
      some ⟨r.domain, r.method, r.isBlocking, r.worst, r.findings, r.observations⟩ ∧
    (r.json.field? "worst_severity" = some .null ↔ r.findings = []) ∧
    (∀ s, r.worst = some s → (∃ f ∈ r.findings, f.severity = s) ∧
      ∀ f ∈ r.findings, f.severity.rank ≤ s.rank) ∧
    (∀ o ∈ r.observations, (o.json.field? "status_code" = some .null ↔ o.status = none) ∧
      (o.json.field? "server_header" = some .null ↔ o.server = none)) ∧
    ∀ r' : Report, r'.renderJson = r.renderJson ↔ r' = r := by
  have hworst : .ofOption (fun s : Severity => .string s.text) r.worst = Json.null ↔
      r.findings = [] :=
    (Json.ofOption_eq_null_iff fun _ h => by cases h).trans Finding.worst_eq_none_iff
  have hstatus (o : Fetch.Observation) : .ofOption .number o.status = Json.null ↔ o.status = none :=
    Json.ofOption_eq_null_iff fun _ h => by cases h
  have hserver (o : Fetch.Observation) : .ofOption .string o.server = Json.null ↔ o.server = none :=
    Json.ofOption_eq_null_iff fun _ h => by cases h
  refine ⟨Json.read?_pretty r.json, Contents.ofJson?_json r, ?_, ?_, ?_, ?_⟩
  · simpa [json] using hworst
  · intro s hs
    exact ⟨Finding.exists_of_worst hs, Finding.rank_le_of_worst hs⟩
  · intro o _
    exact ⟨by simpa [Fetch.Observation.json] using hstatus o,
      by simpa [Fetch.Observation.json] using hserver o⟩
  · exact fun r' => renderJson_injective.eq_iff

theorem renderJson_faithful_escaped :
    let finding : Finding := ⟨"CaaIssuanceNotAllowed", "\"ü\" \\ 😀", "two\r\nlines\x01\x7f", .fatal⟩
    let observation : Fetch.Observation :=
      ⟨some 301, none, .v6 (Ipv6.ofList [0x2001, 0xDB8, 0, 0, 0, 0, 0, 1])⟩
    let r : Report := ⟨"a\t.test", .http01, [finding], [observation]⟩
    (Json.read? r.renderJson).bind Contents.ofJson? =
        some ⟨"a\t.test", .http01, true, some .fatal, [finding], [observation]⟩ ∧
      r.json.field? "worst_severity" ≠ some .null ∧
      observation.json.field? "status_code" ≠ some .null ∧
      observation.json.field? "server_header" = some .null := by
  intro finding observation r
  obtain ⟨hread, hcontents, hworst, -, hmissing, -⟩ := renderJson_faithful r
  obtain ⟨hstatus, hserver⟩ := hmissing observation (List.mem_singleton_self observation)
  refine ⟨?_, mt hworst.1 (List.cons_ne_nil finding []), mt hstatus.1 (by decide), hserver.2 rfl⟩
  rw [hread, Option.bind_some, hcontents]
  rfl

end Report

end IssuanceCheck
