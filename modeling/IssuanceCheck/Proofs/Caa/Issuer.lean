import IssuanceCheck.Caa.Policy
import IssuanceCheck.Proofs.Text.Trim

namespace IssuanceCheck.Caa

open Text

variable {c : Char} {lead d tail rest : List Char}

def isPadding (c : Char) : Bool := c == ' ' || c == '\t'

theorem isPadding_iff : isPadding c = true ↔ c = ' ' ∨ c = '\t' := by
  rw [isPadding, Bool.or_eq_true, beq_iff_eq, beq_iff_eq]

theorem isPadding_eq_false_iff : isPadding c = false ↔ c ≠ ' ' ∧ c ≠ '\t' := by
  rw [Bool.eq_false_iff, Ne, isPadding_iff, not_or]

theorem semicolon_not_mem_padding (h : ∀ c ∈ lead, isPadding c = true) : ';' ∉ lead :=
  fun hc => absurd (h ';' hc) (by decide)

theorem issuerChars_eq (value : List Char) :
    issuerChars value = trimWhile isPadding (value.takeWhile (· ≠ ';')) := rfl

structure IsIssuer (d : List Char) : Prop where
  semicolon : ';' ∉ d
  head : ∀ c, d.head? = some c → isPadding c = false
  last : ∀ c, d.getLast? = some c → isPadding c = false

theorem IsIssuer.trimWhile_padded (h : IsIssuer d) (hlead : ∀ c ∈ lead, isPadding c = true)
    (htail : ∀ c ∈ tail, isPadding c = true) : trimWhile isPadding (lead ++ d ++ tail) = d := by
  rw [trimWhile, dropEndWhile_dropWhile_append hlead htail, ← trimWhile,
    trimWhile_eq_self h.head h.last]

theorem takeWhile_append_semicolon (front rest : List Char) :
    (front ++ ';' :: rest).takeWhile (· ≠ ';') = front.takeWhile (· ≠ ';') := by
  rw [List.takeWhile_append]
  split
  next h =>
    rw [(List.takeWhile_prefix _).eq_of_length h, List.takeWhile_cons_of_neg (by decide),
      List.append_nil]
  next => rfl

theorem issuerChars_append_semicolon (front rest : List Char) :
    issuerChars (front ++ ';' :: rest) = issuerChars front := by
  rw [issuerChars_eq, issuerChars_eq, takeWhile_append_semicolon]

theorem issuerChars_of_semicolon_not_mem (h : ';' ∉ d) :
    issuerChars d = trimWhile isPadding d := by
  rw [issuerChars_eq, List.takeWhile_eq_self_iff.2]
  intro c hc
  exact decide_eq_true fun he => h (he ▸ hc)

theorem isIssuer_issuerChars (value : List Char) : IsIssuer (issuerChars value) where
  semicolon hc := by
    have hmem : ';' ∈ value.takeWhile (· ≠ ';') := (trimWhile_sublist isPadding _).subset hc
    simpa using List.mem_takeWhile_imp hmem
  head _ h := not_of_head_trimWhile h
  last _ h := not_of_last_trimWhile h

/-- The parts of a value: padding, the issuer, padding, and what begins with a semicolon. -/
structure HasParts (value lead d tail rest : List Char) : Prop where
  parts : value = lead ++ d ++ tail ++ rest
  lead : ∀ c ∈ lead, isPadding c = true
  tail : ∀ c ∈ tail, isPadding c = true
  rest : rest = [] ∨ rest.head? = some ';'

theorem exists_parts (value : List Char) :
    ∃ lead tail rest, HasParts value lead (issuerChars value) tail rest := by
  obtain ⟨tail, hfront, htail⟩ := eq_trimWhile_append isPadding (value.takeWhile (· ≠ ';'))
  refine ⟨(value.takeWhile (· ≠ ';')).takeWhile isPadding, tail, value.dropWhile (· ≠ ';'), ?_,
    fun c hc => List.mem_takeWhile_imp hc, htail, ?_⟩
  · rw [issuerChars_eq, List.append_assoc _ _ tail, ← hfront, List.takeWhile_append_dropWhile]
  · have hstop := List.head?_dropWhile_not (· ≠ ';') value
    cases hrest : value.dropWhile (· ≠ ';') with
    | nil => exact .inl rfl
    | cons c rest =>
        rw [hrest] at hstop
        exact .inr (by simpa using hstop)

theorem HasParts.issuerChars {value : List Char} (h : HasParts value lead d tail rest)
    (hd : IsIssuer d) : issuerChars value = d := by
  have hsemicolon : ';' ∉ lead ++ d ++ tail := by
    rw [List.mem_append, List.mem_append, not_or, not_or]
    exact ⟨⟨semicolon_not_mem_padding h.lead, hd.semicolon⟩, semicolon_not_mem_padding h.tail⟩
  have hfront : Caa.issuerChars (lead ++ d ++ tail) = d := by
    rw [issuerChars_of_semicolon_not_mem hsemicolon, hd.trimWhile_padded h.lead h.tail]
  rw [h.parts]
  rcases h.rest with rfl | hrest
  · rw [List.append_nil, hfront]
  · obtain ⟨parameters, rfl⟩ := List.head?_eq_some_iff.1 hrest
    rw [issuerChars_append_semicolon, hfront]

theorem count_eq_zero_of_padding (h : ∀ c ∈ lead, isPadding c = true) (hc : isPadding c = false) :
    lead.count c = 0 := by
  rw [List.count_eq_zero]
  intro hmem
  rw [h c hmem] at hc
  cases hc

theorem count_issuerChars (hc : isPadding c = false) (value : List Char) :
    (issuerChars value).count c = (value.takeWhile (· ≠ ';')).count c := by
  obtain ⟨tail, hfront, htail⟩ := eq_trimWhile_append isPadding (value.takeWhile (· ≠ ';'))
  conv_rhs => rw [hfront]
  rw [List.count_append, List.count_append, count_eq_zero_of_padding htail hc,
    count_eq_zero_of_padding (fun _ => List.mem_takeWhile_imp) hc, Nat.zero_add, Nat.add_zero,
    issuerChars_eq]

/-- A value names an issuer if and only if it is that name with spaces and tabs around it and, at
most, a semicolon with anything behind. Parameters do not change the issuer, and in front of them no
character is lost but spaces and tabs. -/
theorem issuer_parses (value : String) :
    (∀ d, issuer value = d ↔
      (';' ∉ d.toList ∧ (∀ c, d.toList.head? = some c → c ≠ ' ' ∧ c ≠ '\t') ∧
        ∀ c, d.toList.getLast? = some c → c ≠ ' ' ∧ c ≠ '\t') ∧
      ∃ p q r : String, value = p ++ d ++ q ++ r ∧ (∀ c ∈ p.toList, c = ' ' ∨ c = '\t') ∧
        (∀ c ∈ q.toList, c = ' ' ∨ c = '\t') ∧ (r = "" ∨ r.toList.head? = some ';')) ∧
    (∀ parameters, issuer (value ++ ";" ++ parameters) = issuer value) ∧
    ∀ c, c ≠ ' ' → c ≠ '\t' →
      (issuer value).toList.count c = (value.toList.takeWhile (· ≠ ';')).count c := by
  simp only [← isPadding_iff, ← isPadding_eq_false_iff]
  refine ⟨fun d => ⟨?_, ?_⟩, fun parameters => ?_, fun c hspace htab => ?_⟩
  · rintro rfl
    obtain ⟨hsemicolon, hhead, hlast⟩ := isIssuer_issuerChars value.toList
    obtain ⟨lead, tail, rest, hparts, hlead, htail, hrest⟩ := exists_parts value.toList
    simp only [issuer, String.toList_ofList]
    refine ⟨⟨hsemicolon, hhead, hlast⟩, String.ofList lead, String.ofList tail,
      String.ofList rest, ?_, ?_, ?_, ?_⟩
    · rw [← String.toList_inj]
      simpa only [String.toList_append, String.toList_ofList] using hparts
    · simpa only [String.toList_ofList] using hlead
    · simpa only [String.toList_ofList] using htail
    · rw [String.toList_ofList]
      exact hrest.imp_left fun h => by rw [h, String.ofList_nil]
  · rintro ⟨⟨hsemicolon, hhead, hlast⟩, p, q, r, rfl, hp, hq, hr⟩
    have hparts : HasParts (p ++ d ++ q ++ r).toList p.toList d.toList q.toList r.toList := by
      refine ⟨by simp only [String.toList_append], hp, hq, hr.imp_left ?_⟩
      rintro rfl
      rfl
    rw [issuer, hparts.issuerChars ⟨hsemicolon, hhead, hlast⟩, String.ofList_toList]
  · have hsemicolon : (value ++ ";" ++ parameters).toList =
        value.toList ++ ';' :: parameters.toList := by
      simp [String.toList_append]
    rw [issuer, hsemicolon, issuerChars_append_semicolon, issuer]
  · rw [issuer, String.toList_ofList]
    exact count_issuerChars (isPadding_eq_false_iff.2 ⟨hspace, htab⟩) value.toList

end IssuanceCheck.Caa
