import IssuanceCheck.Proofs.Idna.Inert
import IssuanceCheck.Url.Parser

namespace IssuanceCheck.Url

open Text

variable {cs : List Char} {host : Option Host}

theorem colon_mem_percentDecode (h : ':' ∈ cs) : 0x3A ∈ percentDecode cs := by
  induction cs using percentDecode.induct with
  | case1 => cases h
  | case2 a b rest high low hlow hhigh ih =>
      have hr : ':' ∈ rest := by
        rcases List.mem_cons.1 h with h | h
        · cases h
        rcases List.mem_cons.1 h with rfl | h
        · cases hhigh
        rcases List.mem_cons.1 h with rfl | h
        · cases hlow
        exact h
      simp only [percentDecode, hhigh, hlow]
      exact List.mem_cons_of_mem _ (ih hr)
  | case3 a b rest hx ih =>
      rw [percentDecode]
      split
      next high low hhigh hlow => exact absurd hlow (hx high low hhigh)
      next => exact List.mem_cons_of_mem _ (ih (List.mem_of_ne_of_mem (by decide) h))
  | case4 c rest hn ih =>
      rw [percentDecode]
      · rcases List.mem_cons.1 h with rfl | h
        · exact List.mem_append_left _ (by decide)
        · exact List.mem_append_right _ (ih h)
      · exact hn

theorem Host.parse_of_colon (hb : cs.head? ≠ some '[') (h : ':' ∈ cs) :
    parse cs = .error .internationalName := by
  have hnone : (decodeStrict? (percentDecode cs)).bind (Idna.toAscii? Idna.isForbiddenInHost) =
      none := by
    cases hd : decodeStrict? (percentDecode cs) with
    | none => rfl
    | some ds =>
        have hm := colon_mem_percentDecode h
        rw [decodeStrict?_eq_some hd, encodeUtf8, List.mem_flatMap] at hm
        obtain ⟨d, hd, hbyte⟩ := hm
        obtain rfl : d = ':' := eq_of_mem_utf8EncodeChar (by decide) hbyte
        exact Idna.isInert_colon.toAscii?_eq_none rfl (by decide) hd
  rw [parse, if_neg hb, hnone]

theorem Host.bracketed_eq_ok {host : Host} (h : bracketed cs = .ok host) :
    cs.getLast? = some ']' := by
  rw [bracketed] at h
  split at h
  next hl => exact hl
  next => cases h

theorem readHost_of_colon {special : Bool} (h : readHost special cs = .ok host) (hc : ':' ∈ cs) :
    cs.getLast? = some ']' := by
  have hmap {read : Except ParseError Host} (hr : read.map some = .ok host) :
      ∃ host, read = .ok host := by
    cases read with
    | error e => cases hr
    | ok host => exact ⟨host, rfl⟩
  by_cases hb : cs.head? = some '['
  · suffices hok : ∃ host, Host.bracketed cs = .ok host from Host.bracketed_eq_ok hok.choose_spec
    cases special with
    | true =>
        have hne : cs.isEmpty = false := List.isEmpty_eq_false_iff.2 (List.ne_nil_of_mem hc)
        rw [readHost, if_pos rfl, hne, Host.parse, if_pos hb] at h
        exact hmap h
    | false =>
        rw [readHost, Host.parseOther, if_pos hb] at h
        exact hmap h
  · cases special with
    | true =>
        rw [readHost, if_pos rfl, Host.parse_of_colon hb hc] at h
        split at h <;> cases h
    | false =>
        have hany : cs.any Host.isForbidden = true := List.any_eq_true.2 ⟨':', hc, by decide⟩
        rw [readHost, Host.parseOther, if_neg hb, hany] at h
        cases h

end IssuanceCheck.Url
