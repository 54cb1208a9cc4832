import IssuanceCheck.Proofs.Fetch.Findings
import IssuanceCheck.Proofs.Text.Lowercase
import Mathlib.Data.List.Infix

namespace IssuanceCheck.Fetch

open Text

variable {c : Char} {cs word : List Char}

/-- A text that holds a signature, up to the case of ASCII letters. -/
def HoldsSignature (cs : List Char) : Prop :=
  ∃ signature ∈ ["server gave http response to https client", "invalidcontenttype",
      "received corrupt message", "wrong version number"],
    signature.toList <:+: toAsciiLower cs

theorem holdsSignature_iff : HoldsSignature cs ↔
    ∃ signature ∈ mismatchSignatures, signature.toList <:+: toAsciiLower cs :=
  Iff.rfl

instance (cs : List Char) : Decidable (HoldsSignature cs) :=
  decidable_of_iff _ holdsSignature_iff.symm

def isWordChar (c : Char) : Bool := ('a' ≤ c && c ≤ 'z') || c == ' '

theorem signature_steady : ∀ s ∈ mismatchSignatures, IsSteady s.toList ∧ s.toList ≠ [] := by
  decide

theorem signature_letter : ∀ s ∈ mismatchSignatures, 'v' ∈ s.toList := by decide

-- The next two are decided on lists; a bounded statement over characters would go through them all.

theorem signature_wordChar {s : String} (hs : s ∈ mismatchSignatures) :
    ∀ c ∈ s.toList, isWordChar c = true := by
  have hall : ∀ s ∈ mismatchSignatures, s.toList.all isWordChar = true := by decide
  exact List.all_eq_true.1 (hall s hs)

theorem signature_head {s : String} (hs : s ∈ mismatchSignatures) :
    ∃ c ∈ ['i', 'r', 's', 'w'], s.toList.head? = some c := by
  have hany : ∀ s ∈ mismatchSignatures,
      ['i', 'r', 's', 'w'].any (s.toList.head? == some ·) = true := by
    decide
  obtain ⟨c, hc, hhead⟩ := List.any_eq_true.1 (hany s hs)
  exact ⟨c, hc, eq_of_beq hhead⟩

theorem isProtocolMismatch_iff (text : String) :
    isProtocolMismatch text = true ↔ HoldsSignature text.toList := by
  rw [isProtocolMismatch, List.any_eq_true, holdsSignature_iff]
  refine exists_congr fun s => and_congr_right fun hs => ?_
  obtain ⟨hsteady, hne⟩ := signature_steady s hs
  rw [occursIn_iff, hsteady.infix_toLower hne]

theorem holdsSignature_append_cons (hc : isWordChar c.toLower = false) (a b : List Char) :
    HoldsSignature (a ++ c :: b) ↔ HoldsSignature a ∨ HoldsSignature b := by
  have hsplit (s : String) (hs : s ∈ mismatchSignatures) :
      s.toList <:+: toAsciiLower (a ++ c :: b) ↔
        s.toList <:+: toAsciiLower a ∨ s.toList <:+: toAsciiLower b := by
    rw [toAsciiLower, List.map_append, List.map_cons]
    refine infix_append_cons_iff fun hmem => ?_
    rw [signature_wordChar hs _ hmem] at hc
    cases hc
  constructor
  · rintro ⟨s, hs, h⟩
    exact ((hsplit s hs).1 h).imp (⟨s, hs, ·⟩) (⟨s, hs, ·⟩)
  · rintro (⟨s, hs, h⟩ | ⟨s, hs, h⟩)
    · exact ⟨s, hs, (hsplit s hs).2 (.inl h)⟩
    · exact ⟨s, hs, (hsplit s hs).2 (.inr h)⟩

theorem not_holdsSignature_nil : ¬HoldsSignature [] := by decide

theorem holdsSignature_cons_of_not_wordChar (hc : isWordChar c.toLower = false) (cs : List Char) :
    HoldsSignature (c :: cs) ↔ HoldsSignature cs := by
  rw [← List.nil_append (c :: cs), holdsSignature_append_cons hc]
  exact or_iff_right not_holdsSignature_nil

theorem not_holdsSignature (h : 'v' ∉ toAsciiLower cs) : ¬HoldsSignature cs := by
  rintro ⟨s, hs, hw⟩
  exact h (hw.subset (signature_letter s hs))

theorem holdsSignature_cons_iff (c : Char) (cs : List Char) : HoldsSignature (c :: cs) ↔
    (∃ s ∈ mismatchSignatures, s.toList <+: toAsciiLower (c :: cs)) ∨ HoldsSignature cs := by
  simp only [holdsSignature_iff, toAsciiLower, List.map_cons, List.infix_cons_iff, and_or_left,
    exists_or]

theorem holdsSignature_cons_of_ne (hc : c.toLower ∉ ['i', 'r', 's', 'w']) (cs : List Char) :
    HoldsSignature (c :: cs) ↔ HoldsSignature cs := by
  rw [holdsSignature_cons_iff]
  refine or_iff_right ?_
  rintro ⟨s, hs, hw⟩
  obtain ⟨d, hd, hhead⟩ := signature_head hs
  obtain ⟨tail, heq⟩ := List.head?_eq_some_iff.1 hhead
  rw [heq] at hw
  obtain rfl := (List.cons_prefix_cons.1 hw).1
  exact hc hd

theorem isWordChar_of_not_ascii (hc : 0x80 ≤ c.toNat) : isWordChar c.toLower = false := by
  rw [toLower_of_not_ascii hc, Bool.eq_false_iff]
  intro hw
  simp only [isWordChar, Bool.or_eq_true, Bool.and_eq_true, decide_eq_true_eq, beq_iff_eq] at hw
  rcases hw with ⟨-, hz⟩ | rfl
  · exact absurd (Nat.le_trans hc hz) (by decide)
  · exact absurd hc (by decide)

theorem escapeChar_of_wordChar (h : isWordChar c.toLower = true) : escapeChar c = [c] := by
  by_cases hc : c.toNat < 0x80
  · refine forall_asciiChar (P := fun c => isWordChar c.toLower = true → escapeChar c = [c])
      ?_ hc h
    decide +kernel
  · rw [isWordChar_of_not_ascii (Nat.not_lt.1 hc)] at h
    cases h

theorem hexDigits_toLower (n : Nat) : 'v' ∉ toAsciiLower (hexDigits n) := by
  have hdigit (n : Nat) : (hexDigit n).toLower ≠ 'v' := by
    have hlt : ∀ m < 16, (hexDigit m).toLower ≠ 'v' := by decide
    have hn := hlt (n % 16) (Nat.mod_lt n (by decide))
    rwa [hexDigit, Nat.mod_mod, ← hexDigit] at hn
  induction n using hexDigits.induct with
  | case1 n h =>
      rw [hexDigits, if_pos h]
      simpa [toAsciiLower] using (hdigit n).symm
  | case2 n h ih =>
      rw [hexDigits, if_neg h]
      rw [toAsciiLower] at ih ⊢
      simp only [List.map_append, List.mem_append, not_or]
      exact ⟨ih, by simpa using (hdigit n).symm⟩

theorem not_wordChar_of_escaped (h : escapeChar c ≠ [c]) : isWordChar c.toLower = false :=
  Bool.eq_false_iff.2 (mt escapeChar_of_wordChar h)

theorem escapeChar_eq (c : Char) : escapeChar c = [c] ∨
    (∃ d, escapeChar c = ['\\', d] ∧ (c ≠ '\r' → d.toLower ∉ ['i', 'r', 's', 'w'])) ∨
      ∃ n, escapeChar c = '\\' :: 'u' :: '\x7b' :: (hexDigits n ++ ['\x7d']) := by
  rw [escapeChar]
  split_ifs with hquote hslash hfeed hreturn htab hnull hhidden
  · exact .inr (.inl ⟨'"', rfl, fun _ => by decide⟩)
  · exact .inr (.inl ⟨'\\', rfl, fun _ => by decide⟩)
  · exact .inr (.inl ⟨'n', rfl, fun _ => by decide⟩)
  · exact .inr (.inl ⟨'r', rfl, fun hne => absurd hreturn hne⟩)
  · exact .inr (.inl ⟨'t', rfl, fun _ => by decide⟩)
  · exact .inr (.inl ⟨'0', rfl, fun _ => by decide⟩)
  · exact .inr (.inr ⟨c.toNat, rfl⟩)
  · exact .inl rfl

theorem prefix_escaped_iff (hw : ∀ d ∈ word, isWordChar d = true) (cs : List Char) :
    word <+: toAsciiLower (cs.flatMap escapeChar) ↔ word <+: toAsciiLower cs := by
  induction cs generalizing word with
  | nil => rfl
  | cons c rest ih =>
      cases word with
      | nil => exact iff_of_true List.nil_prefix List.nil_prefix
      | cons d tail =>
          have hd : isWordChar d = true := hw d List.mem_cons_self
          rw [List.flatMap_cons, toAsciiLower, toAsciiLower, List.map_append, List.map_cons,
            List.cons_prefix_cons]
          by_cases hc : isWordChar c.toLower = true
          · rw [escapeChar_of_wordChar hc]
            exact List.cons_prefix_cons.trans
              (and_congr_right fun _ => ih fun e he => hw e (List.mem_cons_of_mem d he))
          · refine iff_of_false (fun hpre => ?_) fun hpre => hc (hpre.1 ▸ hd)
            rcases escapeChar_eq c with heq | ⟨e, heq, -⟩ | ⟨n, heq⟩
            · rw [heq] at hpre
              exact hc ((List.cons_prefix_cons.1 hpre).1 ▸ hd)
            · rw [heq] at hpre
              exact absurd ((List.cons_prefix_cons.1 hpre).1 ▸ hd) (by decide)
            · rw [heq] at hpre
              exact absurd ((List.cons_prefix_cons.1 hpre).1 ▸ hd) (by decide)

/-- Escaping neither makes nor breaks a signature, save that the letter of an escaped carriage
return could begin one. -/
theorem holdsSignature_escaped_iff (h : '\r' ∉ cs) :
    HoldsSignature (cs.flatMap escapeChar) ↔ HoldsSignature cs := by
  induction cs with
  | nil => rfl
  | cons c rest ih =>
      obtain ⟨hc, hrest⟩ := not_or.1 (mt List.mem_cons.2 h)
      rcases escapeChar_eq c with heq | ⟨d, heq, hd⟩ | ⟨n, heq⟩
      · have hbegins (s : String) (hs : s ∈ mismatchSignatures) :=
          prefix_escaped_iff (signature_wordChar hs) (c :: rest)
        rw [List.flatMap_cons, heq] at hbegins ⊢
        rw [List.singleton_append] at hbegins ⊢
        rw [holdsSignature_cons_iff, holdsSignature_cons_iff, ih hrest]
        exact or_congr_left (exists_congr fun s => and_congr_right (hbegins s))
      · have hplain := not_wordChar_of_escaped (c := c) (by rw [heq]; simp)
        rw [List.flatMap_cons, heq, holdsSignature_cons_of_not_wordChar hplain, ← ih hrest]
        exact (holdsSignature_cons_of_ne (by decide) _).trans
          (holdsSignature_cons_of_ne (hd (Ne.symm hc)) _)
      · have hplain := not_wordChar_of_escaped (c := c) (by rw [heq]; simp)
        have hopen : ¬HoldsSignature ['\\', 'u'] := not_holdsSignature (by decide)
        have hdigits : ¬HoldsSignature (hexDigits n) := not_holdsSignature (hexDigits_toLower n)
        have hsplit : (c :: rest).flatMap escapeChar =
            ['\\', 'u'] ++ '\x7b' :: (hexDigits n ++ '\x7d' :: rest.flatMap escapeChar) := by
          simp [heq]
        rw [hsplit, holdsSignature_append_cons (by decide), or_iff_right hopen,
          holdsSignature_append_cons (by decide), or_iff_right hdigits,
          holdsSignature_cons_of_not_wordChar hplain, ih hrest]

theorem mark_not_wordChar : isWordChar ('"'.toLower) = false := by decide

theorem quoted_toList (s : String) :
    (quoted s).toList = '"' :: (s.toList.flatMap escapeChar ++ ['"']) := by
  rw [quoted, String.toList_ofList]
  rfl

theorem holdsSignature_around_quoted (front back : List Char) (s : String) :
    HoldsSignature (front ++ (quoted s).toList ++ back) ↔
      HoldsSignature front ∨ HoldsSignature (quoted s).toList ∨ HoldsSignature back := by
  have hsplit : front ++ (quoted s).toList ++ back =
      front ++ '"' :: (s.toList.flatMap escapeChar ++ '"' :: back) := by
    simp [quoted_toList]
  rw [hsplit, quoted_toList, holdsSignature_append_cons mark_not_wordChar,
    holdsSignature_append_cons mark_not_wordChar,
    holdsSignature_cons_of_not_wordChar mark_not_wordChar,
    holdsSignature_append_cons mark_not_wordChar, or_iff_left not_holdsSignature_nil]

theorem holdsSignature_quoted_iff {s : String} (h : '\r' ∉ s.toList) :
    HoldsSignature (quoted s).toList ↔ HoldsSignature s.toList := by
  rw [quoted_toList, holdsSignature_cons_of_not_wordChar mark_not_wordChar,
    holdsSignature_append_cons mark_not_wordChar, or_iff_left not_holdsSignature_nil,
    holdsSignature_escaped_iff h]

theorem duration_toLower (d : Duration) : 'v' ∉ toAsciiLower d.text.toList := by
  rw [Duration.text, String.toList_ofList, toAsciiLower, List.mem_map]
  rintro ⟨c, hc, hlower⟩
  rcases Decimal.Binary.isDigit_or_point_of_mem_shortest hc with hdigit | rfl
  · have hascii : c.toNat < 0x80 :=
      Nat.lt_of_le_of_lt (Char.isDigit_iff_toNat.1 hdigit).2 (by decide)
    refine forall_asciiChar (P := fun c => c.isDigit = true → c.toLower ≠ 'v') ?_ hascii hdigit
      hlower
    decide +kernel
  · exact absurd hlower (by decide)

theorem timeout_holdsSignature (url : String) (after : Duration) :
    HoldsSignature (FetchError.timeout url after).message.toList ↔
      HoldsSignature (quoted url).toList := by
  have hfront : ¬HoldsSignature "Get ".toList := not_holdsSignature (by decide)
  have hback : ¬HoldsSignature (": timed out after ".toList ++ after.text.toList ++ "s".toList) := by
    refine not_holdsSignature ?_
    have hafter := duration_toLower after
    rw [toAsciiLower] at hafter ⊢
    rw [List.map_append, List.map_append, List.mem_append, List.mem_append, not_or, not_or]
    exact ⟨⟨by decide, hafter⟩, by decide⟩
  have hmessage : (FetchError.timeout url after).message =
      "Get " ++ quoted url ++ ": timed out after " ++ after.text ++ "s" := rfl
  rw [hmessage]
  simp only [String.toList_append, List.append_assoc]
  rw [← List.append_assoc, ← List.append_assoc (": timed out after ".toList),
    holdsSignature_around_quoted, or_iff_right hfront, or_iff_left hback]

theorem invalidLocation_holdsSignature (location reason : String) :
    HoldsSignature (FetchError.invalidLocation location reason).message.toList ↔
      HoldsSignature (quoted location).toList ∨ HoldsSignature reason.toList := by
  have hfront : ¬HoldsSignature "failed to parse Location header ".toList :=
    not_holdsSignature (by decide)
  have hmessage : (FetchError.invalidLocation location reason).message =
      "failed to parse Location header " ++ quoted location ++ ": " ++ reason := rfl
  have hcolon : ": ".toList = [':', ' '] := rfl
  rw [hmessage]
  simp only [String.toList_append, List.append_assoc]
  rw [← List.append_assoc, holdsSignature_around_quoted, or_iff_right hfront, hcolon]
  exact or_congr_right ((holdsSignature_cons_of_ne (by decide) _).trans
    (holdsSignature_cons_of_ne (by decide) _))

def notWorkingName : IpAddr → String
  | .v6 _ => "AAAANotWorking"
  | .v4 _ => "ANotWorking"

theorem finding_name_of_not_redirect {e : FetchError} (h : ∀ violation, e ≠ .redirect violation)
    (domain : String) (ip : IpAddr) :
    (e.finding domain ip).name =
      if HoldsSignature e.message.toList then "WebserverMisconfiguration" else notWorkingName ip := by
  simp only [← isProtocolMismatch_iff]
  fun_cases FetchError.finding domain ip e with
  | case1 => exact absurd rfl (h _)
  | case2 => exact absurd rfl (h _)
  | case3 => rw [if_pos (by assumption)]; rfl
  | case4 => rw [if_neg (by assumption)]; rfl
  | case5 => rw [if_neg (by assumption)]; rfl

theorem timeout_finding_name (domain : String) (ip : IpAddr) (url : String) (after : Duration) :
    ((FetchError.timeout url after).finding domain ip).name =
      if HoldsSignature (quoted url).toList then "WebserverMisconfiguration"
      else notWorkingName ip := by
  rw [finding_name_of_not_redirect (by simp)]
  simp only [timeout_holdsSignature]

theorem invalidLocation_finding_name (domain : String) (ip : IpAddr) (location reason : String) :
    ((FetchError.invalidLocation location reason).finding domain ip).name =
      if HoldsSignature (quoted location).toList ∨ HoldsSignature reason.toList then
        "WebserverMisconfiguration"
      else notWorkingName ip := by
  rw [finding_name_of_not_redirect (by simp)]
  simp only [invalidLocation_holdsSignature]

/-- A timeout and a location that cannot be used are put down to the family of the address, whatever
the duration is, unless the URL, the location or the reason holds a signature itself. It is the text
as shown that counts, and that text has the signatures of the bare one, except that an escaped
carriage return may begin one. -/
theorem finding_name_of_shown_text (domain : String) (ip : IpAddr) :
    (∀ url after, ((FetchError.timeout url after).finding domain ip).name =
        if HoldsSignature (quoted url).toList then "WebserverMisconfiguration"
        else notWorkingName ip) ∧
      (∀ location reason, ((FetchError.invalidLocation location reason).finding domain ip).name =
        if HoldsSignature (quoted location).toList ∨ HoldsSignature reason.toList then
          "WebserverMisconfiguration"
        else notWorkingName ip) ∧
      ∀ text : String, '\r' ∉ text.toList →
        (HoldsSignature (quoted text).toList ↔ HoldsSignature text.toList) :=
  ⟨timeout_finding_name domain ip, invalidLocation_finding_name domain ip,
    fun _ => holdsSignature_quoted_iff⟩

/-- Two timeouts at one address, and two locations refused for one reason, that are reported as
different findings. The second URL is that of the validation request for a name. -/
theorem finding_name_depends_on_text :
    let ip : IpAddr := .v4 (Ipv4.ofOctets [192, 0, 2, 1])
    let timeout (url : String) := (FetchError.timeout url ⟨10, 0⟩).finding "example.com" ip
    let refused (location : String) :=
      (FetchError.invalidLocation location "invalid IPv6 address").finding "example.com" ip
    (timeout "http://example.com/.well-known/acme-challenge/letsdebug-test").name =
        "ANotWorking" ∧
      (timeout "http://invalidcontenttype.example/.well-known/acme-challenge/letsdebug-test").name =
        "WebserverMisconfiguration" ∧
      (refused "http://[").name = "ANotWorking" ∧
      (refused "http://[wrong version number").name = "WebserverMisconfiguration" := by
  intro ip timeout refused
  have htimeout (url : String) : (timeout url).name =
      if HoldsSignature (quoted url).toList then "WebserverMisconfiguration" else "ANotWorking" :=
    timeout_finding_name "example.com" ip url ⟨10, 0⟩
  have hrefused (location : String) : (refused location).name =
      if HoldsSignature (quoted location).toList ∨ HoldsSignature "invalid IPv6 address".toList then
        "WebserverMisconfiguration"
      else "ANotWorking" :=
    invalidLocation_finding_name "example.com" ip location "invalid IPv6 address"
  exact ⟨(htimeout _).trans (if_neg (by decide +kernel)),
    (htimeout _).trans (if_pos (by decide +kernel)),
    (hrefused _).trans (if_neg (by decide +kernel)),
    (hrefused _).trans (if_pos (by decide +kernel))⟩

end IssuanceCheck.Fetch
