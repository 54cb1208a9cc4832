import IssuanceCheck.Proofs.Dns.Composed

namespace IssuanceCheck.Dns

open Reader

variable {name : String} {message : List UInt8} {records : List CaaRecord}
  {entries : List (Nat × List UInt8)} {n : Nat}

theorem answerSection_isExact : IsExact 12 answerSection :=
  headerCounts_isExact.bind (m := 0) fun counts =>
    ((question_isExact.times counts.1).bind fun _ => answer_isExact.times counts.2).mono
      (Nat.zero_le _)

theorem answerSection_counts (h : answerSection message 0 = .ok (entries, n)) :
    ∃ questions start passed mid,
      headerCounts message 0 = .ok ((questions, entries.length), start) ∧
        times questions question message start = .ok (passed, mid) ∧ passed.length = questions ∧
        times entries.length answer message mid = .ok (entries, n) ∧
        12 + questions * 5 + entries.length * 11 ≤ n := by
  obtain ⟨⟨questions, answers⟩, start, hc, h⟩ := bind_eq_ok_iff.1 h
  obtain ⟨passed, mid, hq, ha⟩ := bind_eq_ok_iff.1 h
  obtain rfl : entries.length = answers := times_length ha
  obtain ⟨hstart, hs⟩ := headerCounts_isExact.forward (Nat.zero_le _) hc
  obtain ⟨hmid, hm⟩ := (question_isExact.times _).forward hs hq
  have hn := ((answer_isExact.times _).forward hm ha).1
  exact ⟨questions, start, passed, mid, hc, hq, times_length hq, ha, by omega⟩

theorem caaRecords_eq_ok_iff :
    caaRecords name message = .ok records ↔
      ∃ entries n, answerSection message 0 = .ok (entries, n) ∧
        (entries.filter (·.1 = RecordType.caa.code)).filterMap
          (fun e => CaaRecord.ofRdata? name e.2) = records := by
  rw [caaRecords]
  cases answerSection message 0 with
  | error e => simp
  | ok found => simp [Prod.ext_iff]

theorem caaRecords_of_error {e : DecodeError} (h : answerSection message 0 = .error e)
    (name : String) : caaRecords name message = .error e := by
  rw [caaRecords, h]

/-- The records of a message are settled where its answers end: a message that is cut off before
that has no records but an error, whatever stands behind it changes nothing, and no fewer questions
and answers than its header announces lie before it. -/
theorem caaRecords_truncated (name : String) (message : List UInt8) (records : List CaaRecord)
    (h : caaRecords name message = .ok records) :
    ∃ n ≤ message.length,
      (∃ entries questions start passed mid,
        headerCounts message 0 = .ok ((questions, entries.length), start) ∧
          times questions question message start = .ok (passed, mid) ∧ passed.length = questions ∧
          times entries.length answer message mid = .ok (entries, n) ∧
          12 + questions * 5 + entries.length * 11 ≤ n) ∧
        (∀ k < n, ∃ e, caaRecords name (message.take k) = .error e) ∧
        ∀ rest, caaRecords name (message.take n ++ rest) = .ok records := by
  obtain ⟨entries, n, ha, hr⟩ := caaRecords_eq_ok_iff.1 h
  have hn := (answerSection_isExact.forward (Nat.zero_le _) ha).2
  refine ⟨n, hn, ⟨entries, answerSection_counts ha⟩, fun k hk => ?_, fun rest => ?_⟩
  · obtain ⟨e, he⟩ := answerSection_isExact.cut (Nat.zero_le _) ha (Nat.zero_le k) hk
    exact ⟨e, caaRecords_of_error he name⟩
  · have ht : (message.take n ++ rest).take n = message.take n :=
      List.take_left' (List.length_take_of_le hn)
    exact caaRecords_eq_ok_iff.2
      ⟨entries, n, answerSection_isExact.congr (Nat.zero_le _) ha ht, hr⟩

/-- The record that forbids issuance comes last, with a pointer for its owner and one byte behind. -/
theorem caaRecords_truncated_last_record :
    let question : Message.Question := ⟨[[0x63, 0x61]], 257, 1⟩
    let message : Message := ⟨0, 0x81, 0x80, [question],
      [⟨.ofQuestion 0, 5, 1, 60, [0xC0, 0x0C]⟩,
        ⟨.ofQuestion 0, 257, 1, 60, [0, 5, 0x69, 0x73, 0x73, 0x75, 0x65, 0x3B]⟩], 0, 0⟩
    let received := message.bytes ++ [0xC0]
    caaRecords "ca" received = .ok [⟨"ca", 0, "issue", ";"⟩] ∧
      ∃ n ≤ received.length, (∀ k < n, ∃ e, caaRecords "ca" (received.take k) = .error e) ∧
        ∀ rest, caaRecords "ca" (received.take n ++ rest) = .ok [⟨"ca", 0, "issue", ";"⟩] := by
  intro question message received
  have hlegal : message.IsLegal := ⟨by decide, by decide, by decide⟩
  have h : caaRecords "ca" received = .ok [⟨"ca", 0, "issue", ";"⟩] := by
    rw [caaRecords_bytes hlegal]
    decide +kernel
  obtain ⟨n, hn, -, hcut, hrest⟩ := caaRecords_truncated "ca" received _ h
  exact ⟨h, n, hn, hcut, hrest⟩

end IssuanceCheck.Dns
