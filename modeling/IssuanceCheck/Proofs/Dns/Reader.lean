import IssuanceCheck.Proofs.Dns.Name

namespace IssuanceCheck.Dns.Reader

variable {α β : Type} {r : Reader α} {f : α → Reader β} {message message' : List UInt8}
  {pos stop k m n least : Nat}

theorem bind_eq_ok_iff {b : β} :
    (r >>= f) message pos = .ok (b, stop) ↔
      ∃ a mid, r message pos = .ok (a, mid) ∧ f a message mid = .ok (b, stop) := by
  simp only [bind]
  cases r message pos with
  | error e => simp
  | ok found => simp [Prod.ext_iff]

theorem bind_error {e : DecodeError} (h : r message pos = .error e) (f : α → Reader β) :
    (r >>= f) message pos = .error e := by
  simp only [bind, h]

/-- A reader that takes at least so many bytes, that depends on no byte behind its end, and that
fails on a message cut off before it. -/
structure IsExact (least : Nat) (r : Reader α) : Prop where
  forward {message : List UInt8} {pos stop : Nat} {a : α} (hpos : pos ≤ message.length)
    (h : r message pos = .ok (a, stop)) : pos + least ≤ stop ∧ stop ≤ message.length
  congr {message message' : List UInt8} {pos stop : Nat} {a : α} (hpos : pos ≤ message.length)
    (h : r message pos = .ok (a, stop)) (ht : message'.take stop = message.take stop) :
    r message' pos = .ok (a, stop)
  cut {message : List UInt8} {pos stop k : Nat} {a : α} (hpos : pos ≤ message.length)
    (h : r message pos = .ok (a, stop)) (hk : pos ≤ k) (hstop : k < stop) :
    ∃ e, r (message.take k) pos = .error e

namespace IsExact

theorem pure (a : α) : IsExact 0 (Pure.pure a : Reader α) where
  forward hpos h := by
    cases h
    exact ⟨Nat.le_refl _, hpos⟩
  congr _ h _ := by
    cases h
    rfl
  cut _ h hk hstop := by
    cases h
    exact absurd hstop (Nat.not_lt.2 hk)

theorem fail (least : Nat) (e : DecodeError) : IsExact least (Reader.fail e : Reader α) where
  forward _ h := nomatch h
  congr _ h _ := nomatch h
  cut _ h _ _ := nomatch h

theorem bytes (n : Nat) : IsExact n (Reader.bytes n) where
  forward _ h := by
    rw [Reader.bytes] at h
    split at h
    next hn =>
      cases h
      exact ⟨Nat.le_refl _, hn⟩
    · cases h
  congr {message message' pos stop a} _ h ht := by
    rw [Reader.bytes] at h ⊢
    split at h
    next hn =>
      cases h
      rw [if_pos (length_of_take ht hn), List.take_drop, List.take_drop, ht]
    · cases h
  cut _ h hk hstop := by
    rw [Reader.bytes] at h ⊢
    split at h
    · cases h
      exact ⟨_, if_neg (by rw [List.length_take]; omega)⟩
    · cases h

theorem bind (hr : IsExact least r) (hf : ∀ a, IsExact m (f a)) :
    IsExact (least + m) (r >>= f) where
  forward hpos h := by
    obtain ⟨a, mid, ha, hb⟩ := bind_eq_ok_iff.1 h
    obtain ⟨h₁, hmid⟩ := hr.forward hpos ha
    obtain ⟨h₂, hstop⟩ := (hf a).forward hmid hb
    exact ⟨by omega, hstop⟩
  congr hpos h ht := by
    obtain ⟨a, mid, ha, hb⟩ := bind_eq_ok_iff.1 h
    have hmid := (hr.forward hpos ha).2
    have hle := ((hf a).forward hmid hb).1
    have ha' := hr.congr hpos ha (take_of_take ht (by omega))
    exact bind_eq_ok_iff.2 ⟨a, mid, ha', (hf a).congr hmid hb ht⟩
  cut {message pos stop k b} hpos h hk hstop := by
    obtain ⟨a, mid, ha, hb⟩ := bind_eq_ok_iff.1 h
    have hmid := (hr.forward hpos ha).2
    by_cases hcut : k < mid
    · obtain ⟨e, he⟩ := hr.cut hpos ha hk hcut
      exact ⟨e, bind_error he f⟩
    · -- what `r` reads is still there, and the cut is in what `f` reads
      have ht : (message.take k).take mid = message.take mid := by
        rw [List.take_take, Nat.min_eq_left (Nat.not_lt.1 hcut)]
      obtain ⟨e, he⟩ := (hf a).cut hmid hb (Nat.not_lt.1 hcut) hstop
      refine ⟨e, ?_⟩
      simp only [Bind.bind, hr.congr hpos ha ht, he]

theorem mono (hr : IsExact m r) (h : least ≤ m) : IsExact least r where
  forward hpos ha := ⟨by have := (hr.forward hpos ha).1; omega, (hr.forward hpos ha).2⟩
  congr := hr.congr
  cut := hr.cut

theorem number (n : Nat) : IsExact n (Reader.number n) :=
  (bytes n).bind fun _ => pure _

theorem times (hr : IsExact least r) (n : Nat) : IsExact (n * least) (Reader.times n r) := by
  induction n with
  | zero => exact (pure []).mono (Nat.le_of_eq (Nat.zero_mul least))
  | succ n ih =>
      rw [Nat.succ_mul, Nat.add_comm]
      exact hr.bind fun a => ih.bind fun rest => pure (a :: rest)

theorem name : IsExact 1 Reader.name where
  forward _ h := by
    have hb := (labels_eq_ok_iff.1 h).bounds
    exact ⟨hb.1, hb.2.1⟩
  congr _ h ht :=
    labels_eq_ok_iff.2
      ((labels_eq_ok_iff.1 h).congr (Nat.le_refl _) (Nat.le_refl _) (by simp) ht)
  cut _ h hk hstop := (labels_eq_ok_iff.1 h).cut hk hstop

end IsExact

theorem times_length {as : List α} (h : times n r message pos = .ok (as, stop)) :
    as.length = n := by
  induction n generalizing as pos with
  | zero =>
      cases h
      rfl
  | succ n ih =>
      obtain ⟨a, mid, _, h⟩ := bind_eq_ok_iff.1 h
      obtain ⟨rest, mid', hr, h⟩ := bind_eq_ok_iff.1 h
      cases h
      rw [List.length_cons, ih hr]

end Reader

theorem question_isExact : Reader.IsExact 5 question :=
  Reader.IsExact.name.bind fun _ => (Reader.IsExact.number 4).bind fun _ => .pure ()

theorem answer_isExact : Reader.IsExact 11 answer :=
  Reader.IsExact.name.bind (m := 10) fun _ =>
    (Reader.IsExact.number 2).bind (m := 8) fun _ =>
      (Reader.IsExact.number 6).bind (m := 2) fun _ =>
        (Reader.IsExact.number 2).bind (m := 0) fun n =>
          ((Reader.IsExact.bytes n).mono (Nat.zero_le n)).bind fun _ => .pure _

theorem headerCounts_isExact : Reader.IsExact 12 headerCounts := by
  refine (Reader.IsExact.number 2).bind (m := 10) fun _ =>
    (Reader.IsExact.number 1).bind (m := 9) fun flags => ?_
  simp only
  split
  · exact (Reader.IsExact.number 1).bind (m := 8) fun _ =>
      (Reader.IsExact.number 2).bind (m := 6) fun _ =>
        (Reader.IsExact.number 2).bind (m := 4) fun _ =>
          (Reader.IsExact.number 4).bind fun _ => .pure _
  · exact .fail 9 _

end IssuanceCheck.Dns
