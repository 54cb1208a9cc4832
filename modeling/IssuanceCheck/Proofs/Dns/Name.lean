import IssuanceCheck.Dns.Message
import Mathlib.Data.List.Basic

namespace IssuanceCheck.Dns.Reader

variable {message message' : List UInt8} {start pos stop k n : Nat} {limit : Option Nat}
  {read name : WireName} {b low : UInt8}

def pointerTarget (b low : UInt8) : Nat := b.toNat % 0x40 * 256 + low.toNat

def labelAt (message : List UInt8) (pos n : Nat) : List UInt8 := (message.drop (pos + 1)).take n

/-- The steps of a reading that succeeds: labels up to the root or up to a pointer, and the name
that the pointer leads to. -/
inductive ReadsLabels (message : List UInt8) :
    Nat → Option Nat → WireName → Nat → WireName → Nat → Prop where
  | root {start pos : Nat} {limit : Option Nat} {read : WireName}
      (hl : ∀ l ∈ limit, pos < l) (hb : message[pos]? = some 0) (hs : read.size < 255) :
      ReadsLabels message start limit read pos read (pos + 1)
  | pointer {start pos stop : Nat} {limit : Option Nat} {read name : WireName} {b low : UInt8}
      (hl : ∀ l ∈ limit, pos < l) (hb : message[pos]? = some b) (hc : 0xC0 ≤ b)
      (hlow : message[pos + 1]? = some low) (ht : pointerTarget b low < start)
      (hn : ReadsLabels message (pointerTarget b low) (some start) read (pointerTarget b low) name
        stop)
      (hs : name.size < 255) :
      ReadsLabels message start limit read pos name (pos + 2)
  | label {start pos stop : Nat} {limit : Option Nat} {read name : WireName} {b : UInt8}
      (hl : ∀ l ∈ limit, pos < l) (hb : message[pos]? = some b) (h0 : b ≠ 0) (hc : b < 0x40)
      (he : pos + 1 + b.toNat ≤ message.length)
      (hs : WireName.size (read ++ [labelAt message pos b.toNat]) ≤ 255)
      (hn : ReadsLabels message start limit (read ++ [labelAt message pos b.toNat])
        (pos + 1 + b.toNat) name stop) :
      ReadsLabels message start limit read pos name stop

theorem filter_eq_none_iff :
    limit.filter (· ≤ pos) = none ↔ ∀ l ∈ limit, pos < l := by
  simp only [Option.filter_eq_none_iff, decide_eq_true_eq, Nat.not_le]
  rfl

theorem labels_of_some (hl : ∀ l ∈ limit, pos < l) (hb : message[pos]? = some b) :
    labels message start limit read pos =
      if b = 0 then endName read (pos + 1)
      else if 0xC0 ≤ b then
        match message[pos + 1]? with
        | none => .error .unexpectedEnd
        | some low =>
            if pointerTarget b low < start then
              match labels message (pointerTarget b low) (some start) read
                (pointerTarget b low) with
              | .error e => .error e
              | .ok (name, _) => endName name (pos + 2)
            else .error (.pointerNotPrior pos (pointerTarget b low))
      else if 0x40 ≤ b then .error (.labelCode b)
      else if pos + 1 + b.toNat ≤ message.length then
        if 255 < WireName.size (read ++ [labelAt message pos b.toNat]) then
          .error (.nameTooLong b.toNat)
        else
          labels message start limit (read ++ [labelAt message pos b.toNat]) (pos + 1 + b.toNat)
      else .error .unexpectedEnd := by
  rw [labels, filter_eq_none_iff.2 hl]
  simp only
  split
  next h =>
    rw [hb] at h
    cases h
  next b' h =>
    rw [hb] at h
    cases h
    rfl

theorem labels_of_none (hl : ∀ l ∈ limit, pos < l) (hb : message[pos]? = none) :
    labels message start limit read pos = .error .unexpectedEnd := by
  rw [labels, filter_eq_none_iff.2 hl]
  simp only
  split
  · rfl
  next b' h =>
    rw [hb] at h
    cases h

theorem labels_root (hl : ∀ l ∈ limit, pos < l) (hb : message[pos]? = some 0) :
    labels message start limit read pos = endName read (pos + 1) := by
  rw [labels_of_some hl hb, if_pos rfl]

theorem ne_zero_of_pointer (hc : 0xC0 ≤ b) : b ≠ 0 := by
  rintro rfl
  exact absurd hc (by decide)

theorem labels_pointer (hl : ∀ l ∈ limit, pos < l) (hb : message[pos]? = some b) (hc : 0xC0 ≤ b)
    (hlow : message[pos + 1]? = some low) (ht : pointerTarget b low < start) :
    labels message start limit read pos =
      match labels message (pointerTarget b low) (some start) read (pointerTarget b low) with
      | .error e => .error e
      | .ok (name, _) => endName name (pos + 2) := by
  rw [labels_of_some hl hb, if_neg (ne_zero_of_pointer hc), if_pos hc, hlow]
  exact if_pos ht

theorem labels_pointer_cut (hl : ∀ l ∈ limit, pos < l) (hb : message[pos]? = some b)
    (hc : 0xC0 ≤ b) (hlow : message[pos + 1]? = none) :
    labels message start limit read pos = .error .unexpectedEnd := by
  rw [labels_of_some hl hb, if_neg (ne_zero_of_pointer hc), if_pos hc, hlow]

theorem labels_label (hl : ∀ l ∈ limit, pos < l) (hb : message[pos]? = some b) (h0 : b ≠ 0)
    (hc : b < 0x40) :
    labels message start limit read pos =
      if pos + 1 + b.toNat ≤ message.length then
        if 255 < WireName.size (read ++ [labelAt message pos b.toNat]) then
          .error (.nameTooLong b.toNat)
        else
          labels message start limit (read ++ [labelAt message pos b.toNat]) (pos + 1 + b.toNat)
      else .error .unexpectedEnd := by
  have hc' : ¬0xC0 ≤ b := fun h => absurd (UInt8.lt_of_le_of_lt h hc) (by decide)
  rw [labels_of_some hl hb, if_neg h0, if_neg hc', if_neg (UInt8.not_le.2 hc)]

theorem endName_eq_ok_iff :
    endName read pos = .ok (name, stop) ↔ read.size < 255 ∧ read = name ∧ pos = stop := by
  rw [endName]
  split
  next h => exact iff_of_false nofun fun hn => absurd hn.1 (Nat.not_lt.2 h)
  next h => simp [Nat.not_le.1 h]

theorem labels_eq_ok_iff :
    labels message start limit read pos = .ok (name, stop) ↔
      ReadsLabels message start limit read pos name stop := by
  constructor
  · fun_induction labels message start limit read pos generalizing name stop
    case case3 hl hb =>
      intro h
      obtain ⟨hs, rfl, rfl⟩ := endName_eq_ok_iff.1 h
      exact .root (filter_eq_none_iff.1 hl) hb hs
    case case6 hl b hb _ hc low hlow target ht name' stop' hi ih =>
      intro h
      obtain ⟨hs, rfl, rfl⟩ := endName_eq_ok_iff.1 h
      exact .pointer (filter_eq_none_iff.1 hl) hb hc hlow ht (ih hi) hs
    case case10 hl b hb h0 _ hc he read' hs ih =>
      intro h
      exact .label (filter_eq_none_iff.1 hl) hb h0 (UInt8.not_le.1 hc) he (Nat.not_lt.1 hs)
        (ih h)
    all_goals nofun
  · intro h
    induction h with
    | root hl hb hs =>
        rw [labels_root hl hb]
        exact endName_eq_ok_iff.2 ⟨hs, rfl, rfl⟩
    | pointer hl hb hc hlow ht _ hs ih =>
        rw [labels_pointer hl hb hc hlow ht, ih]
        exact endName_eq_ok_iff.2 ⟨hs, rfl, rfl⟩
    | label hl hb h0 hc he hs _ ih =>
        rw [labels_label hl hb h0 hc, if_pos he, if_neg (Nat.not_lt.2 hs), ih]

theorem getElem?_of_take (h : message'.take n = message.take n) (hk : k < n) :
    message'[k]? = message[k]? := by
  rw [← List.getElem?_take_of_lt hk, h, List.getElem?_take_of_lt hk]

theorem labelAt_of_take (h : message'.take n = message.take n) (hk : pos + 1 + k ≤ n) :
    labelAt message' pos k = labelAt message pos k := by
  have hm : ∀ m : List UInt8, labelAt m pos k = ((m.take n).drop (pos + 1)).take k := fun m => by
    rw [labelAt, List.drop_take, List.take_take, Nat.min_eq_left (by omega)]
  rw [hm, hm, h]

theorem length_of_take (h : message'.take n = message.take n) (hn : n ≤ message.length) :
    n ≤ message'.length := by
  have hl := congrArg List.length h
  rw [List.length_take, List.length_take, Nat.min_eq_left hn] at hl
  omega

theorem take_of_take (h : message'.take n = message.take n) (hk : k ≤ n) :
    message'.take k = message.take k := by
  rw [← Nat.min_eq_left hk, ← List.take_take, h, List.take_take]

namespace ReadsLabels

/-- A reading moves on, within the message, and it reaches at most one byte into the name that
pointed to it: the second byte of a pointer. -/
theorem bounds (h : ReadsLabels message start limit read pos name stop) :
    pos < stop ∧ stop ≤ message.length ∧ ∀ l ∈ limit, stop ≤ l + 1 := by
  induction h with
  | root hl hb _ =>
      have hp := (List.getElem?_eq_some_iff.1 hb).1
      exact ⟨Nat.lt_succ_self _, hp, fun l hm => Nat.le_succ_of_le (hl l hm)⟩
  | pointer hl _ _ hlow _ _ _ _ =>
      have hp := (List.getElem?_eq_some_iff.1 hlow).1
      exact ⟨by omega, hp, fun l hm => Nat.succ_le_succ (hl l hm)⟩
  | label _ _ _ _ _ _ _ ih =>
      exact ⟨by omega, ih.2⟩

theorem congr (h : ReadsLabels message start limit read pos name stop) (hstart : start ≤ pos)
    (hn : stop ≤ n) (hlimit : ∀ l ∈ limit, l < n) (htake : message'.take n = message.take n) :
    ReadsLabels message' start limit read pos name stop := by
  induction h with
  | root hl hb hs => exact .root hl (by rwa [getElem?_of_take htake hn]) hs
  | @pointer start pos stop limit read name b low hl hb hc hlow ht hi hs ih =>
      have hstop : stop ≤ start + 1 := hi.bounds.2.2 start rfl
      have hi' := ih (Nat.le_refl _) (by omega) (by rintro l ⟨⟩; omega)
      exact .pointer hl (by rwa [getElem?_of_take htake (by omega)]) hc
        (by rwa [getElem?_of_take htake hn]) ht hi' hs
  | @label start pos stop limit read name b hl hb h0 hc he hs hi ih =>
      have hpos : pos + 1 + b.toNat < stop := hi.bounds.1
      have hlen : stop ≤ message'.length :=
        length_of_take (take_of_take htake hn) hi.bounds.2.1
      have hlabel : labelAt message' pos b.toNat = labelAt message pos b.toNat :=
        labelAt_of_take htake (by omega)
      rw [← hlabel] at hs ih
      exact .label hl (by rwa [getElem?_of_take htake (by omega)]) h0 hc (by omega) hs
        (ih (by omega) hn hlimit)

theorem cut (h : ReadsLabels message start limit read pos name stop) (hk : pos ≤ k)
    (hstop : k < stop) : ∃ e, labels (message.take k) start limit read pos = .error e := by
  induction h with
  | @root start pos limit read hl hb hs =>
      obtain rfl : k = pos := by omega
      exact ⟨_, labels_of_none hl (List.getElem?_take_eq_none (Nat.le_refl _))⟩
  | @pointer start pos stop limit read name b low hl hb hc hlow ht hi hs ih =>
      obtain rfl | rfl : k = pos ∨ k = pos + 1 := by omega
      · exact ⟨_, labels_of_none hl (List.getElem?_take_eq_none (Nat.le_refl _))⟩
      · exact ⟨_, labels_pointer_cut hl (by rwa [List.getElem?_take_of_lt (Nat.lt_succ_self _)]) hc
          (List.getElem?_take_eq_none (Nat.le_refl _))⟩
  | @label start pos stop limit read name b hl hb h0 hc he hs hi ih =>
      by_cases hp : k = pos
      · exact ⟨_, labels_of_none hl (List.getElem?_take_eq_none (Nat.le_of_eq hp))⟩
      · rw [labels_label hl (by rwa [List.getElem?_take_of_lt (by omega)]) h0 hc]
        by_cases hend : pos + 1 + b.toNat ≤ k
        · have hlabel : labelAt (message.take k) pos b.toNat = labelAt message pos b.toNat :=
            labelAt_of_take (n := k) (by rw [List.take_take, Nat.min_self]) hend
          rw [if_pos (by rw [List.length_take]; omega), hlabel, if_neg (Nat.not_lt.2 hs)]
          exact ih hend hstop
        · rw [if_neg (by rw [List.length_take]; omega)]
          exact ⟨_, rfl⟩

end ReadsLabels

end IssuanceCheck.Dns.Reader
