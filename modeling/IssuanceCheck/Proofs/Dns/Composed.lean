import IssuanceCheck.Dns.Message.Bytes
import IssuanceCheck.Proofs.Dns.Rdata
import IssuanceCheck.Proofs.Dns.Reader

namespace IssuanceCheck.Dns

open Text

variable {α β : Type} {r : Reader α} {f : α → Reader β} {front bs cs rest label : List UInt8}
  {a : α} {b : β} {m : Message} {questions : List Message.Question} {read name : WireName}
  {start stop : Nat} {limit : Option Nat}

namespace WireName

def labelBytes (label : List UInt8) : List UInt8 := UInt8.ofNat label.length :: label

theorem bytes_cons (label : List UInt8) (name : WireName) :
    bytes (label :: name) = labelBytes label ++ bytes name := by
  rw [bytes, List.flatMap_cons, bytes, List.append_assoc, labelBytes]

theorem labelBytes_length (label : List UInt8) :
    (labelBytes label).length = label.length + 1 := List.length_cons

theorem bytes_length (name : WireName) :
    name.bytes.length = name.flatten.length + name.length + 1 := by
  induction name with
  | nil => rfl
  | cons label name ih =>
      rw [bytes_cons, List.length_append, labelBytes_length, ih, List.flatten_cons,
        List.length_append, List.length_cons]
      omega

theorem size_cons (label : List UInt8) (name : WireName) :
    size (label :: name) = (label :: name).flatten.length + (name.length + 1) := rfl

theorem size_le_append (read name : WireName) : size read ≤ size (read ++ name) := by
  cases read with
  | nil =>
      cases name with
      | nil => exact Nat.le_refl _
      | cons label name =>
          rw [List.nil_append, size_cons]
          exact Nat.le_trans (Nat.le_add_left 1 name.length) (Nat.le_add_left ..)
  | cons label read =>
      rw [List.cons_append, size_cons, size_cons, ← List.cons_append, List.flatten_append,
        List.length_append, List.length_append]
      omega

theorem IsLegal.size_lt (h : name.IsLegal) : name.size < 255 := by
  have hb := h.2
  rw [bytes_length] at hb
  cases name with
  | nil => decide
  | cons label name =>
      rw [size_cons]
      rw [List.length_cons] at hb
      omega

end WireName

namespace Reader

theorem ReadsLabels.of_root (hl : ∀ l ∈ limit, front.length < l) (hs : read.size < 255) :
    ReadsLabels (front ++ ([0] ++ rest)) start limit read front.length read
      (front ++ [0]).length := by
  rw [List.length_append]
  exact .root hl (by simp) hs

theorem ReadsLabels.of_label (hne : label ≠ []) (hlen : label.length ≤ 63)
    (hl : ∀ l ∈ limit, front.length < l) (hs : WireName.size (read ++ [label]) ≤ 255)
    (hn : ReadsLabels (front ++ WireName.labelBytes label ++ rest) start limit (read ++ [label])
      (front ++ WireName.labelBytes label).length name stop) :
    ReadsLabels (front ++ WireName.labelBytes label ++ rest) start limit read front.length name
      stop := by
  have hb : (UInt8.ofNat label.length).toNat = label.length := by
    rw [UInt8.toNat_ofNat', Nat.mod_eq_of_lt (by omega)]
  have hpos : 0 < label.length := List.length_pos_iff.2 hne
  have hlabel : labelAt (front ++ WireName.labelBytes label ++ rest) front.length
      (UInt8.ofNat label.length).toNat = label := by
    rw [hb, labelAt, List.append_assoc, List.drop_length_add_append, WireName.labelBytes,
      List.cons_append, List.drop_one, List.tail_cons, List.take_left]
  have hend : front.length + 1 + (UInt8.ofNat label.length).toNat =
      (front ++ WireName.labelBytes label).length := by
    rw [hb, List.length_append, WireName.labelBytes_length]
    omega
  refine .label hl (b := UInt8.ofNat label.length) ?_ ?_ ?_ ?_ ?_ ?_
  · simp [WireName.labelBytes]
  · intro h0
    rw [h0] at hb
    exact absurd hb.symm (Nat.ne_of_gt hpos)
  · rw [UInt8.lt_iff_toNat_lt, hb]
    exact Nat.lt_succ_of_le hlen
  · rw [hend]
    exact (List.prefix_append ..).length_le
  · rwa [hlabel]
  · rwa [hlabel, hend]

theorem ReadsLabels.of_bytes (hname : ∀ label ∈ name, label ≠ [] ∧ label.length ≤ 63)
    (hs : WireName.size (read ++ name) < 255)
    (hlimit : ∀ l ∈ limit, (front ++ name.bytes).length ≤ l) :
    ReadsLabels (front ++ (name.bytes ++ rest)) start limit read front.length (read ++ name)
      (front ++ name.bytes).length := by
  have hl : ∀ l ∈ limit, front.length < l := fun l hl => by
    have := hlimit l hl
    rw [List.length_append, WireName.bytes_length] at this
    omega
  induction name generalizing front read with
  | nil =>
      rw [List.append_nil] at hs ⊢
      exact .of_root hl hs
  | cons label name ih =>
      -- the label goes over to the bytes in front and to the labels that have been read
      obtain ⟨hne, hlen⟩ := hname label (List.mem_cons_self ..)
      have hsplit : front ++ (WireName.bytes (label :: name) ++ rest) =
          front ++ WireName.labelBytes label ++ (WireName.bytes name ++ rest) := by
        rw [WireName.bytes_cons, List.append_assoc, List.append_assoc]
      rw [List.append_cons] at hs ⊢
      rw [WireName.bytes_cons, ← List.append_assoc] at hlimit
      rw [hsplit, WireName.bytes_cons, ← List.append_assoc front]
      refine .of_label hne hlen hl ?_ (ih ?_ hs hlimit ?_)
      · exact Nat.le_of_lt (Nat.lt_of_le_of_lt (WireName.size_le_append _ name) hs)
      · exact fun l hl => hname l (List.mem_cons_of_mem _ hl)
      · intro l hl
        have := hlimit l hl
        simp only [List.length_append, WireName.bytes_length] at this ⊢
        omega

/-- Behind `front` the reader takes the bytes `bs` and gives `a`, whatever follows them. -/
def Yields (r : Reader α) (front bs : List UInt8) (a : α) : Prop :=
  ∀ rest, r (front ++ (bs ++ rest)) front.length = .ok (a, (front ++ bs).length)

namespace Yields

theorem pure (front : List UInt8) (a : α) : Yields (Pure.pure a) front [] a := fun rest => by
  rw [List.append_nil]
  rfl

theorem bind (hr : Yields r front bs a) (hf : Yields (f a) (front ++ bs) cs b) :
    Yields (r >>= f) front (bs ++ cs) b := fun rest => by
  have hr' := hr (cs ++ rest)
  have hf' := hf rest
  rw [List.append_assoc front] at hf'
  rw [List.append_assoc, ← List.append_assoc front bs cs]
  exact bind_eq_ok_iff.2 ⟨a, _, hr', hf'⟩

theorem bind_last (hr : Yields r front bs a) (hf : Yields (f a) (front ++ bs) [] b) :
    Yields (r >>= f) front bs b := by
  have h := hr.bind hf
  rwa [List.append_nil] at h

theorem bytes (front bs : List UInt8) : Yields (Reader.bytes bs.length) front bs bs := by
  intro rest
  rw [Reader.bytes, List.drop_left, List.take_left, List.length_append, List.length_append,
    List.length_append]
  exact if_pos (by omega)

theorem number {n : Nat} (hn : bs.length = n) : Yields (Reader.number n) front bs
    (bs.foldl (fun acc b => acc * 256 + b.toNat) 0) := by
  rw [← hn]
  exact (bytes front bs).bind_last (pure _ _)

theorem bigEndian {n v : Nat} (h : v < Nat.pow 256 n) :
    Yields (Reader.number n) front (bigEndian n v) v := fun rest => by
  rw [number_append, Nat.mod_eq_of_lt h, List.length_append, bigEndian_length]

theorem times {ι : Type} {base : List UInt8} {encode : ι → List UInt8} {value : ι → α}
    {entries : List ι}
    (h : ∀ x ∈ entries, ∀ front, base <+: front → Yields r front (encode x) (value x))
    (front : List UInt8) (hf : base <+: front) :
    Yields (Reader.times entries.length r) front (entries.flatMap encode) (entries.map value) := by
  induction entries generalizing front with
  | nil => exact pure front []
  | cons x entries ih =>
      have hx := h x (List.mem_cons_self ..) front hf
      have hrest := ih (fun y hy => h y (List.mem_cons_of_mem _ hy)) (front ++ encode x)
        (hf.trans (List.prefix_append ..))
      exact hx.bind (hrest.bind_last (pure _ _))

theorem ofName {name : WireName} (h : name.IsLegal) (front : List UInt8) :
    Yields Reader.name front name.bytes name := fun _ =>
  labels_eq_ok_iff.2 (.of_bytes h.1 h.size_lt (fun _ hl => by cases hl))

theorem exists_pointer {n : Nat} (h : n < 0x4000) :
    ∃ b low, Dns.bigEndian 2 (0xC000 + n) = [b, low] ∧ 0xC0 ≤ b ∧ pointerTarget b low = n := by
  refine ⟨_, _, rfl, ?_, ?_⟩
  · rw [UInt8.le_iff_toNat_le, UInt8.toNat_ofNat']
    change 0xC0 ≤ _
    omega
  · rw [pointerTarget, UInt8.toNat_ofNat', UInt8.toNat_ofNat']
    omega

theorem ofPointer {name : WireName} (h : name.IsLegal) (hfront : front.length < 0x4000)
    (back : List UInt8) :
    Yields Reader.name (front ++ (name.bytes ++ back))
      (Dns.bigEndian 2 (0xC000 + front.length)) name := by
  intro rest
  obtain ⟨b, low, hb, hc, ht⟩ := exists_pointer hfront
  -- the name ends before it would run into the pointer
  have hlimit : (front ++ name.bytes).length ≤ (front ++ (name.bytes ++ back)).length := by
    rw [← List.append_assoc]
    exact (List.prefix_append ..).length_le
  have hstart : front.length < (front ++ (name.bytes ++ back)).length := by
    rw [List.length_append, WireName.bytes_length] at hlimit
    omega
  have hn : ReadsLabels (front ++ (name.bytes ++ (back ++ ([b, low] ++ rest)))) front.length
      (some (front ++ (name.bytes ++ back)).length) [] front.length name
      (front ++ name.bytes).length :=
    .of_bytes h.1 h.size_lt (fun l hl => by cases hl; exact hlimit)
  rw [← List.append_assoc name.bytes, ← List.append_assoc front] at hn
  have hstop : (front ++ (name.bytes ++ back) ++ [b, low]).length =
      (front ++ (name.bytes ++ back)).length + 2 := List.length_append
  rw [hb, hstop]
  have hlow : (front ++ (name.bytes ++ back) ++ ([b, low] ++ rest))[
      (front ++ (name.bytes ++ back)).length + 1]? = some low := by
    rw [List.getElem?_append_right (Nat.le_add_right ..), Nat.add_sub_cancel_left]
    rfl
  rw [← ht] at hstart hn
  exact labels_eq_ok_iff.2
    (.pointer (fun _ hl => by cases hl) (by simp) hc hlow hstart hn h.size_lt)

end Yields

end Reader

open Reader

namespace Message

theorem headerBytes_length (m : Message) : m.headerBytes.length = headerSize := by
  simp [headerBytes, headerSize]

theorem IsLegal.header (h : m.IsLegal) :
    Yields headerCounts [] m.headerBytes (m.questions.length, m.answers.length) := by
  have hq : m.questions.length < Nat.pow 256 2 := h.questions.1
  have ha : m.answers.length < Nat.pow 256 2 := h.answers.1
  have hid : m.id.toNat < Nat.pow 256 2 := m.id.toNat_lt
  have hb : m.headerBytes = bigEndian 2 m.id.toNat ++ ([m.control] ++ ([m.status] ++
      (bigEndian 2 m.questions.length ++ (bigEndian 2 m.answers.length ++
        (bigEndian 2 m.authorities.toNat ++ bigEndian 2 m.additionals.toNat))))) := by
    simp [headerBytes]
  rw [hb, headerCounts]
  refine (Yields.bigEndian hid).bind ((Yields.number (by rfl)).bind ?_)
  rw [if_pos (by simpa using h.opcode)]
  refine (Yields.number (by rfl)).bind ((Yields.bigEndian hq).bind ((Yields.bigEndian ha).bind ?_))
  exact (Yields.number (by simp)).bind_last (.pure _ _)

theorem Question.yields {q : Question} (h : q.name.IsLegal) (front : List UInt8) :
    Yields question front q.bytes () := by
  rw [Question.bytes, List.append_assoc]
  exact (Yields.ofName h front).bind ((Yields.number (by simp)).bind_last (.pure _ _))

theorem questionBytes_split (questions : List Question) {i : Nat} (hi : i < questions.length) :
    ∃ back, questions.flatMap Question.bytes =
      (questions.take i).flatMap Question.bytes ++ (questions[i].name.bytes ++ back) := by
  have hs : questions = questions.take i ++ questions[i] :: questions.drop (i + 1) := by
    rw [← List.drop_eq_getElem_cons hi, List.take_append_drop]
  refine ⟨bigEndian 2 questions[i].type.toNat ++ (bigEndian 2 questions[i].dnsClass.toNat ++
    (questions.drop (i + 1)).flatMap Question.bytes), ?_⟩
  conv_lhs => rw [hs, List.flatMap_append, List.flatMap_cons, Question.bytes]
  simp only [List.append_assoc]

theorem Owner.yields {owner : Owner} (h : owner.IsLegal m.questions)
    (hq : ∀ q ∈ m.questions, q.name.IsLegal)
    (hfront : m.headerBytes ++ m.questions.flatMap Question.bytes <+: front) :
    ∃ name, Yields Reader.name front (owner.bytes m.questions) name := by
  cases owner with
  | full name => exact ⟨name, .ofName h front⟩
  | ofQuestion i =>
      obtain ⟨hi, hstart⟩ := h
      obtain ⟨more, rfl⟩ := hfront
      obtain ⟨back, hback⟩ := questionBytes_split m.questions hi
      have hlen : (m.headerBytes ++ (m.questions.take i).flatMap Question.bytes).length =
          questionStart m.questions i := by
        rw [List.length_append, headerBytes_length, questionStart]
      rw [← hlen] at hstart
      have hp := Yields.ofPointer (hq _ (List.getElem_mem hi)) hstart (back ++ more)
      rw [hlen] at hp
      refine ⟨m.questions[i].name, ?_⟩
      rw [hback, Owner.bytes]
      simpa only [List.append_assoc] using hp

theorem Entry.yields {e : Entry} (ho : e.owner.IsLegal m.questions)
    (hr : e.rdata.length < 0x10000) (hq : ∀ q ∈ m.questions, q.name.IsLegal)
    (hfront : m.headerBytes ++ m.questions.flatMap Question.bytes <+: front) :
    Yields answer front (e.bytes m.questions) (e.type.toNat, e.rdata) := by
  obtain ⟨name, hname⟩ := Owner.yields ho hq hfront
  have ht : e.type.toNat < Nat.pow 256 2 := e.type.toNat_lt
  have hb : e.bytes m.questions = e.owner.bytes m.questions ++ (bigEndian 2 e.type.toNat ++
      ((bigEndian 2 e.dnsClass.toNat ++ bigEndian 4 e.lifetime.toNat) ++
        (bigEndian 2 e.rdata.length ++ e.rdata))) := by
    simp only [Entry.bytes, List.append_assoc]
  rw [hb, answer]
  refine hname.bind ((Yields.bigEndian ht).bind ((Yields.number (by simp)).bind ?_))
  exact (Yields.bigEndian hr).bind ((Yields.bytes _ _).bind_last (.pure _ _))

theorem IsLegal.answerSection (h : m.IsLegal) :
    Yields answerSection [] m.bytes (m.answers.map fun e => (e.type.toNat, e.rdata)) := by
  have hq : Yields (times m.questions.length question) m.headerBytes
      (m.questions.flatMap Question.bytes) (m.questions.map fun _ => ()) :=
    Yields.times (fun q hq front _ => Question.yields (h.questions.2 q hq) front) _
      List.prefix_rfl
  have ha : Yields (times m.answers.length answer)
      (m.headerBytes ++ m.questions.flatMap Question.bytes)
      (m.answers.flatMap (Entry.bytes m.questions))
      (m.answers.map fun e => (e.type.toNat, e.rdata)) :=
    Yields.times (fun e he front hf => Entry.yields (h.answers.2 e he).1 (h.answers.2 e he).2
      h.questions.2 hf) _ List.prefix_rfl
  rw [Message.bytes, List.append_assoc]
  exact h.header.bind (hq.bind ha)

end Message

theorem caaRecords_bytes (h : m.IsLegal) (name : String) (rest : List UInt8) :
    caaRecords name (m.bytes ++ rest) = .ok ((m.answers.filter (·.type = 257)).filterMap
      fun e => CaaRecord.ofRdata? name e.rdata) := by
  have ha : answerSection (m.bytes ++ rest) 0 = .ok (_, m.bytes.length) := h.answerSection rest
  have ht : (fun e : Message.Entry => decide (e.type.toNat = RecordType.caa.code)) =
      fun e => decide (e.type = 257) :=
    funext fun e => decide_eq_decide.2 (UInt16.toNat_inj (b := 257))
  rw [caaRecords, ha]
  simp only [List.filter_map, List.filterMap_map, Function.comp_def, ht]

/-- Whatever comes behind the answers, the CAA records of a composed message are the well-formed
ones among its answers of that type, in order, as they were published and under the name that was
asked for. -/
theorem caaRecords_composed (name : String) (m : Message) (h : m.IsLegal) (rest : List UInt8) :
    ∃ accepted : List CaaRdata,
      ((m.answers.filter (·.type = 257)).map (·.rdata)).filter
          (fun rdata => (CaaRecord.ofRdata? name rdata).isSome) = accepted.map CaaRdata.bytes ∧
        caaRecords name (m.bytes ++ rest) = .ok (accepted.map (CaaRdata.record name)) ∧
        (∀ r ∈ accepted, (r.record name).name = CaaRecord.stripRootDots name ∧
          (r.record name).flags = r.flags ∧
          ∀ tag value : String, r.tag = encodeUtf8 tag.toList → r.value = encodeUtf8 value.toList →
            (r.record name).tag = tag ∧ (r.record name).value = value) ∧
        (∃ n, name.toList = (CaaRecord.stripRootDots name).toList ++ List.replicate n '.') ∧
        (CaaRecord.stripRootDots name).toList.getLast? ≠ some '.' := by
  obtain ⟨accepted, hf, hm⟩ := CaaRdata.exists_accepted name
    ((m.answers.filter (·.type = 257)).map (·.rdata))
  refine ⟨accepted, hf, ?_, fun r _ => ⟨rfl, rfl, fun tag value ht hv => ?_⟩,
    exists_stripRootDots name, stripRootDots_last name⟩
  · rw [caaRecords_bytes h, ← hm, List.filterMap_map]
    rfl
  · rw [CaaRdata.record_of_text ht hv]
    exact ⟨rfl, rfl⟩

/-- An alias whose data look like a pointer, data that are too short for their tag and an owner of
its own stand around the one record, and a byte that looks like a pointer comes behind. -/
theorem caaRecords_composed_among_others :
    let question : Message.Question := ⟨[[0x63, 0x61], [0x74, 0x65, 0x73, 0x74]], 257, 1⟩
    let rdata : CaaRdata := ⟨0x81, [0x69, 0x73, 0x73, 0x75, 0x65], [0x63, 0x61, 0x2E, 0x74],
      by decide, by decide⟩
    let message : Message := ⟨0xABCD, 0x81, 0x80, [question],
      [⟨.ofQuestion 0, 5, 1, 60, [0xC0, 0x0C]⟩, ⟨.full [[0x61]], 257, 1, 60, rdata.bytes⟩,
        ⟨.ofQuestion 0, 257, 1, 60, [0, 9, 0x69]⟩], 1, 1⟩
    message.IsLegal ∧ caaRecords "ca.test." (message.bytes ++ [0xC0]) =
      .ok [⟨"ca.test", 0x81, "issue", "ca.t"⟩] := by
  intro question rdata message
  have hlegal : message.IsLegal := ⟨by decide, by decide, by decide⟩
  obtain ⟨accepted, hf, hr, -⟩ := caaRecords_composed "ca.test." message hlegal [0xC0]
  have ha : accepted.map CaaRdata.bytes = [rdata].map CaaRdata.bytes := by
    rw [← hf]
    decide +kernel
  rw [List.map_injective_iff.2 CaaRdata.bytes_injective ha] at hr
  refine ⟨hlegal, hr.trans ?_⟩
  decide +kernel

end IssuanceCheck.Dns
