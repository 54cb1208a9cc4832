import IssuanceCheck.Dns.Message

namespace IssuanceCheck.Dns

def bigEndian : Nat → Nat → List UInt8
  | 0, _ => []
  | n + 1, v => bigEndian n (v / 256) ++ [UInt8.ofNat v]

@[simp] theorem bigEndian_length (n v : Nat) : (bigEndian n v).length = n := by
  induction n generalizing v with
  | zero => rfl
  | succ n ih => simp [bigEndian, ih]

theorem foldl_bigEndian (n v : Nat) :
    (bigEndian n v).foldl (fun acc b => acc * 256 + b.toNat) 0 = v % Nat.pow 256 n := by
  induction n generalizing v with
  | zero => simp [bigEndian, Nat.mod_one]
  | succ n ih =>
      rw [bigEndian, List.foldl_append, ih]
      have hp : Nat.pow 256 (n + 1) = 256 * Nat.pow 256 n := Nat.mul_comm ..
      rw [hp, Nat.mod_mul]
      simp
      omega

theorem Reader.number_append (front rest : List UInt8) (n v : Nat) :
    Reader.number n (front ++ (bigEndian n v ++ rest)) front.length =
      .ok (v % Nat.pow 256 n, front.length + n) := by
  have hl : front.length + n ≤ (front ++ (bigEndian n v ++ rest)).length := by simp
  have ht : (bigEndian n v ++ rest).take n = bigEndian n v :=
    List.take_left' (bigEndian_length n v)
  simp only [Reader.number, bind, Reader.bytes, hl, if_true, List.drop_left, ht, pure,
    foldl_bigEndian]

namespace WireName

def bytes (name : WireName) : List UInt8 :=
  name.flatMap (fun label => UInt8.ofNat label.length :: label) ++ [0]

/-- Whether a name can be published: labels of 1 to 63 bytes, and 255 bytes in all. -/
def IsLegal (name : WireName) : Prop :=
  (∀ label ∈ name, label ≠ [] ∧ label.length ≤ 63) ∧ name.bytes.length ≤ 255

instance (name : WireName) : Decidable name.IsLegal :=
  inferInstanceAs (Decidable (_ ∧ _))

end WireName

namespace Message

structure Question where
  name : WireName
  type : UInt16
  dnsClass : UInt16
deriving DecidableEq, Repr

def Question.bytes (q : Question) : List UInt8 :=
  q.name.bytes ++ bigEndian 2 q.type.toNat ++ bigEndian 2 q.dnsClass.toNat

/-- How the owner of an answer is written: in full, or as a pointer to the name of a question. -/
inductive Owner where
  | full (name : WireName)
  | ofQuestion (i : Nat)
deriving DecidableEq, Repr

structure Entry where
  owner : Owner
  type : UInt16
  dnsClass : UInt16
  lifetime : UInt32
  rdata : List UInt8
deriving DecidableEq, Repr

end Message

/-- A response as it is composed, up to the end of its answers. -/
structure Message where
  id : UInt16
  control : UInt8
  status : UInt8
  questions : List Message.Question
  answers : List Message.Entry
  authorities : UInt16
  additionals : UInt16
deriving DecidableEq, Repr

namespace Message

def headerSize : Nat := 12

def questionStart (questions : List Question) (i : Nat) : Nat :=
  headerSize + ((questions.take i).flatMap Question.bytes).length

def Owner.bytes (questions : List Question) : Owner → List UInt8
  | full name => name.bytes
  | ofQuestion i => bigEndian 2 (0xC000 + questionStart questions i)

def Entry.bytes (questions : List Question) (e : Entry) : List UInt8 :=
  e.owner.bytes questions ++ bigEndian 2 e.type.toNat ++ bigEndian 2 e.dnsClass.toNat ++
    bigEndian 4 e.lifetime.toNat ++ bigEndian 2 e.rdata.length ++ e.rdata

def headerBytes (m : Message) : List UInt8 :=
  bigEndian 2 m.id.toNat ++ [m.control, m.status] ++ bigEndian 2 m.questions.length ++
    bigEndian 2 m.answers.length ++ bigEndian 2 m.authorities.toNat ++
    bigEndian 2 m.additionals.toNat

def bytes (m : Message) : List UInt8 :=
  m.headerBytes ++ m.questions.flatMap Question.bytes ++
    m.answers.flatMap (Entry.bytes m.questions)

def Owner.IsLegal (questions : List Question) : Owner → Prop
  | full name => name.IsLegal
  | ofQuestion i => i < questions.length ∧ questionStart questions i < 0x4000

instance (questions : List Question) (owner : Owner) : Decidable (owner.IsLegal questions) := by
  cases owner <;> exact inferInstanceAs (Decidable (_ ∧ _))

/-- Whether a message can be sent: its counts and lengths fit their fields, its names are legal, and
so is the operation code. -/
structure IsLegal (m : Message) : Prop where
  opcode : m.control.toNat / 8 % 16 ∈ opcodes
  questions : m.questions.length < 0x10000 ∧ ∀ q ∈ m.questions, q.name.IsLegal
  answers : m.answers.length < 0x10000 ∧
    ∀ e ∈ m.answers, e.owner.IsLegal m.questions ∧ e.rdata.length < 0x10000

end Message

end IssuanceCheck.Dns
