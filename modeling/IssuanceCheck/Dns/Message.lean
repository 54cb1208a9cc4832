import IssuanceCheck.Dns.Record

namespace IssuanceCheck.Dns

inductive DecodeError where
  | unexpectedEnd
  | unknownOpcode (code : Nat)
  | labelCode (byte : UInt8)
  | pointerNotPrior (index target : Nat)
  /-- The name at `label` runs into the name at `other`, which pointed to it. -/
  | overlap (label other : Nat)
  | nameTooLong (length : Nat)
deriving DecidableEq, Repr

def binaryDigits (n : Nat) : String := String.ofList (Nat.toDigits 2 n)

def DecodeError.message : DecodeError → String
  | unexpectedEnd => "unexpected end of input reached"
  | unknownOpcode code => s!"unknown OpCode: {code}"
  | labelCode byte => s!"unrecognized label code: {binaryDigits byte.toNat}"
  | pointerNotPrior index target =>
      s!"label points to data not prior to idx: {index} ptr: {target}"
  | overlap label other => s!"overlapping labels name {label} other {other}"
  | nameTooLong length => s!"name label data exceed 255: {length}"

abbrev WireName := List (List UInt8)

def WireName.size (name : WireName) : Nat :=
  name.flatten.length + (if name.isEmpty then 1 else name.length)

/-- Reads from a message at a position, and gives the position behind what was read. -/
def Reader (α : Type) : Type := List UInt8 → Nat → Except DecodeError (α × Nat)

namespace Reader

variable {α β : Type}

instance : Monad Reader where
  pure a := fun _ pos => .ok (a, pos)
  bind r f := fun message pos =>
    match r message pos with
    | .error e => .error e
    | .ok (a, pos) => f a message pos

def fail (e : DecodeError) : Reader α := fun _ _ => .error e

def bytes (n : Nat) : Reader (List UInt8) := fun message pos =>
  if pos + n ≤ message.length then .ok ((message.drop pos).take n, pos + n)
  else .error .unexpectedEnd

def number (n : Nat) : Reader Nat := do
  let bs ← bytes n
  pure (bs.foldl (fun acc b => acc * 256 + b.toNat) 0)

def times (n : Nat) (r : Reader α) : Reader (List α) :=
  match n with
  | 0 => pure []
  | n + 1 => do
      let a ← r
      let rest ← times n r
      pure (a :: rest)

/-- A name with too many bytes is refused when it ends, whether at its root or at a pointer. -/
def endName (labels : WireName) (pos : Nat) : Except DecodeError (WireName × Nat) :=
  if 255 ≤ labels.size then .error (.nameTooLong labels.size) else .ok (labels, pos)

/-- Reads labels from `pos` on, for a name that starts at `start`. Behind a pointer, `limit` is the
start of the name that pointed here. Pointers lead to ever smaller starts, so the reading ends. -/
def labels (message : List UInt8) (start : Nat) (limit : Option Nat) (read : WireName)
    (pos : Nat) : Except DecodeError (WireName × Nat) :=
  match limit.filter (· ≤ pos) with
  | some other => .error (.overlap start other)
  | none =>
      match h : message[pos]? with
      | none => .error .unexpectedEnd
      | some b =>
          if b = 0 then endName read (pos + 1)
          else if 0xC0 ≤ b then
            match message[pos + 1]? with
            | none => .error .unexpectedEnd
            | some low =>
                let target := b.toNat % 0x40 * 256 + low.toNat
                if _ht : target < start then
                  match labels message target (some start) read target with
                  | .error e => .error e
                  | .ok (name, _) => endName name (pos + 2)
                else .error (.pointerNotPrior pos target)
          else if 0x40 ≤ b then .error (.labelCode b)
          else if hl : pos + 1 + b.toNat ≤ message.length then
            let read := read ++ [(message.drop (pos + 1)).take b.toNat]
            if 255 < read.size then .error (.nameTooLong b.toNat)
            else labels message start limit read (pos + 1 + b.toNat)
          else .error .unexpectedEnd
termination_by (start, message.length - pos)
decreasing_by
  · exact Prod.Lex.left _ _ _ht
  · apply Prod.Lex.right
    have := (List.getElem?_eq_some_iff.1 h).1
    omega

def name : Reader WireName := fun message pos => labels message pos none [] pos

end Reader

/-- The operation codes of queries, status requests, notifications and updates. -/
def opcodes : List Nat := [0, 2, 4, 5]

def headerCounts : Reader (Nat × Nat) := do
  let _ ← Reader.number 2
  let flags ← Reader.number 1
  let opcode := flags / 8 % 16
  if opcode ∈ opcodes then
    let _ ← Reader.number 1
    let questions ← Reader.number 2
    let answers ← Reader.number 2
    let _ ← Reader.number 4
    pure (questions, answers)
  else Reader.fail (.unknownOpcode opcode)

def question : Reader Unit := do
  let _ ← Reader.name
  let _ ← Reader.number 4
  pure ()

def answer : Reader (Nat × List UInt8) := do
  let _ ← Reader.name
  let type ← Reader.number 2
  let _ ← Reader.number 6
  let length ← Reader.number 2
  let rdata ← Reader.bytes length
  pure (type, rdata)

def answerSection : Reader (List (Nat × List UInt8)) := do
  let (questions, answers) ← headerCounts
  let _ ← Reader.times questions question
  Reader.times answers answer

/-- The CAA records among the answers of a message, all of them under the name that was asked for.
Answers of other types and malformed records are left out. -/
def caaRecords (name : String) (message : List UInt8) : Except DecodeError (List CaaRecord) :=
  match answerSection message 0 with
  | .error e => .error e
  | .ok (answers, _) =>
      .ok ((answers.filter (·.1 = RecordType.caa.code)).filterMap fun a =>
        CaaRecord.ofRdata? name a.2)

end IssuanceCheck.Dns
