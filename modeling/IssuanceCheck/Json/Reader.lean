import IssuanceCheck.Json
import IssuanceCheck.Text.Ranges

namespace IssuanceCheck.Json

open Text

def isSpace (c : Char) : Bool := c == ' ' || c == '\t' || c == '\n' || c == '\r'

def skipSpaces (cs : List Char) : List Char := cs.dropWhile isSpace

def readUnit? : List Char → Option (Nat × List Char)
  | a :: b :: c :: d :: rest => do
      some (((← hexDigit? a) * 0x1000 + (← hexDigit? b) * 0x100 + (← hexDigit? c) * 0x10 +
        (← hexDigit? d)), rest)
  | _ => none

def isHighSurrogate (unit : Nat) : Bool := 0xD800 ≤ unit && unit < 0xDC00

def isLowSurrogate (unit : Nat) : Bool := 0xDC00 ≤ unit && unit < 0xE000

/-- The character whose code is written behind `\u`. A surrogate counts only in front of its other
half. -/
def readCode? (cs : List Char) : Option (Char × List Char) := do
  let (unit, rest) ← readUnit? cs
  if isHighSurrogate unit then
    match rest with
    | '\\' :: 'u' :: rest => do
        let (low, rest) ← readUnit? rest
        if isLowSurrogate low then
          some (Char.ofNat (0x10000 + (unit - 0xD800) * 0x400 + (low - 0xDC00)), rest)
        else none
    | _ => none
  else if isLowSurrogate unit then none
  else some (Char.ofNat unit, rest)

def escapes : List (Char × Char) :=
  [('"', '"'), ('\\', '\\'), ('/', '/'), ('b', '\x08'), ('t', '\t'), ('n', '\n'), ('f', '\x0c'),
    ('r', '\r')]

def readEscape? : List Char → Option (Char × List Char)
  | [] => none
  | c :: rest =>
      if c = 'u' then readCode? rest else (escapes.lookup c).map fun escaped => (escaped, rest)

theorem readUnit?_length {cs rest : List Char} {unit : Nat} (h : readUnit? cs = some (unit, rest)) :
    rest.length < cs.length := by
  unfold readUnit? at h
  split at h
  · simp only [Option.bind_eq_bind, Option.bind_eq_some_iff, Option.some.injEq,
      Prod.mk.injEq] at h
    obtain ⟨_, _, _, _, _, _, _, _, _, rfl⟩ := h
    simp
    omega
  · simp at h

theorem readCode?_length {cs rest : List Char} {c : Char} (h : readCode? cs = some (c, rest)) :
    rest.length < cs.length := by
  unfold readCode? at h
  cases hu : readUnit? cs with
  | none => simp [hu] at h
  | some read =>
      obtain ⟨unit, behind⟩ := read
      have hl := readUnit?_length hu
      simp only [hu, Option.bind_eq_bind, Option.bind_some] at h
      split at h
      · split at h
        · rename_i tail
          cases hlow : readUnit? tail with
          | none => simp [hlow] at h
          | some read =>
              obtain ⟨low, behind⟩ := read
              have := readUnit?_length hlow
              simp only [hlow, Option.bind_some] at h
              split at h
              · simp only [Option.some.injEq, Prod.mk.injEq] at h
                simp only [List.length_cons] at hl
                rw [← h.2]
                omega
              · simp at h
        · simp at h
      · split at h
        · simp at h
        · simp only [Option.some.injEq, Prod.mk.injEq] at h
          simpa [← h.2] using hl

theorem readEscape?_length {cs rest : List Char} {c : Char} (h : readEscape? cs = some (c, rest)) :
    rest.length < cs.length := by
  unfold readEscape? at h
  split at h
  · simp at h
  · split at h
    · exact Nat.lt_succ_of_lt (readCode?_length h)
    · simp only [Option.map_eq_some_iff, Prod.mk.injEq] at h
      obtain ⟨_, _, _, rfl⟩ := h
      simp

def readString? (cs : List Char) : Option (List Char × List Char) :=
  match cs with
  | [] => none
  | c :: rest =>
      if c = '"' then some ([], rest)
      else if c = '\\' then
        match _h : readEscape? rest with
        | none => none
        | some (c, rest) => (readString? rest).map fun read => (c :: read.1, read.2)
      else if c.toNat < 0x20 then none
      else (readString? rest).map fun read => (c :: read.1, read.2)
termination_by cs.length
decreasing_by
  · have := readEscape?_length _h
    simp only [List.length_cons]
    omega
  · simp

def readNumber? (cs : List Char) : Option (Nat × List Char) :=
  let digits := cs.takeWhile Char.isDigit
  if digits.head? = some '0' ∧ 1 < digits.length then none
  else (Decimal.readDigits? digits).map fun n => (n, cs.dropWhile Char.isDigit)

mutual

/-- Reads a value, behind any white space, with at most `n` nested steps. -/
def readValue? (n : Nat) (cs : List Char) : Option (Json × List Char) :=
  match n with
  | 0 => none
  | n + 1 =>
      match skipSpaces cs with
      | '"' :: rest => (readString? rest).map fun read => (string (String.ofList read.1), read.2)
      | '[' :: rest =>
          match skipSpaces rest with
          | ']' :: rest => some (array [], rest)
          | rest => (readItems? n rest).map fun read => (array read.1, read.2)
      | '\x7b' :: rest =>
          match skipSpaces rest with
          | '\x7d' :: rest => some (object [], rest)
          | rest => (readFields? n rest).map fun read => (object read.1, read.2)
      | 'n' :: 'u' :: 'l' :: 'l' :: rest => some (null, rest)
      | 't' :: 'r' :: 'u' :: 'e' :: rest => some (bool true, rest)
      | 'f' :: 'a' :: 'l' :: 's' :: 'e' :: rest => some (bool false, rest)
      | rest => (readNumber? rest).map fun read => (number read.1, read.2)

def readItems? (n : Nat) (cs : List Char) : Option (List Json × List Char) :=
  match n with
  | 0 => none
  | n + 1 =>
      match readValue? n cs with
      | none => none
      | some (item, rest) =>
          match skipSpaces rest with
          | ',' :: rest => (readItems? n rest).map fun read => (item :: read.1, read.2)
          | ']' :: rest => some ([item], rest)
          | _ => none

def readFields? (n : Nat) (cs : List Char) : Option (List (String × Json) × List Char) :=
  match n with
  | 0 => none
  | n + 1 =>
      match skipSpaces cs with
      | '"' :: rest =>
          match readString? rest with
          | none => none
          | some (key, rest) =>
              match skipSpaces rest with
              | ':' :: rest =>
                  match readValue? n rest with
                  | none => none
                  | some (value, rest) =>
                      match skipSpaces rest with
                      | ',' :: rest =>
                          (readFields? n rest).map fun read =>
                            ((String.ofList key, value) :: read.1, read.2)
                      | '\x7d' :: rest => some ([(String.ofList key, value)], rest)
                      | _ => none
              | _ => none
      | _ => none

end

/-- Reads a document. Numbers have to be natural. Every two steps take a character, so the bound on
the steps is never met. -/
def read? (document : String) : Option Json :=
  match readValue? (2 * document.length + 2) document.toList with
  | some (j, rest) => if (skipSpaces rest).isEmpty then some j else none
  | none => none

end IssuanceCheck.Json
