import IssuanceCheck.Decimal
import IssuanceCheck.Fetch.Response

namespace IssuanceCheck.Fetch

inductive HeadError where
  | unfinished
  | version
  | status
  | header
deriving DecidableEq, Repr

def HeadError.message : HeadError → String
  | unfinished => "connection closed before message completed"
  | version => "invalid HTTP version parsed"
  | status => "invalid HTTP status-code parsed"
  | header => "invalid HTTP header parsed"

namespace Head

abbrev Line := List UInt8

def isBlankByte (b : UInt8) : Bool := b == 0x20 || b == 9

def isNameByte (b : UInt8) : Bool :=
  let c := Char.ofNat b.toNat
  b < 0x80 && (c.isAlphanum || "!#$%&'*+-.^_`|~".toList.contains c)

def isValueByte (b : UInt8) : Bool := b == 9 || (0x20 ≤ b && b != 0x7F)

def ofString (s : String) : List UInt8 := Text.encodeUtf8 s.toList

def carriageReturn : UInt8 := 13

def chomp (line : Line) : Line :=
  if line.getLast? = some carriageReturn then line.dropLast else line

def isBlankLine (line : Line) : Bool := chomp line == []

def versions : List (List UInt8) := [ofString "HTTP/1.1", ofString "HTTP/1.0"]

def statusCode (line : Line) : Except HeadError Nat :=
  match line with
  | [] => .error .unfinished
  | space :: rest =>
      if space ≠ 0x20 then .error .version
      else
        let code := (rest.take 3).map fun b => Char.ofNat b.toNat
        if !code.all Char.isDigit then .error .status
        else
          match Decimal.readDigits? code, rest.drop 3 with
          | some n, [] => if 100 ≤ n then .ok n else .error .status
          | some n, b :: reason =>
              if 100 ≤ n ∧ b = 0x20 ∧ reason.all isValueByte then .ok n else .error .status
          | none, _ => .error .unfinished

/-- Reads a status line. `isWhole` tells whether its end has been seen; before that, a line can be
unfinished rather than wrong. -/
def status (isWhole : Bool) (line : Line) : Except HeadError Nat :=
  let line := chomp line
  match versions.find? (·.isPrefixOf line) with
  | some version =>
      match statusCode (line.drop version.length) with
      | .ok n => if isWhole then .ok n else .error .unfinished
      | .error .unfinished => .error (if isWhole then .status else .unfinished)
      | .error e => .error e
  | none =>
      if !isWhole && versions.any (line.isPrefixOf ·) then .error .unfinished else .error .version

def header? (line : Line) : Option Header :=
  match (chomp line).dropWhile isNameByte with
  | 0x3A :: value =>
      let name := (chomp line).takeWhile isNameByte
      if !name.isEmpty && value.all isValueByte then
        some ⟨String.ofList (name.map fun b => Char.ofNat b.toNat),
          ((value.dropWhile isBlankByte).reverse.dropWhile isBlankByte).reverse⟩
      else none
  | _ => none

/-- Whether a line whose end has not been seen can still become a header, or the end of the head. -/
def isOpenHeader (line : Line) : Bool :=
  isBlankLine line || line.all isNameByte || (header? line).isSome

def headers : List Line → Except HeadError (List Header × List Line)
  | [] => .error .unfinished
  | [line] => .error (if isOpenHeader line then .unfinished else .header)
  | line :: next :: rest =>
      if isBlankLine line then .ok ([], next :: rest)
      else
        match header? line with
        | none => .error .header
        | some h => (headers (next :: rest)).map fun read => (h :: read.1, read.2)

theorem headers_length {lines : List Line} {hs : List Header} {rest : List Line}
    (h : headers lines = .ok (hs, rest)) : rest.length < lines.length := by
  induction lines generalizing hs with
  | nil => simp [headers] at h
  | cons line lines ih =>
      cases lines with
      | nil => simp [headers] at h
      | cons next lines =>
          unfold headers at h
          split at h
          · simp only [Except.ok.injEq, Prod.mk.injEq] at h
            simp [← h.2]
          · split at h
            · simp at h
            · cases hr : headers (next :: lines) with
              | error e => simp [hr, Except.map] at h
              | ok read =>
                  simp only [hr, Except.map, Except.ok.injEq, Prod.mk.injEq] at h
                  have := @ih read.1 (by rw [hr, ← h.2])
                  simp only [List.length_cons] at this ⊢
                  omega

def isInterim (status : Nat) : Bool := 100 ≤ status && status < 200 && status != 101

/-- Reads the first response that is not interim. Blank lines in front of a head are passed over. -/
def response : List Line → Except HeadError Response
  | [] => .error .unfinished
  | [line] => if isBlankLine line then .error .unfinished else
      match status false line with
      | .error e => .error e
      | .ok _ => .error .unfinished
  | line :: next :: rest =>
      if isBlankLine line then response (next :: rest)
      else
        match status true line with
        | .error e => .error e
        | .ok code =>
            match _h : headers (next :: rest) with
            | .error e => .error e
            | .ok (hs, behind) => if isInterim code then response behind else .ok ⟨code, hs⟩
termination_by lines => lines.length
decreasing_by
  · simp
  · have := headers_length _h
    simp only [List.length_cons] at this ⊢
    omega

def bytes (status : Nat) (headers : List (List UInt8 × List UInt8)) (body : List UInt8) :
    List UInt8 :=
  let line (bs : List UInt8) := bs ++ ofString "\r\n"
  let field (name value : List UInt8) := line (name ++ ofString ": " ++ value)
  line (ofString s!"HTTP/1.1 {status} ") ++ headers.flatMap (fun h => field h.1 h.2) ++
    field (ofString "Content-Length") (ofString (Decimal.text body.length)) ++
    field (ofString "Connection") (ofString "close") ++ line [] ++ body

end Head

def Response.ofBytes (bytes : List UInt8) : Except HeadError Response :=
  Head.response (bytes.splitOn 10)

end IssuanceCheck.Fetch
