import IssuanceCheck.Text.Blank
import IssuanceCheck.Text.Lowercase
import IssuanceCheck.Text.Search

namespace IssuanceCheck.Name

open Text

/-- White space around the name goes first, then the dots at its end. -/
def normalizeChars (cs : List Char) : List Char :=
  toAsciiLower (dropEndWhile (· = '.') (trim cs))

def normalize (name : String) : String := String.ofList (normalizeChars name.toList)

def splitWildcard (name : String) : String × Bool :=
  match name.toList with
  | '*' :: '.' :: rest => (String.ofList rest, true)
  | _ => (name, false)

def parentChars? (cs : List Char) : Option (List Char) :=
  ((splitFirst? '.' cs).map (·.2)).filter (!·.isEmpty)

def parent? (name : String) : Option String := (parentChars? name.toList).map String.ofList

theorem parentChars?_length {cs p : List Char} (h : parentChars? cs = some p) :
    p.length < cs.length := by
  simp only [parentChars?, Option.filter_eq_some_iff, Option.map_eq_some_iff] at h
  obtain ⟨⟨⟨a, b⟩, hs, rfl⟩, _⟩ := h
  rw [(splitFirst?_eq_some hs).1]
  simp
  omega

/-- The names from `cs` upwards, up to and including the first one that is a boundary. -/
def climb (boundary : List Char → Bool) (cs : List Char) : List (List Char) :=
  if boundary cs then [cs]
  else
    match _h : parentChars? cs with
    | none => [cs]
    | some p => cs :: climb boundary p
termination_by cs.length
decreasing_by exact parentChars?_length _h

/-- Whether a name is its own public suffix. A name that has none counts as one, too. -/
def isBoundary (suffix : String → Option String) (name : String) : Bool :=
  match suffix name with
  | some s => s == name
  | none => true

/-- The names that are asked for the policy of `name`, from the name itself up to its public
suffix. -/
def searchPath (suffix : String → Option String) (name : String) : List String :=
  (climb (fun cs => isBoundary suffix (String.ofList cs)) name.toList).map String.ofList

end IssuanceCheck.Name
