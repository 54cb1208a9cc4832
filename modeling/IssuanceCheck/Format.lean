namespace IssuanceCheck

inductive Format where
  | plain
  | json
deriving DecidableEq, Repr

namespace Format

def all : List Format := [plain, json]

def text : Format → String
  | plain => "plain"
  | json => "json"

def ofText? (s : String) : Option Format := all.find? (·.text = s)

theorem ofText?_text (f : Format) : ofText? f.text = some f := by
  cases f <;> decide

end Format

end IssuanceCheck
