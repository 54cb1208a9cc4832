import IssuanceCheck.Dns.Record
import IssuanceCheck.Traced

namespace IssuanceCheck.Dns

structure Query where
  name : String
  type : RecordType
deriving DecidableEq, Repr

/-- Why a query has no answer. A name without records is no failure. -/
inductive LookupError where
  | invalidName (name reason : String)
  | unresolved (reason : String)
deriving DecidableEq, Repr

def LookupError.message : LookupError → String
  | invalidName name reason => s!"invalid domain name {Text.quoted name}: {reason}"
  | unresolved reason => reason

abbrev Answer := Except LookupError (List Record)

abbrev Lookup := Query → Answer

abbrev Asked := Traced Query

def ask (lookup : Lookup) (query : Query) : Asked Answer := ⟨[query], lookup query⟩

@[simp] theorem ask_trace (lookup : Lookup) (query : Query) :
    (ask lookup query).trace = [query] := rfl

@[simp] theorem ask_value (lookup : Lookup) (query : Query) :
    (ask lookup query).value = lookup query := rfl

def namesAsked (type : RecordType) (queries : List Query) : List String :=
  (queries.filter (·.type = type)).map (·.name)

end IssuanceCheck.Dns
