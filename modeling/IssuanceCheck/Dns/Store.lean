import IssuanceCheck.Dns.Zone

namespace IssuanceCheck.Dns

structure Store where
  zone : Zone
  log : List Query

namespace Store

variable {α : Type}

def empty : Store := ⟨.empty, []⟩

def consult (store : Store) (check : Lookup → Asked α) : α × Store :=
  let asked := check store.zone.lookup
  (asked.value, { store with log := store.log ++ asked.trace })

def queried (store : Store) (type : RecordType) : List String := namesAsked type store.log

inductive Step where
  | addCaa (record : CaaRecord)
  | addAddress (name : String) (address : IpAddr)
  | fail (query : Query) (error : LookupError)
  | lookup (query : Query)
deriving DecidableEq, Repr

def step (store : Store) : Step → Option Answer × Store
  | .addCaa record => (none, { store with zone := store.zone.addCaa record })
  | .addAddress name address => (none, { store with zone := store.zone.addAddress name address })
  | .fail query error => (none, { store with zone := store.zone.fail query error })
  | .lookup query => (store.consult (ask · query)).map some id

def run (store : Store) : List Step → List Answer × Store
  | [] => ([], store)
  | step :: steps =>
      let (answer?, store) := store.step step
      let (answers, store) := store.run steps
      (answer?.toList ++ answers, store)

end Store

end IssuanceCheck.Dns
