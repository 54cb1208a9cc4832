import IssuanceCheck.Dns.Lookup

namespace IssuanceCheck.Dns

structure Zone where
  lookup : Lookup

namespace Zone

def empty : Zone := ⟨fun _ => .ok []⟩

/-- Adds a record behind those of the same name and type; a failure stays one. -/
def add (zone : Zone) (query : Query) (record : Record) : Zone :=
  ⟨fun q => if q = query then (zone.lookup q).map (· ++ [record]) else zone.lookup q⟩

def fail (zone : Zone) (query : Query) (error : LookupError) : Zone :=
  ⟨fun q => if q = query then .error error else zone.lookup q⟩

def addCaa (zone : Zone) (record : CaaRecord) : Zone :=
  zone.add ⟨record.name, .caa⟩ (.caa record)

def addAddress (zone : Zone) (name : String) : IpAddr → Zone
  | .v4 address => zone.add ⟨name, .a⟩ (.a address)
  | .v6 address => zone.add ⟨name, .aaaa⟩ (.aaaa address)

end Zone

end IssuanceCheck.Dns
