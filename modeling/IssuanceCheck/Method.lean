namespace IssuanceCheck

inductive Method where
  | http01
  | dns01
  | tlsAlpn01
deriving DecidableEq, Repr

namespace Method

def all : List Method := [http01, dns01, tlsAlpn01]

def text : Method → String
  | http01 => "http-01"
  | dns01 => "dns-01"
  | tlsAlpn01 => "tls-alpn-01"

def supportsWildcard (m : Method) : Bool := m = dns01

def ofText? (s : String) : Option Method := all.find? (·.text = s)

theorem ofText?_text (m : Method) : ofText? m.text = some m := by
  cases m <;> decide

end Method

instance : ToString Method := ⟨Method.text⟩

end IssuanceCheck
