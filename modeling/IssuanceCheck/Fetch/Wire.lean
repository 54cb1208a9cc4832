import IssuanceCheck.Fetch.Follow
import IssuanceCheck.Text.Base64
import IssuanceCheck.Url.Percent

namespace IssuanceCheck.Fetch

open Text

/-- The user name and the password of a URL, if it has any and they are UTF-8. A password that is
not counts for nothing. -/
def credentials? (url : Url) : Option (List Char) := do
  let authority ← url.authority
  let name ← decodeStrict? (Url.percentDecode authority.username.toList)
  let password := decodeStrict? (Url.percentDecode authority.password.toList)
  if authority.username = "" ∧ (authority.password = "" ∨ password = none) then none
  else some (name ++ ':' :: password.getD [])

namespace Request

def target (r : Request) : Url :=
  if (credentials? r.url).isSome then r.url.withoutUserinfo else r.url

def line (r : Request) : String :=
  let query := (r.url.query.map fun q => "?" ++ q).getD ""
  s!"GET {String.ofList r.url.path.chars}{query} HTTP/1.1"

def announcedHost (r : Request) : String :=
  r.host.getD ((r.url.hostText?.getD "") ++ (r.url.port?.map fun p => s!":{p}").getD "")

def headers (r : Request) (userAgent : String) : List (String × String) :=
  let authorization := (credentials? r.url).map fun c =>
    ("authorization", "Basic " ++ String.ofList (base64 (encodeUtf8 c)))
  [("accept", "*/*")] ++ authorization.toList ++
    [("host", r.announcedHost), ("user-agent", userAgent)]

end Request

end IssuanceCheck.Fetch
