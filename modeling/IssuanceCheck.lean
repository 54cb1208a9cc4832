import IssuanceCheck.Dns.Message.Bytes
import IssuanceCheck.Dns.Store
import IssuanceCheck.Fetch.Join
import IssuanceCheck.Json.Reader
import IssuanceCheck.Main
import IssuanceCheck.Proofs.Assembly
import IssuanceCheck.Proofs.Caa.Decision
import IssuanceCheck.Proofs.Caa.Evidence
import IssuanceCheck.Proofs.Caa.Findings
import IssuanceCheck.Proofs.Caa.Issuer
import IssuanceCheck.Proofs.Caa.Published
import IssuanceCheck.Proofs.Caa.Walk
import IssuanceCheck.Proofs.Diagnosis
import IssuanceCheck.Proofs.Dns.Carries
import IssuanceCheck.Proofs.Dns.Composed
import IssuanceCheck.Proofs.Dns.Name
import IssuanceCheck.Proofs.Dns.Reader
import IssuanceCheck.Proofs.Dns.Reencoded
import IssuanceCheck.Proofs.Dns.Store
import IssuanceCheck.Proofs.Dns.Truncation
import IssuanceCheck.Proofs.Fetch.Bound
import IssuanceCheck.Proofs.Fetch.Causes
import IssuanceCheck.Proofs.Fetch.Challenge
import IssuanceCheck.Proofs.Fetch.Dial
import IssuanceCheck.Proofs.Fetch.Lockstep
import IssuanceCheck.Proofs.Fetch.Mismatch
import IssuanceCheck.Proofs.Fetch.Observed
import IssuanceCheck.Proofs.Fetch.Pinned
import IssuanceCheck.Proofs.Fetch.Redirect
import IssuanceCheck.Proofs.Fetch.Rules
import IssuanceCheck.Proofs.Fetch.Run
import IssuanceCheck.Proofs.Fetch.Safety
import IssuanceCheck.Proofs.Fetch.Signature
import IssuanceCheck.Proofs.Fetch.WrittenPort
import IssuanceCheck.Proofs.Footprint
import IssuanceCheck.Proofs.Idna.Inert
import IssuanceCheck.Proofs.Ip
import IssuanceCheck.Proofs.Json
import IssuanceCheck.Proofs.Name.Normal
import IssuanceCheck.Proofs.Name.Path
import IssuanceCheck.Proofs.Name.Wildcard
import IssuanceCheck.Proofs.Report
import IssuanceCheck.Proofs.Report.Plain
import IssuanceCheck.Proofs.Suffix.Path
import IssuanceCheck.Proofs.Suffix.Rules
import IssuanceCheck.Proofs.Text.Ascii
import IssuanceCheck.Proofs.Text.Lines
import IssuanceCheck.Proofs.Url.Host
import IssuanceCheck.Proofs.Url.Hosted
import IssuanceCheck.Proofs.Url.Parts
import IssuanceCheck.Proofs.Url.Port
import IssuanceCheck.Proofs.Url.Reference
