import VersionedApi.Main
import VersionedApi.Text.ShellWords
import VersionedApi.Proofs.Version.Key
import VersionedApi.Proofs.Version.Matching
import VersionedApi.Proofs.Outcome
import VersionedApi.Proofs.Session.Landing
import VersionedApi.Proofs.Session.Chain
import VersionedApi.Proofs.Session.Preparation
import VersionedApi.Proofs.Session.Redaction
import VersionedApi.Proofs.Session.Secrecy
import VersionedApi.Proofs.Text.Pieces
import VersionedApi.Proofs.Url.Path
import VersionedApi.Proofs.Text.Numeral
import VersionedApi.Proofs.Url.Ipv4
import VersionedApi.Proofs.Url.Ipv6
import VersionedApi.Proofs.Text.Composition
import VersionedApi.Proofs.Url.Domain
import VersionedApi.Proofs.Text.Utf8
import VersionedApi.Proofs.Url.Host
import VersionedApi.Proofs.Url.Authority
import VersionedApi.Proofs.Discovery.Findings
import VersionedApi.Proofs.Discovery.Run
import VersionedApi.Proofs.Version.Collision
import VersionedApi.Proofs.Session.Course
import VersionedApi.Proofs.Discovery.Listing
import VersionedApi.Proofs.Session.Budget
import VersionedApi.Proofs.Discovery.SelfLink
import VersionedApi.Proofs.Discovery.Shapes
import VersionedApi.Proofs.Config.Given
import VersionedApi.Proofs.CommandLine.Precedence
import VersionedApi.Proofs.Http.Header
import VersionedApi.Proofs.Url.Form
import VersionedApi.Proofs.Session.Headers
import VersionedApi.Proofs.Session.FirstRequest
import VersionedApi.Proofs.Session.Refusal
import VersionedApi.Proofs.Text.ShellWords
import VersionedApi.Proofs.Session.Replay
import VersionedApi.Proofs.Discovery.Correction
import VersionedApi.Proofs.Session.Report
import VersionedApi.Proofs.Json.Members
import VersionedApi.Proofs.Json.Parts
import VersionedApi.Proofs.Version.Entry
import VersionedApi.Proofs.Config.Override
import VersionedApi.Proofs.Version.Arrangement
import VersionedApi.Proofs.Version.Spelling
import VersionedApi.Proofs.Config.Omission
import VersionedApi.Proofs.Session.Outside
import VersionedApi.Proofs.Text.Trim
import VersionedApi.Proofs.Config.Policy
import VersionedApi.Proofs.Session.Encoding
import VersionedApi.Proofs.Session.Streaming
