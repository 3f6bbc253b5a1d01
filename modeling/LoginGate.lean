import LoginGate.Address
import LoginGate.Challenge
import LoginGate.Channel
import LoginGate.Environment
import LoginGate.Form
import LoginGate.Gate.Basic
import LoginGate.Gate.Callback
import LoginGate.Gate.Decision
import LoginGate.Gate.Outcome
import LoginGate.Gate.Setup
import LoginGate.Identity
import LoginGate.Instant
import LoginGate.Json.Basic
import LoginGate.Json.Fault
import LoginGate.Json.Reader
import LoginGate.Json.Spelled
import LoginGate.Json.Writer
import LoginGate.Log
import LoginGate.Login
import LoginGate.Number.Double
import LoginGate.Number.Reader
import LoginGate.Number.Shortest
import LoginGate.Proofs.Acceptance
import LoginGate.Proofs.Addressed
import LoginGate.Proofs.Admission
import LoginGate.Proofs.Beside
import LoginGate.Proofs.Breakdown
import LoginGate.Proofs.Browsers
import LoginGate.Proofs.CallbackPath
import LoginGate.Proofs.Clock
import LoginGate.Proofs.Completion
import LoginGate.Proofs.Course
import LoginGate.Proofs.Custody
import LoginGate.Proofs.Destination
import LoginGate.Proofs.Discovery
import LoginGate.Proofs.Effects
import LoginGate.Proofs.ErrorPage
import LoginGate.Proofs.Escapes
import LoginGate.Proofs.Eviction
import LoginGate.Proofs.Evolution
import LoginGate.Proofs.Exchange
import LoginGate.Proofs.FormReplay
import LoginGate.Proofs.FormText
import LoginGate.Proofs.Grants
import LoginGate.Proofs.Handover
import LoginGate.Proofs.IdleTimeout
import LoginGate.Proofs.Issuance
import LoginGate.Proofs.Landing
import LoginGate.Proofs.Leases
import LoginGate.Proofs.Lineage
import LoginGate.Proofs.Mirror
import LoginGate.Proofs.Names
import LoginGate.Proofs.Origin
import LoginGate.Proofs.Passage
import LoginGate.Proofs.Passive
import LoginGate.Proofs.Persistence
import LoginGate.Proofs.Pools
import LoginGate.Proofs.Precedence
import LoginGate.Proofs.Preparation
import LoginGate.Proofs.Protection
import LoginGate.Proofs.Provenance
import LoginGate.Proofs.Reachable
import LoginGate.Proofs.Readback
import LoginGate.Proofs.Record
import LoginGate.Proofs.Refusal
import LoginGate.Proofs.Relogin
import LoginGate.Proofs.Renewal
import LoginGate.Proofs.Replay
import LoginGate.Proofs.Responses
import LoginGate.Proofs.Revocation
import LoginGate.Proofs.Rounding
import LoginGate.Proofs.Run
import LoginGate.Proofs.Saving
import LoginGate.Proofs.Secrecy
import LoginGate.Proofs.Segments
import LoginGate.Proofs.SingleReplay
import LoginGate.Proofs.Steps
import LoginGate.Proofs.Tandem
import LoginGate.Proofs.Turnover
import LoginGate.Proofs.Twins
import LoginGate.Proofs.Uses
import LoginGate.Proofs.Utf8
import LoginGate.Provider.Configuration
import LoginGate.Provider.IdToken
import LoginGate.Provider.TokenClock
import LoginGate.Provider.TokenEndpoint
import LoginGate.Provider.Wire
import LoginGate.Request
import LoginGate.Secret
import LoginGate.Session.Attribute
import LoginGate.Session.Basic
import LoginGate.Session.Csrf
import LoginGate.Session.Pool
import LoginGate.Session.SavedRequest
import LoginGate.Session.Store
import LoginGate.Settings
import LoginGate.Supply
import LoginGate.Text.Base64Url
import LoginGate.Text.Blank
import LoginGate.Text.Case
import LoginGate.Text.Digit
import LoginGate.Text.Encoding
import LoginGate.Text.Octets
import LoginGate.Text.Percent
import LoginGate.Text.Pieces
import LoginGate.Text.Printable
import LoginGate.Text.Quoted
import LoginGate.Text.Utf8
import LoginGate.Text.Wide
import LoginGate.Text.WordCase
import LoginGate.Users
import LoginGate.Web.Application
import LoginGate.Web.Cookie
import LoginGate.Web.Guard
import LoginGate.Web.Handling
import LoginGate.Web.Host
import LoginGate.Web.Inbound
import LoginGate.Web.PathTemplate
import LoginGate.Web.Response
import LoginGate.Web.Route
import LoginGate.Web.Sample
import LoginGate.Web.Url
