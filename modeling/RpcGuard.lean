import RpcGuard.Credentials
import RpcGuard.Gateway
import RpcGuard.Proofs.Base64
import RpcGuard.Proofs.Policy.Rules
import RpcGuard.Proofs.Presentation
import RpcGuard.Settings.Document
import RpcGuard.Settings.Files
import RpcGuard.Proofs.Mediation
import RpcGuard.Proofs.Json.Reading
import RpcGuard.Proofs.Jwt.Anatomy
import RpcGuard.Proofs.Acceptance
import RpcGuard.Proofs.Session
import RpcGuard.Proofs.Keys.Recording
import RpcGuard.Proofs.Keys.Currency
import RpcGuard.Proofs.Keys.Sections
import RpcGuard.Proofs.Keys.Interleaving
import RpcGuard.Proofs.Keys.Concurrency
import RpcGuard.Proofs.Keys.Failure
import RpcGuard.Proofs.Claims.Reading
import RpcGuard.Proofs.Claims.Entries
import RpcGuard.Proofs.Gateway
import RpcGuard.Proofs.Lookup
import RpcGuard.Proofs.Paths
import RpcGuard.Proofs.Yaml.Commentary
import RpcGuard.Proofs.Settings.Overlay
import RpcGuard.Proofs.Window
import RpcGuard.Proofs.Credentials
import RpcGuard.Proofs.Keys.Budget
import RpcGuard.Proofs.Claims.Roles
import RpcGuard.Proofs.Number
import RpcGuard.Proofs.Policy.Authority
import RpcGuard.Proofs.Claims.Payloads
import RpcGuard.Proofs.Keys.Selection
import RpcGuard.Proofs.Yaml.Distinct
import RpcGuard.Proofs.Yaml.Named
import RpcGuard.Proofs.Settings.Fieldwise
import RpcGuard.Proofs.Yaml.Merging
import RpcGuard.Proofs.Construction
import RpcGuard.Proofs.Trust.Precedence
import RpcGuard.Proofs.Keys.Armor
import RpcGuard.Proofs.Trust.PublicKey
import RpcGuard.Proofs.Policy.Resources
import RpcGuard.Proofs.Text.Utf8
import RpcGuard.Proofs.Yaml.Sameness
import RpcGuard.Proofs.Rounding
import RpcGuard.Proofs.Claims.Dates
import RpcGuard.Proofs.Json.Writing
import RpcGuard.Proofs.Keys.Documents
import RpcGuard.Proofs.Url.Authority
import RpcGuard.Proofs.Trust.WellKnown
