import ZoneSync.Address.Ip
import ZoneSync.Address.Ipv4
import ZoneSync.Address.Ipv6
import ZoneSync.Cli.Arguments
import ZoneSync.Cli.Run
import ZoneSync.Cloudflare.Answer
import ZoneSync.Cloudflare.Client
import ZoneSync.Cloudflare.Payload
import ZoneSync.Cloudflare.Wire
import ZoneSync.Config.Basic
import ZoneSync.Config.Json
import ZoneSync.Config.Registry
import ZoneSync.Config.Settings
import ZoneSync.Decimal.Binary64
import ZoneSync.Decimal.Power
import ZoneSync.Decimal.Shortest
import ZoneSync.Document.Basic
import ZoneSync.Document.DesiredState
import ZoneSync.Document.Entry
import ZoneSync.Document.Grammar
import ZoneSync.Document.Report
import ZoneSync.Error
import ZoneSync.Http.Exchange
import ZoneSync.Http.Host
import ZoneSync.Http.Percent
import ZoneSync.Http.Status
import ZoneSync.Http.Url
import ZoneSync.Json.Basic
import ZoneSync.Json.Decode
import ZoneSync.Json.Reader
import ZoneSync.Main
import ZoneSync.Name
import ZoneSync.Nameserver.Answer
import ZoneSync.Nameserver.DnsName
import ZoneSync.Nameserver.Fault
import ZoneSync.Nameserver.Resolver
import ZoneSync.Plan.Apply
import ZoneSync.Plan.Basic
import ZoneSync.Proofs.Address.Blanks
import ZoneSync.Proofs.Concurrency.Client
import ZoneSync.Proofs.Concurrency.Convergence
import ZoneSync.Proofs.Concurrency.Evolution
import ZoneSync.Proofs.Concurrency.System
import ZoneSync.Proofs.Document.Loading
import ZoneSync.Proofs.Plan.Answers
import ZoneSync.Proofs.Plan.Entries
import ZoneSync.Proofs.Propagation.Agreement
import ZoneSync.Proofs.Propagation.Spelling
import ZoneSync.Proofs.Record.Identity
import ZoneSync.Proofs.Sync.Frame
import ZoneSync.Proofs.Sync.Residual
import ZoneSync.Proofs.Text.Ends
import ZoneSync.Proofs.Zone.Identifiers
import ZoneSync.Propagation.Report
import ZoneSync.Propagation.Verifier
import ZoneSync.Provider
import ZoneSync.Record.Answer
import ZoneSync.Record.Basic
import ZoneSync.Record.Comparison
import ZoneSync.Record.Key
import ZoneSync.Record.Type
import ZoneSync.Resolver
import ZoneSync.Text.Blank
import ZoneSync.Text.Digits
import ZoneSync.Text.Quoted
import ZoneSync.Text.Strip
import ZoneSync.Text.Unprintable
import ZoneSync.Text.Utf8
import ZoneSync.Yaml.Cursor
import ZoneSync.Yaml.Document
import ZoneSync.Yaml.Fault
import ZoneSync.Yaml.Node
import ZoneSync.Yaml.Reading
import ZoneSync.Yaml.Scalar
import ZoneSync.Yaml.ScalarStyle
import ZoneSync.Yaml.ScalarText
import ZoneSync.Yaml.Token
import ZoneSync.Yaml.Token.Lexer
import ZoneSync.Yaml.Value
import ZoneSync.Yaml.Writer
import ZoneSync.Zone
import ZoneSync.Proofs.Document.Names
import ZoneSync.Proofs.Plan.Deletions
import ZoneSync.Proofs.Address.Literals
import ZoneSync.Proofs.Document.Description
import ZoneSync.Proofs.Document.Acceptance
import ZoneSync.Proofs.Cloudflare.ReadBack
import ZoneSync.Proofs.Runs.Logs
import ZoneSync.Proofs.Plan.Calls
import ZoneSync.Proofs.Propagation.Lookups
import ZoneSync.Proofs.Propagation.Soundness
import ZoneSync.Proofs.Cloudflare.Requests
import ZoneSync.Proofs.Cloudflare.Listing
import ZoneSync.Proofs.Cloudflare.Changes
import ZoneSync.Proofs.Cli.Sync
import ZoneSync.Proofs.Document.Problems
import ZoneSync.Proofs.Document.Rendering
import ZoneSync.Proofs.Record.Meaning
import ZoneSync.Proofs.Plan.Matching
import ZoneSync.Proofs.Sync.Settling
import ZoneSync.Proofs.Plan.Minimality
import ZoneSync.Proofs.Address.Texts
import ZoneSync.Proofs.Cloudflare.Settlement
import ZoneSync.Proofs.Nameserver.Queries
import ZoneSync.Proofs.Cli.Status
import ZoneSync.Proofs.Plan.Locality
import ZoneSync.Proofs.Plan.Assignment
import ZoneSync.Proofs.Text.Octets
import ZoneSync.Proofs.Nameserver.CharacterStrings
import ZoneSync.Proofs.Nameserver.Texts
import ZoneSync.Proofs.Propagation.Foreign
import ZoneSync.Proofs.Propagation.Pacing
import ZoneSync.Proofs.Document.Masking
import ZoneSync.Proofs.Cloudflare.Paging
import ZoneSync.Proofs.Http.Fields
import ZoneSync.Proofs.Cloudflare.Lookup
import ZoneSync.Proofs.Name.Domains
import ZoneSync.Proofs.Propagation.Comparison
import ZoneSync.Proofs.Document.Integers
import ZoneSync.Proofs.Nameserver.Distinct
import ZoneSync.Proofs.Text.Words
import ZoneSync.Proofs.Cloudflare.Services
