import CloudClient.Duration
import CloudClient.Error
import CloudClient.Href
import CloudClient.Http.Client
import CloudClient.Http.Dialogue
import CloudClient.Http.Message
import CloudClient.Http.Limiter
import CloudClient.Http.Retry
import CloudClient.Json.Basic
import CloudClient.Json.Binary64
import CloudClient.Json.DecodeError
import CloudClient.Json.Decoder
import CloudClient.Json.Numeral
import CloudClient.Json.Path
import CloudClient.Json.Token
import CloudClient.Json.Tree
import CloudClient.Json.Writer
import CloudClient.Page.Basic
import CloudClient.Page.Codec
import CloudClient.Page.Cursor
import CloudClient.Page.Listing
import CloudClient.Page.Options
import CloudClient.Proofs.Queue.Loops
import CloudClient.Proofs.Queue.WellFormed
import CloudClient.Queue.Admin
import CloudClient.Queue.Command
import CloudClient.Queue.Identity
import CloudClient.Queue.Message
import CloudClient.Queue.Remote
import CloudClient.Queue.Store
import CloudClient.Service
import CloudClient.Text.Basic
import CloudClient.Text.Canonical
import CloudClient.Text.CombiningClass
import CloudClient.Text.Composite
import CloudClient.Text.Direction
import CloudClient.Text.Quoted
import CloudClient.Text.Joining
import CloudClient.Text.Mark
import CloudClient.Text.Utf8
import CloudClient.Url.Address
import CloudClient.Url.Basic
import CloudClient.Url.Domain
import CloudClient.Url.DomainTable
import CloudClient.Url.FoldTable
import CloudClient.Url.FoldWords
import CloudClient.Url.Form
import CloudClient.Url.Parser
import CloudClient.Url.Percent
import CloudClient.Url.Punycode
import CloudClient.Proofs.Queue.Operations
import CloudClient.Proofs.Queue.Purging
import CloudClient.Proofs.Queue.Run
import CloudClient.Proofs.Queue.Consistency
import CloudClient.Proofs.Queue.LazyPurge
import CloudClient.Proofs.Queue.Exclusivity
import CloudClient.Proofs.Queue.Lifetime
import CloudClient.Proofs.Page.Advance
import CloudClient.Proofs.Page.Trace
import CloudClient.Proofs.Page.Resumption
import CloudClient.Proofs.Text.Digits
import CloudClient.Proofs.Queue.Numbering
import CloudClient.Proofs.Queue.Streaming
import CloudClient.Proofs.Text.Utf8
import CloudClient.Proofs.Url.Form
import CloudClient.Proofs.Href
import CloudClient.Proofs.Json.Path
import CloudClient.Proofs.Page.Codec
import CloudClient.Proofs.Service
import CloudClient.Proofs.Http.Retrying
import CloudClient.Proofs.Duration
import CloudClient.Proofs.Http.Backoff
import CloudClient.Proofs.Queue.Consumers
import CloudClient.Proofs.Resource
import CloudClient.Proofs.Queue.Agreement
import CloudClient.Proofs.Queue.ClaimLifetime
import CloudClient.Proofs.Json.Decoder
import CloudClient.Proofs.Queue.Message
import CloudClient.Proofs.Queue.ClaimIdentity
import CloudClient.Proofs.Queue.Wire
import CloudClient.Proofs.Queue.Paging
import CloudClient.Proofs.Queue.Views
import CloudClient.Proofs.Queue.Claiming
import CloudClient.Proofs.Queue.Refusals
import CloudClient.Proofs.Queue.Edits
import CloudClient.Proofs.Queue.Posting
import CloudClient.Proofs.Page.Consumption
import CloudClient.Proofs.Page.Requests
import CloudClient.Proofs.Url.Path
import CloudClient.Proofs.Queue.Address
import CloudClient.Proofs.Parameter
import CloudClient.Proofs.Missing
import CloudClient.Proofs.Queue.IdList
