import IndexGuard.Binary64.Basic
import IndexGuard.Binary64.Decimal
import IndexGuard.Binary64.Shortest
import IndexGuard.Command.Arguments
import IndexGuard.Command.Error
import IndexGuard.Command.Run
import IndexGuard.Config
import IndexGuard.Fields
import IndexGuard.Files.Path
import IndexGuard.Files.Read
import IndexGuard.Files.Tree
import IndexGuard.Filter.Basic
import IndexGuard.Filter.Coded
import IndexGuard.Filter.Compare
import IndexGuard.Filter.Match
import IndexGuard.Filter.Native
import IndexGuard.Http.Message
import IndexGuard.Http.Origin
import IndexGuard.Http.Site
import IndexGuard.Http.Target
import IndexGuard.Json.Number
import IndexGuard.Json.Printer
import IndexGuard.Json.Reader
import IndexGuard.Json.Source
import IndexGuard.Json.Value
import IndexGuard.Listing.Error
import IndexGuard.Listing.Resource
import IndexGuard.Listing.Service
import IndexGuard.Main
import IndexGuard.Program
import IndexGuard.Query.Coverage
import IndexGuard.Query.Index
import IndexGuard.Query.ListQuery
import IndexGuard.Query.Paging
import IndexGuard.Query.Params
import IndexGuard.Query.Request
import IndexGuard.Query.Sort
import IndexGuard.Regex.Class
import IndexGuard.Regex.Error
import IndexGuard.Regex.Pattern
import IndexGuard.Regex.Property
import IndexGuard.Regex.Search
import IndexGuard.Regex.Syntax
import IndexGuard.Store.Basic
import IndexGuard.Store.Memory
import IndexGuard.Store.Order
import IndexGuard.Text.Blank
import IndexGuard.Text.Category
import IndexGuard.Text.CharRuns
import IndexGuard.Text.Folding
import IndexGuard.Text.Percent
import IndexGuard.Text.Script
import IndexGuard.Text.Utf8
import IndexGuard.Proofs.Address
import IndexGuard.Proofs.Conjunction
import IndexGuard.Proofs.Fields
import IndexGuard.Proofs.Gathering
import IndexGuard.Proofs.Grouping
import IndexGuard.Proofs.Constraints
import IndexGuard.Proofs.Coverage
import IndexGuard.Proofs.Guard
import IndexGuard.Proofs.Pages
import IndexGuard.Proofs.Literal
import IndexGuard.Proofs.Decision
import IndexGuard.Proofs.Encoding
import IndexGuard.Proofs.Acceptance
import IndexGuard.Proofs.Deletion
import IndexGuard.Proofs.Injection
import IndexGuard.Proofs.Plan
import IndexGuard.Proofs.IndexOrder
import IndexGuard.Proofs.Unpaged
import IndexGuard.Proofs.Declarations
import IndexGuard.Proofs.Arguments
import IndexGuard.Proofs.FrontEnds
import IndexGuard.Proofs.Calls
import IndexGuard.Proofs.Ledger
import IndexGuard.Proofs.Identifier
import IndexGuard.Proofs.Recency
import IndexGuard.Proofs.Opacity
import IndexGuard.Proofs.Comparison
import IndexGuard.Proofs.Integers
import IndexGuard.Proofs.Numbers
import IndexGuard.Proofs.Arrangement
import IndexGuard.Proofs.Counting
import IndexGuard.Proofs.Flattening
import IndexGuard.Proofs.Canonical
import IndexGuard.Proofs.Containment
import IndexGuard.Proofs.Bytes
import IndexGuard.Proofs.LeadingInteger
import IndexGuard.Proofs.ControlKeys
import IndexGuard.Proofs.Reversal
import IndexGuard.Proofs.Seeding
import IndexGuard.Proofs.Expansion
import IndexGuard.Proofs.Brackets
import IndexGuard.Proofs.Tokens
import IndexGuard.Proofs.Occurrences
import IndexGuard.Proofs.SortText
