import TypedSearch.Aggregation.Aggregate
import TypedSearch.Aggregation.Batch
import TypedSearch.Aggregation.Bucket
import TypedSearch.Aggregation.Metric
import TypedSearch.Aggregation.Result
import TypedSearch.Aggregation.Tree
import TypedSearch.Calendar.Date
import TypedSearch.Calendar.Instant
import TypedSearch.Calendar.Stamp
import TypedSearch.Cli.Invocation
import TypedSearch.Cli.Run
import TypedSearch.Cli.Usage
import TypedSearch.Cluster.Client
import TypedSearch.Cluster.Exchange
import TypedSearch.Condition
import TypedSearch.Config.Basic
import TypedSearch.Config.Load
import TypedSearch.Decimal.Binary64
import TypedSearch.Decimal.Shortest
import TypedSearch.Decimal.Whole
import TypedSearch.Document
import TypedSearch.Engine
import TypedSearch.Error
import TypedSearch.Field
import TypedSearch.FileTree
import TypedSearch.Json.Basic
import TypedSearch.Json.Mismatch
import TypedSearch.Json.Number
import TypedSearch.Json.Printer
import TypedSearch.Json.Reader
import TypedSearch.Json.Shape
import TypedSearch.Keyed
import TypedSearch.Main
import TypedSearch.Page
import TypedSearch.Proofs.Aggregation.Evaluation
import TypedSearch.Proofs.Aggregation.Members
import TypedSearch.Proofs.Aggregation.Reading
import TypedSearch.Proofs.Aggregation.Results
import TypedSearch.Proofs.Aggregation.Shape
import TypedSearch.Proofs.Calendar.Date
import TypedSearch.Proofs.Calendar.Instant
import TypedSearch.Proofs.Calendar.Stamp
import TypedSearch.Proofs.Cli.Preview
import TypedSearch.Proofs.Cluster.Addresses
import TypedSearch.Proofs.Cluster.Answers
import TypedSearch.Proofs.Condition
import TypedSearch.Proofs.Condition.TimeRange
import TypedSearch.Proofs.Config.Precedence
import TypedSearch.Proofs.Config.Saving
import TypedSearch.Proofs.Config.Settings
import TypedSearch.Proofs.Decimal.Padded
import TypedSearch.Proofs.Document
import TypedSearch.Proofs.FileTree
import TypedSearch.Proofs.FirstError
import TypedSearch.Proofs.Json.Extent
import TypedSearch.Proofs.Json.Kinds
import TypedSearch.Proofs.Json.Places
import TypedSearch.Proofs.Json.Record
import TypedSearch.Proofs.Keyed
import TypedSearch.Proofs.LastEntry
import TypedSearch.Proofs.Query.Compile
import TypedSearch.Proofs.Query.Form
import TypedSearch.Proofs.Query.Semantics
import TypedSearch.Proofs.Registry
import TypedSearch.Proofs.Registry.Registrations
import TypedSearch.Proofs.Search.Aggregations
import TypedSearch.Proofs.Search.Boosts
import TypedSearch.Proofs.Search.BucketRequests
import TypedSearch.Proofs.Search.DeletedFilter
import TypedSearch.Proofs.Search.KnownFields
import TypedSearch.Proofs.Search.PageContents
import TypedSearch.Proofs.Search.Paging
import TypedSearch.Proofs.Search.Ranking
import TypedSearch.Proofs.Search.Request
import TypedSearch.Proofs.Search.RoundTrips
import TypedSearch.Proofs.Stats.Daily
import TypedSearch.Proofs.Text
import TypedSearch.Proofs.Text.Percent
import TypedSearch.Proofs.Toml.Document
import TypedSearch.Proofs.Toml.Numbers
import TypedSearch.Proofs.Toml.Strings
import TypedSearch.Proofs.Url.Segments
import TypedSearch.Proofs.Window
import TypedSearch.Proofs.Window.Defaults
import TypedSearch.Proofs.Window.Words
import TypedSearch.Proofs.Wire.AnswerBodies
import TypedSearch.Proofs.Wire.Body
import TypedSearch.Proofs.Wire.Containment
import TypedSearch.Proofs.Wire.DateLabels
import TypedSearch.Proofs.Wire.Encoding
import TypedSearch.Proofs.Wire.Explanation
import TypedSearch.Proofs.Wire.Reading
import TypedSearch.Query.Basic
import TypedSearch.Query.Compile
import TypedSearch.Registry
import TypedSearch.Schema.Basic
import TypedSearch.Schema.BlogField
import TypedSearch.Schema.Catalog
import TypedSearch.Schema.CommunityPosts
import TypedSearch.Schema.JobField
import TypedSearch.Schema.Jobs
import TypedSearch.Schema.PostField
import TypedSearch.Schema.TechBlogs
import TypedSearch.Search
import TypedSearch.Stats.Daily
import TypedSearch.Text.Blank
import TypedSearch.Text.Bytes
import TypedSearch.Text.CombiningClass
import TypedSearch.Text.Composition
import TypedSearch.Text.Decomposition
import TypedSearch.Text.Percent
import TypedSearch.Text.Split
import TypedSearch.Text.Table
import TypedSearch.Toml.Basic
import TypedSearch.Toml.Reader
import TypedSearch.Toml.Scalar
import TypedSearch.Toml.Writer
import TypedSearch.Url.Address
import TypedSearch.Url.Basic
import TypedSearch.Url.Domain
import TypedSearch.Url.Domain.Direction
import TypedSearch.Url.Domain.Joiner
import TypedSearch.Url.Domain.Mapping
import TypedSearch.Url.Domain.Mark
import TypedSearch.Url.File
import TypedSearch.Url.Host
import TypedSearch.Url.Parts
import TypedSearch.Url.Punycode
import TypedSearch.Url.Reader
import TypedSearch.Window
import TypedSearch.Wire.Answer
import TypedSearch.Wire.Body
import TypedSearch.Wire.TypedKeys
