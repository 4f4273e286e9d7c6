import ListingQuery.Http.Routes
import ListingQuery.Mongo.Collection
import ListingQuery.Predicate.Text
import ListingQuery.Schema.Declaration
import ListingQuery.Sql.Query
import ListingQuery.Storage.Memory
import ListingQuery.Proofs.Filter.Normal
import ListingQuery.Proofs.Predicate.Meaning
import ListingQuery.Proofs.Sql.Precedence
import ListingQuery.Proofs.Sql.Agreement
import ListingQuery.Proofs.Filter.Flat
import ListingQuery.Proofs.Filter.Scopes
import ListingQuery.Proofs.Shape.Names
import ListingQuery.Proofs.Filter.Placement
import ListingQuery.Proofs.Document.Order
import ListingQuery.Proofs.Document.StableSort
import ListingQuery.Proofs.Listing.Window
import ListingQuery.Proofs.Mongo.Stored
import ListingQuery.Proofs.Shape.Dotted
import ListingQuery.Proofs.Mongo.Addressing
import ListingQuery.Proofs.Mongo.Keys
import ListingQuery.Proofs.Mongo.References
import ListingQuery.Proofs.Listing.Async
import ListingQuery.Proofs.Listing.Calls
import ListingQuery.Proofs.Listing.Agreement
import ListingQuery.Proofs.Http.Segments
import ListingQuery.Proofs.Http.Questions
import ListingQuery.Proofs.Predicate.Typed
import ListingQuery.Proofs.Filter.Typed
import ListingQuery.Proofs.Listing.Sent
import ListingQuery.Proofs.Filter.Search
import ListingQuery.Proofs.Query.FirstFault
import ListingQuery.Proofs.Sql.Marks
import ListingQuery.Proofs.Sql.Parameters
import ListingQuery.Proofs.Calendar.RoundTrip
import ListingQuery.Proofs.Literal.Stability
import ListingQuery.Proofs.Sql.Ternary
import ListingQuery.Proofs.Filter.Scalars
import ListingQuery.Proofs.Sql.Selection
import ListingQuery.Proofs.Text.Bytes
import ListingQuery.Proofs.Calendar.FixedText
import ListingQuery.Proofs.Mongo.Dates
import ListingQuery.Proofs.Literal.Doubles
import ListingQuery.Proofs.Document.Preorder
import ListingQuery.Proofs.Mongo.Occurrences
import ListingQuery.Proofs.Filter.Levels
import ListingQuery.Proofs.Mongo.SearchForms
import ListingQuery.Proofs.Keyed
import ListingQuery.Proofs.Json.Wire
import ListingQuery.Proofs.Json.Record
import ListingQuery.Proofs.Filter.WireForm
import ListingQuery.Proofs.Query.WireForm
import ListingQuery.Proofs.Shape.Composition
import ListingQuery.Proofs.Filter.Operators
import ListingQuery.Proofs.Filter.Algebra
import ListingQuery.Proofs.Literal.WholeDoubles
import ListingQuery.Proofs.Filter.Integers
import ListingQuery.Proofs.Mongo.SortDocument
import ListingQuery.Proofs.Sql.References
import ListingQuery.Proofs.Sql.LikeParameters
import ListingQuery.Proofs.Predicate.Occurrences
import ListingQuery.Proofs.Filter.Entries
import ListingQuery.Proofs.Filter.FailedSearch
import ListingQuery.Proofs.Sql.Quotes
import ListingQuery.Proofs.Calendar.DayNumber
import ListingQuery.Proofs.Calendar.Faithful
import ListingQuery.Proofs.Document.FanOut
import ListingQuery.Proofs.Mongo.RoundTrip
import ListingQuery.Proofs.Schema.Declaration
import ListingQuery.Proofs.Text.Blank
import ListingQuery.Proofs.Shape.TypeCodes
import ListingQuery.Mongo.Extended
