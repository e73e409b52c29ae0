import QuoteSearch.Main
import QuoteSearch.Proofs.Search.LetterCase
import QuoteSearch.Proofs.Search.Marks
import QuoteSearch.Proofs.Search.Paging
import QuoteSearch.Proofs.Search.Plain
import QuoteSearch.Proofs.Search.Tabs
import QuoteSearch.Proofs.Store.History
import QuoteSearch.Proofs.Query.VideoId
import QuoteSearch.Proofs.Search.Transcript
import QuoteSearch.Proofs.Pattern.Count
import QuoteSearch.Proofs.Catalog.Count
import QuoteSearch.Proofs.Search.Statistics
import QuoteSearch.Proofs.Http.Faults
import QuoteSearch.Proofs.Http.Envelope
import QuoteSearch.Proofs.Highlight.Unmarked
import QuoteSearch.Proofs.Highlight.Token
import QuoteSearch.Proofs.Query.TagPlaces
import QuoteSearch.Proofs.Search.Interleaved
import QuoteSearch.Proofs.Text.Digit
import QuoteSearch.Proofs.Text.Order
import QuoteSearch.Proofs.Date
import QuoteSearch.Proofs.Store.Calendar
import QuoteSearch.Proofs.Search.Listing
import QuoteSearch.Proofs.Store.Batch
import QuoteSearch.Proofs.Query.IdToken
import QuoteSearch.Proofs.Store.Upsert
import QuoteSearch.Proofs.Store.Conjunction
import QuoteSearch.Proofs.Search.CommaList
import QuoteSearch.Proofs.Highlight.Greedy
import QuoteSearch.Proofs.Html.Reading
import QuoteSearch.Proofs.Page.Parameter
import QuoteSearch.Proofs.Query.Parsed
import QuoteSearch.Proofs.Settings.File
import QuoteSearch.Proofs.Timestamp
import QuoteSearch.Proofs.Pattern.Literal
import QuoteSearch.Proofs.Settings.Partial
import QuoteSearch.Proofs.Launch
