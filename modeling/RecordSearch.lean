import RecordSearch.Session
import RecordSearch.Json.Writer
import RecordSearch.Settings.Layers
import RecordSearch.Settings.FilePath
import RecordSearch.Logging.Level
import RecordSearch.Proofs.Search.Meaning
import RecordSearch.Proofs.Checked
import RecordSearch.Proofs.Exchanges
import RecordSearch.Proofs.Search.Hits
import RecordSearch.Proofs.Search.Loading
import RecordSearch.Proofs.Search.StaleHits
import RecordSearch.Proofs.Write.EnsuredIndex
import RecordSearch.Proofs.Index.Ensuring
import RecordSearch.Proofs.Write.Rendering
import RecordSearch.Proofs.Write.Batch
import RecordSearch.Proofs.Write.BulkFormat
import RecordSearch.Proofs.Write.DocumentStore
import RecordSearch.Proofs.Interleaving
import RecordSearch.Proofs.Index.Racing
import RecordSearch.Proofs.FailedRequests
import RecordSearch.Proofs.Search.Callback
import RecordSearch.Proofs.Requests
import RecordSearch.Proofs.Session.FailedSteps
import RecordSearch.Proofs.Search.RoundTrip
import RecordSearch.Proofs.Search.Normalised
import RecordSearch.Proofs.Search.Pages
import RecordSearch.Proofs.Search.PageWindows
import RecordSearch.Proofs.Search.Limit
import RecordSearch.Proofs.Independence
import RecordSearch.Proofs.Session.ReadsAndWrites
import RecordSearch.Proofs.Value.Tree
import RecordSearch.Proofs.Json.Keys
import RecordSearch.Proofs.Settings.Names
import RecordSearch.Proofs.Settings.VariableLayer
import RecordSearch.Proofs.Settings.LayerTrees
import RecordSearch.Proofs.Settings.Checking
import RecordSearch.Proofs.Settings.Leafwise
import RecordSearch.Proofs.Value.Equality
import RecordSearch.Proofs.Search.Parameters
import RecordSearch.Proofs.Search.Filters
import RecordSearch.Proofs.Write.FailedItems
import RecordSearch.Proofs.Json.StringLiteral
import RecordSearch.Proofs.Json.Number
import RecordSearch.Proofs.Json.Grammar
import RecordSearch.Proofs.Json.Limits
import RecordSearch.Proofs.Json.Writing
import RecordSearch.Proofs.Settings.Hosts
import RecordSearch.Proofs.Json.Inside
import RecordSearch.Proofs.Settings.HostsVariable
import RecordSearch.Proofs.Settings.Selection
import RecordSearch.Proofs.Settings.References
import RecordSearch.Proofs.Settings.Unrelated
import RecordSearch.Engine
import RecordSearch.Text.UpperCase
import RecordSearch.Proofs.Logging.LevelText
import RecordSearch.Proofs.Logging.Setup
import RecordSearch.Proofs.Settings.Client
import RecordSearch.Platform.Usual
import RecordSearch.Proofs.Settings.HomePaths
