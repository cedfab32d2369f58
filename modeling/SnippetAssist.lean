import SnippetAssist.Completion
import SnippetAssist.Context.Basic
import SnippetAssist.Context.Lexical
import SnippetAssist.Decimal.Scale
import SnippetAssist.Decimal.Shortest
import SnippetAssist.Engine
import SnippetAssist.Host
import SnippetAssist.Host.Memory
import SnippetAssist.Json.Reader
import SnippetAssist.Json.Value
import SnippetAssist.Json.Writer
import SnippetAssist.LineIndex
import SnippetAssist.Navigator
import SnippetAssist.Position
import SnippetAssist.Proofs.Expansion
import SnippetAssist.Proofs.Insertion
import SnippetAssist.Proofs.LineIndexLaws
import SnippetAssist.Proofs.NavigatorSessions
import SnippetAssist.Proofs.Occurrences
import SnippetAssist.Proofs.TabStops
import SnippetAssist.Ranking
import SnippetAssist.Registration
import SnippetAssist.Settings.Persist
import SnippetAssist.Settings.Store
import SnippetAssist.Snippet.Basic
import SnippetAssist.Snippet.Library
import SnippetAssist.Snippet.Repository
import SnippetAssist.Snippet.Wire
import SnippetAssist.Template
import SnippetAssist.Text.CaseProperty
import SnippetAssist.Text.CodeRange
import SnippetAssist.Text.Lowercase
import SnippetAssist.Text.Search
import SnippetAssist.Text.Utf8
import SnippetAssist.Text.WhiteSpace
import SnippetAssist.Usage
import SnippetAssist.Proofs.EngineRuns
import SnippetAssist.Proofs.DoubleOrder
import SnippetAssist.Proofs.DoublePacking
import SnippetAssist.Proofs.RankingOrder
import SnippetAssist.Proofs.DoubleRounding
import SnippetAssist.Proofs.DoubleMonotone
import SnippetAssist.Proofs.RankingUsage
import SnippetAssist.Proofs.RepositoryLaws
import SnippetAssist.Proofs.FallbackMode
import SnippetAssist.Proofs.JsonReadBack
import SnippetAssist.Proofs.JsonFuel
import SnippetAssist.Proofs.JsonShapes
import SnippetAssist.Proofs.SnippetStoredForm
import SnippetAssist.Proofs.StoredState
import SnippetAssist.Proofs.NavigatorWalk
import SnippetAssist.Proofs.LineIndexRoundTrip
import SnippetAssist.Proofs.RequestWindow
import SnippetAssist.Proofs.SettingsRoundTrip
import SnippetAssist.Proofs.RegistrationRetry
import SnippetAssist.Proofs.UsageRuns
import SnippetAssist.Proofs.RepositoryBatches
import SnippetAssist.Proofs.SnippetChecks
import SnippetAssist.Proofs.CommentLines
import SnippetAssist.Proofs.PrefixScore
import SnippetAssist.Proofs.ContextTokens
import SnippetAssist.Proofs.WholeWords
