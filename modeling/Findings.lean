import Findings.Main
import Findings.Number.FixedPlaces
import Findings.Search.Hybrid
import Findings.Store.Direct
import Findings.Proofs.Fusion.Ranking
import Findings.Proofs.Number.Magnitude
import Findings.Proofs.Vector.Table
import Findings.Proofs.Store.Tables
import Findings.Proofs.Store.Coherence
import Findings.Proofs.Store.Failure
import Findings.Proofs.Store.Writing
import Findings.Proofs.Store.Statistics
import Findings.Proofs.Store.Runs
import Findings.Proofs.Store.Reading
import Findings.Proofs.Vector.Hits
import Findings.Proofs.Search.Legs
import Findings.Proofs.Search.Failure
import Findings.Proofs.Search.Hybrid
import Findings.Proofs.Time.Calendar
import Findings.Proofs.Time.Digits
import Findings.Proofs.Time.ReadBack
import Findings.Proofs.Json.Text
import Findings.Proofs.Json.RoundTrip
import Findings.Proofs.Store.ReadBack
import Findings.Proofs.Lexical.Reading
import Findings.Proofs.Vector.Nearest
import Findings.Proofs.Vector.Cutoff
import Findings.Proofs.Search.ByVector
import Findings.Proofs.Store.Outcomes
import Findings.Proofs.Store.Rollback
import Findings.Proofs.Store.Catalog
import Findings.Proofs.Store.Refinement
import Findings.Proofs.Store.Ids
import Findings.Proofs.Search.Removed
import Findings.Proofs.Store.Sessions
import Findings.Proofs.Files.Lifecycle
import Findings.Proofs.Config.RoundTrip
import Findings.Proofs.Search.Nearest
import Findings.Proofs.Lexical.Matching
import Findings.Proofs.Search.ByWords
import Findings.Proofs.Json.Decode
import Findings.Proofs.Config.Initial
import Findings.Proofs.Number.Monotone
import Findings.Proofs.Fusion.Dominance
import Findings.Proofs.Lexical.Tokens
import Findings.Proofs.Search.OwnWords
import Findings.Proofs.Search.Unreadable
import Findings.Proofs.Store.Replacing
import Findings.Proofs.Store.Lookup
import Findings.Proofs.Store.Embeddings
import Findings.Proofs.Search.Materialize
import Findings.Proofs.Store.Metadata
import Findings.Proofs.Config.Overrides
import Findings.Proofs.Number.Undefined
import Findings.Proofs.Fusion.Scores
import Findings.Proofs.Files.Prepared
import Findings.Proofs.Config.Rules
import Findings.Proofs.Config.Acceptance
import Findings.Proofs.CommandLine.Spelling
import Findings.Proofs.CommandLine.ReadBack
