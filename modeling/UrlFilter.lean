import UrlFilter.Engine
import UrlFilter.Options.Json
import UrlFilter.Proofs.Digest
import UrlFilter.Proofs.Engine.Loading
import UrlFilter.Proofs.Options.Json
import UrlFilter.Proofs.Loader.Agreement
import UrlFilter.Proofs.Loader.Containment
import UrlFilter.Proofs.Loader.Footprint
import UrlFilter.Proofs.Loader.Freshness
import UrlFilter.Proofs.Loader.Runs
import UrlFilter.Proofs.Lru.Recency
import UrlFilter.Proofs.Pattern.Escaping
import UrlFilter.Proofs.Pattern.Writing
import UrlFilter.Proofs.Rule.Case
import UrlFilter.Proofs.Rule.Numbering
import UrlFilter.Proofs.Rule.Options
import UrlFilter.Proofs.Rule.Spelling
import UrlFilter.Proofs.RuleSet.History
import UrlFilter.Proofs.RuleSet.Rebuilding
import UrlFilter.Proofs.Text.Lines
