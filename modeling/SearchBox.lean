import SearchBox.CommandLine.Run
import SearchBox.Expression.Canonical
import SearchBox.Main
import SearchBox.Proofs.Canonical.Levels
import SearchBox.Proofs.Canonical.Normal
import SearchBox.Proofs.Canonical.RoundTrip
import SearchBox.Proofs.Canonical.Saving
import SearchBox.Proofs.Diagnostics
import SearchBox.Proofs.Grammar.Exactness
import SearchBox.Proofs.Grammar.Extents
import SearchBox.Proofs.Grammar.Limits
import SearchBox.Proofs.Grammar.Moved
import SearchBox.Proofs.Grammar.Nodes
import SearchBox.Proofs.Grammar.Parts
import SearchBox.Proofs.Grammar.Reuse
import SearchBox.Proofs.Grammar.Spans
import SearchBox.Proofs.Grammar.Viability
import SearchBox.Proofs.Layout
import SearchBox.Proofs.Lexing.Quotes
import SearchBox.Proofs.Lexing.Slices
import SearchBox.Proofs.Lexing.Tiling
import SearchBox.Proofs.Literals.Languages
import SearchBox.Proofs.Merging
import SearchBox.Proofs.Narrowing
import SearchBox.Proofs.Sql.Checked
import SearchBox.Proofs.Sql.Identifiers
import SearchBox.Proofs.Sql.Meaning
import SearchBox.Proofs.Sql.Noninterference
import SearchBox.Proofs.Sql.Patterns
import SearchBox.Proofs.Sql.RankedQueries
import SearchBox.Proofs.Sql.Stems
import SearchBox.Proofs.Sql.Strategies
import SearchBox.Proofs.Suggestions
import SearchBox.Proofs.Underlining
import SearchBox.Proofs.Unterminated
import SearchBox.Query
import SearchBox.Settings.File
import SearchBox.Sql.Compile
