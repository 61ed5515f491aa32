import SceneSelector.CommandLine.Arguments
import SceneSelector.CommandLine.Report
import SceneSelector.Configuration
import SceneSelector.Configuration.Layers
import SceneSelector.Cursor
import SceneSelector.Cursor.Pool
import SceneSelector.Data
import SceneSelector.Data.Json
import SceneSelector.Data.Yaml
import SceneSelector.Data.Yaml.Resolution
import SceneSelector.Data.Yaml.Scalar
import SceneSelector.Decimal
import SceneSelector.Decimal.Binary
import SceneSelector.Decimal.Shortest
import SceneSelector.Evaluation
import SceneSelector.Evaluation.Visits
import SceneSelector.Grammar
import SceneSelector.Grammar.Selector
import SceneSelector.Grammar.Table
import SceneSelector.Log
import SceneSelector.Log.Threshold
import SceneSelector.Matcher
import SceneSelector.Outcome
import SceneSelector.OutputFormat
import SceneSelector.Query
import SceneSelector.Query.Outline
import SceneSelector.Query.Reading
import SceneSelector.Record
import SceneSelector.Record.Drawing
import SceneSelector.Rule
import SceneSelector.Rule.Display
import SceneSelector.Setting
import SceneSelector.Setting.KeyPath
import SceneSelector.Setting.Toml
import SceneSelector.Setting.Toml.Moment
import SceneSelector.Setting.Toml.Node
import SceneSelector.Setting.Toml.Number
import SceneSelector.Setting.Toml.Text
import SceneSelector.Text.Case
import SceneSelector.Text.CaseIgnorable
import SceneSelector.Text.Cased
import SceneSelector.Text.CharSet
import SceneSelector.Text.Column
import SceneSelector.Text.Hexadecimal
import SceneSelector.Text.Identifier
import SceneSelector.Text.Quoted
import SceneSelector.Text.Visible
import SceneSelector.Token
import SceneSelector.Token.Lexer
import SceneSelector.Main
import SceneSelector.Proofs.Budget
import SceneSelector.Proofs.Descent
import SceneSelector.Proofs.Recognition
import SceneSelector.Proofs.Descent.Agreement
import SceneSelector.Proofs.Spelling
import SceneSelector.Proofs.Descent.Soundness
import SceneSelector.Proofs.Descent.Completeness
import SceneSelector.Proofs.Descent.Exactness
import SceneSelector.Proofs.Descent.Outcome
import SceneSelector.Proofs.DepthLimit
import SceneSelector.Proofs.Derivation
import SceneSelector.Proofs.Lexing
import SceneSelector.Proofs.LongestPrefix
import SceneSelector.Proofs.RoundTrip
import SceneSelector.Proofs.Extraction
import SceneSelector.Proofs.Policies
import SceneSelector.Proofs.MatchedTokens
import SceneSelector.Proofs.Levels
import SceneSelector.Proofs.Levels.Selector
import SceneSelector.Proofs.MatchedPrefix
import SceneSelector.Proofs.Acceptance
import SceneSelector.Proofs.Lexing.Lexemes
import SceneSelector.Proofs.Lexing.Coverage
import SceneSelector.Proofs.Transport
import SceneSelector.Proofs.Lexing.Display
import SceneSelector.Proofs.Assembly
import SceneSelector.Proofs.Congruence
import SceneSelector.Proofs.Inlining
import SceneSelector.Proofs.Visits
import SceneSelector.Proofs.Reordering
import SceneSelector.Proofs.Lexing.Resumption
import SceneSelector.Proofs.Locality
import SceneSelector.Proofs.Lookahead
import SceneSelector.Proofs.Lexing.Separation
import SceneSelector.Proofs.Assembly.Defects
import SceneSelector.Proofs.Failure
import SceneSelector.Proofs.Drawing
import SceneSelector.Proofs.Json
import SceneSelector.Proofs.Json.Query
import SceneSelector.Proofs.Drawing.Shape
import SceneSelector.Proofs.Extraction.Items
import SceneSelector.Proofs.Extraction.Loops
import SceneSelector.Proofs.Visits.Effort
import SceneSelector.Proofs.Visits.Selector
