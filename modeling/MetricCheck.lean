import MetricCheck.Session
import MetricCheck.Cli.FileTree
import MetricCheck.Main
import MetricCheck.Proofs.Matching
import MetricCheck.Proofs.RuleText.RoundTrip
import MetricCheck.Proofs.Trie.Descent
import MetricCheck.Proofs.Trie.Invariant
import MetricCheck.Proofs.Trie.Order
import MetricCheck.Proofs.Completion
import MetricCheck.Proofs.Shadowing
import MetricCheck.Proofs.MetricText.RoundTrip
import MetricCheck.Proofs.MetricText.Lines
import MetricCheck.Proofs.RuleText.Image
import MetricCheck.Proofs.Session
import MetricCheck.Proofs.RuleOrder
import MetricCheck.Proofs.OneMoreRule
import MetricCheck.Proofs.OptionalRules
import MetricCheck.Proofs.RuleText.Rereading
import MetricCheck.Proofs.GraphDef
import MetricCheck.Proofs.RuleText.SingleRule
import MetricCheck.Proofs.RuleText.Layout
import MetricCheck.Proofs.Cli.Allowing
import MetricCheck.Proofs.Cli.Diagnostics
import MetricCheck.Proofs.GraphDef.Document
import MetricCheck.Proofs.Cli.Generating
import MetricCheck.Proofs.Cli.Figures
import MetricCheck.Proofs.Cli.Presentation
