import StoreBench.Backend
import StoreBench.ByteSize
import StoreBench.Check
import StoreBench.Decimal.Bits
import StoreBench.Decimal.Double
import StoreBench.Decimal.Nearest
import StoreBench.Decimal.Scale
import StoreBench.Decimal.Shortest
import StoreBench.Endpoint
import StoreBench.Entry
import StoreBench.Entry.Yaml
import StoreBench.Fault
import StoreBench.Keys
import StoreBench.Layers
import StoreBench.Metrics
import StoreBench.Metrics.Session
import StoreBench.Overrides
import StoreBench.Patch
import StoreBench.Placeholder
import StoreBench.Poll
import StoreBench.Poll.Duration
import StoreBench.Poll.Interrupter
import StoreBench.Poll.Probe
import StoreBench.Settings
import StoreBench.Settings.Flatten
import StoreBench.Settings.Source
import StoreBench.Text.Hidden
import StoreBench.Text.Numeral
import StoreBench.Text.Quoted
import StoreBench.Text.Ranges
import StoreBench.Text.Words
import StoreBench.Yaml.Cursor
import StoreBench.Yaml.Fault
import StoreBench.Yaml.Load
import StoreBench.Yaml.Node
import StoreBench.Yaml.Printer
import StoreBench.Yaml.Scalar
import StoreBench.Yaml.Tag
import StoreBench.Yaml.Token
import StoreBench.Yaml.Token.Property
import StoreBench.Yaml.Token.Scalar
import StoreBench.Yaml.Token.Stream
import StoreBench.Yaml.Typed
import StoreBench.Yaml.Value
import StoreBench.Proofs.Poll.Eventually
import StoreBench.Proofs.Poll.Interruptible
import StoreBench.Proofs.Placeholder.Scan
import StoreBench.Proofs.Settings.Leaves
import StoreBench.Proofs.Backend.Prepare
import StoreBench.Proofs.Backend.State
import StoreBench.Proofs.Backend.Succession
import StoreBench.Proofs.Metrics.Partition
import StoreBench.Proofs.Overrides.Effective
import StoreBench.Proofs.Overrides.Variables
import StoreBench.Proofs.Endpoint
import StoreBench.Proofs.Directory
import StoreBench.Proofs.Poll.Agreement
import StoreBench.Proofs.Poll.MoreTime
import StoreBench.Proofs.ByteSize
import StoreBench.Proofs.Entry.Comparison
import StoreBench.Proofs.Entry.Permission
import StoreBench.Proofs.Poll.Families
import StoreBench.Proofs.Entry.Matching
import StoreBench.Proofs.Entry.Visibility
import StoreBench.Proofs.Backend.Rules
import StoreBench.Proofs.Backend.Authority
import StoreBench.Proofs.Settings.Nesting
import StoreBench.Proofs.Settings.Ordinary
import StoreBench.Proofs.Settings.Tags
import StoreBench.Proofs.Layers
import StoreBench.Proofs.Placeholder.Missing
import StoreBench.Proofs.Poll.Bound
import StoreBench.Proofs.Placeholder.Lines
import StoreBench.Proofs.Settings.ReadBack
